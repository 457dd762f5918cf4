import RustWhois.Rdap.Service
import RustWhois.Whois.Status

/-!
# The client

`WhoisClient`: RDAP first, and WHOIS where that fails.

* `lookupWithFallback`;
* `Unreadable`: an RDAP server answered with a document that does not deserialize;
* **`recorded_iff`**: a result reported as found has a record unless it is made of such an answer.
-/

namespace RustWhois

open Rust

/-- The two services of a client. -/
structure ClientEnv where
  whois : Env
  rdap : RdapEnv

/-- Their states. -/
structure ClientWorld where
  whois : World
  rdap : RdapWorld

abbrev Client (α : Type) : Type := Eff ClientWorld WhoisError α

namespace WhoisClient

def onRdap {α : Type} (x : Rdap α) : Client α := x.within (·.rdap) fun rdap w => { w with rdap }

def onWhois {α : Type} (x : Whois α) : Client α :=
  x.within (·.whois) fun whois w => { w with whois }

section Env

variable (env : ClientEnv)

/-- `lookup_with_fallback`. -/
def lookupWithFallback (query : Text) (isIp : Bool) : Client LookupResult := do
  let rdapResult ← Eff.attempt (onRdap
    (if isIp then RdapService.lookupIp env.rdap query else RdapService.lookup env.rdap query))
  match rdapResult with
  | .ok result => pure { result with server := "RDAP: ".toList ++ result.server }
  | .error _ => do
    let result ← onWhois (if isIp then lookupIp env.whois query else lookup env.whois query)
    pure { result with server := "WHOIS: ".toList ++ result.server }

/-- `fetch_response`, with the time it took. -/
def fetchResponse (query : Text) (isIp : Bool) (queryTimeMs : Nat) : Client WhoisResponse := do
  let result ← lookupWithFallback env query isIp
  pure
    { domain := query
      whoisServer := result.server
      rawData := result.rawData
      parsedData := result.parsedData
      lookupStatus := result.status
      cached := false
      queryTimeMs
      parsingAnalysis := some result.parsingAnalysis }

end Env

/-! ## Found without a record -/

/-- An RDAP server answered, with a document that does not deserialize. -/
def Unreadable (serde : Serde) (isIp : Bool) (t : List RdapAnswer) : Prop :=
  ∃ rawData, ⟨.found, rawData⟩ ∈ t ∧ ¬ serde.Reads isIp rawData

/-- A result reported as found has a record. -/
def Recorded (r : LookupResult) : Prop := r.status = .found → r.parsedData.isSome

variable {serde : Serde} {isIp : Bool}

theorem not_unreadable_nil : ¬ Unreadable serde isIp [] := by
  rintro ⟨rawData, h, -⟩
  cases h

theorem recorded_resultOf {parse : Text → Option ParsedWhoisData × List Text}
    (hparse : ∀ rawData, (parse rawData).1.isSome ↔ serde.Reads isIp rawData)
    (server missing : Text) (answer : RdapAnswer) :
    Recorded (RdapService.resultOf parse server missing answer) ↔
      ¬ Unreadable serde isIp [answer] := by
  have hun : Unreadable serde isIp [answer] ↔
      answer.status = .found ∧ ¬ serde.Reads isIp answer.rawData := by
    constructor
    · rintro ⟨rawData, hmem, hread⟩
      cases List.mem_singleton.mp hmem
      exact ⟨rfl, hread⟩
    · rintro ⟨hs, hread⟩
      exact ⟨answer.rawData, List.mem_singleton.mpr (by rw [← hs]), hread⟩
  rw [hun, ← hparse, not_and_not_right, Recorded, RdapService.resultOf]
  split_ifs with hs
  · rw [hs]
    exact iff_of_true nofun nofun
  · rfl

theorem isSome_of_whois {env : Env} {query : Text} {w w' : World} {r : LookupResult}
    (h : (if isIp then lookupIp env query else lookup env query) w = (.ok r, w')) :
    r.parsedData.isSome := by
  cases isIp with
  | false =>
    obtain ⟨t, first, last, -, -, rfl⟩ := lookup_eq_ok h
    obtain ⟨p, hp, -⟩ := domainResult_assembled env.clock first last
    rw [hp]
    rfl
  | true =>
    obtain ⟨t, first, last, -, -, rfl⟩ := lookupIp_eq_ok h
    obtain ⟨p, hp, -⟩ := ipResult_assembled env.clock first last
    rw [hp]
    rfl

theorem leaves_rdap (env : RdapEnv) (query : Text) (isIp : Bool) :
    RdapService.Leaves (fun r answer => Recorded r ↔ ¬ Unreadable env.serde isIp [answer])
      (if isIp then RdapService.lookupIp env query else RdapService.lookup env query) := by
  cases isIp with
  | false =>
    refine (RdapService.leaves_lookup env query).imp ?_
    rintro r answer ⟨server, missing, rfl⟩
    exact recorded_resultOf (fun _ => isSome_parseRdapResponse) server missing answer
  | true =>
    refine (RdapService.leaves_lookupIp env query).imp ?_
    rintro r answer ⟨server, missing, rfl⟩
    exact recorded_resultOf (fun _ => isSome_parseRdapIpResponse) server missing answer

/-- **A result reported as found has a record exactly if no RDAP server answered with a document
that does not deserialize**, for domains and for IP addresses. -/
theorem recorded_iff {env : ClientEnv} {query : Text} {isIp : Bool} {w w' : ClientWorld}
    {r : LookupResult} (h : lookupWithFallback env query isIp w = (.ok r, w')) :
    ∃ t, w'.rdap.trace = w.rdap.trace ++ t ∧
      ((r.status = .found → r.parsedData.isSome) ↔ ¬ Unreadable env.rdap.serde isIp t) := by
  obtain ⟨rdapResult, w₁, hatt, h⟩ := Eff.bind_eq_ok.mp h
  obtain ⟨rdap, hrdap, rfl⟩ := Eff.within_eq (Eff.attempt_eq_ok.mp hatt)
  have hleaves := leaves_rdap env.rdap query isIp
  cases rdapResult with
  | ok result =>
    cases h
    obtain ⟨answer, htr, hiff⟩ := hleaves.of_ok hrdap
    exact ⟨[answer], htr, hiff⟩
  | error e =>
    obtain ⟨result, w₂, hrun, h⟩ := Eff.bind_eq_ok.mp h
    obtain ⟨whois, hwhois, rfl⟩ := Eff.within_eq hrun
    cases h
    have htr : rdap.trace = w.rdap.trace := hleaves.of_error hrdap
    refine ⟨[], by simpa using htr, iff_of_true (fun _ => ?_) not_unreadable_nil⟩
    exact isSome_of_whois (r := result) hwhois

/-! ## A server that answers -/

/-- A client whose RDAP server answers every query with a text. Of the deserializers, what they do
with the bootstrap data here and with an empty object; any other text is no JSON. -/
def answering (body : Text) : ClientEnv where
  whois := .playing []
  rdap :=
    let noJson : Text := "expected value at line 1 column 1"
    let emptyObject : Text := "\x7b\x7d"
    let services : Text := "\x7b\"services\":[[[\"com\"],[\"https://rdap.a\"]]]\x7d"
    { config := .small
      clock := (Env.playing []).clock
      suffix := fun _ => none
      http := fun t _ => .answered ⟨200, "OK"⟩ none (.ok (if t = 0 then services else body))
      waits := fun _ => ⟨0, 0, 0, 0⟩
      serde :=
        { domainResponse := fun s =>
            if s = emptyObject then .ok ⟨none, none, none, none⟩ else .error noJson
          value := fun s => if s = emptyObject then .ok (.object []) else .error noJson }
      bootstrapFromStr := fun s =>
        if s = services then .ok (.single "com" "https://rdap.a") else .error noJson
      parseUrl := fun s => .ok ⟨s, [[]], [], false⟩
      pushSegment := Url.append
      bootstrapUrl := ⟨"https://data.iana.org", ["rdap", "dns.json"], [], false⟩ }

/-- A new client. -/
def newWorld : ClientWorld := ⟨.knowing [], ⟨.empty, 0, 0, []⟩⟩

/-- The result of an answer of that server to a query for `example.com`. -/
def answeringResult (body : Text) : LookupResult :=
  RdapService.resultOf (parseRdapResponse (answering body).rdap.serde (answering body).rdap.clock)
    "RDAP: https://rdap.a" [] ⟨.found, body⟩

/-- An error page is reported as found. -/
theorem recorded_errorPage : ∃ r : LookupResult,
    (lookupWithFallback (answering "oops") "example.com" false newWorld).1 = .ok r ∧
      r.status = .found ∧ r.parsedData = none :=
  ⟨answeringResult "oops", by decide +kernel, by decide +kernel, by decide +kernel⟩

/-- An empty object is a record, with nothing in it. -/
theorem recorded_iff_emptyObject : ∃ t,
    (lookupWithFallback (answering "\x7b\x7d") "example.com" false newWorld).2.rdap.trace =
      newWorld.rdap.trace ++ t ∧
    (((answeringResult "\x7b\x7d").status = .found →
        (answeringResult "\x7b\x7d").parsedData.isSome) ↔
      ¬ Unreadable (answering "\x7b\x7d").rdap.serde false t) := by
  have hrun : (lookupWithFallback (answering "\x7b\x7d") "example.com" false newWorld).1 =
      .ok (answeringResult "\x7b\x7d") := by decide +kernel
  exact recorded_iff (Eff.run_of_fst hrun)

end WhoisClient

end RustWhois
