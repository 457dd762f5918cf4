import RustWhois.Parser
import RustWhois.Whois.Discovery

/-!
# WHOIS lookups

`WhoisService::lookup` and `lookup_ip`: the query to the registry, the referrals, and the result
made of the two answers.

* `domainResult`, `ipResult`: the result, from the first answer and the last one;
* `lookup`, `lookupIp`;
* `Conversation`: who answered what in a run, read off its trace;
* **`lookup_eq_ok`**, **`lookupIp_eq_ok`**: a run that returned is a conversation, and its result is
  made of the first answer and the last one.
-/

namespace RustWhois

open Rust WhoisParser

/-! ## The result -/

section Clock

variable (clock : Clock)

/-- What `lookup` makes of the registry's answer and of the answer the referrals ended with. -/
def domainResult (whoisServer rawData server data : Text) : LookupResult :=
  let (parsedData, parsingAnalysis) := parseWhoisDataWithAnalysis clock data
  let status := classifyResponse data parsedData
  if server ≠ whoisServer then
    if status = .rateLimited then
      let (registryParsed, registryAnalysis) := parseWhoisDataWithAnalysis clock rawData
      let registryStatus := classifyResponse rawData registryParsed
      if registryStatus ≠ .rateLimited then
        { server := whoisServer
          rawData := rawData
          parsedData := some registryParsed
          parsingAnalysis := registryAnalysis ++ ["Referral server ".toList ++ server ++
            " was rate-limited; kept registry response".toList]
          status := registryStatus }
      else { server, rawData := data, parsedData := some parsedData, parsingAnalysis, status }
    else
      let registryParsed := parseWhoisData clock rawData
      { server
        rawData := data
        parsedData := some (parsedData.fillMissingFrom registryParsed)
        parsingAnalysis := parsingAnalysis ++
          ["Backfilled missing fields from registry response (".toList ++ whoisServer ++ ")".toList]
        status }
  else { server, rawData := data, parsedData := some parsedData, parsingAnalysis, status }

/-- What `lookup_ip` makes of the first registry's answer and of the answer the referrals ended
with. -/
def ipResult (whoisServer rawData finalServer finalData : Text) : LookupResult :=
  let (parsedData, parsingAnalysis) := parseIpWhoisDataWithAnalysis clock finalData
  let (parsedData, parsingAnalysis) :=
    if finalServer ≠ whoisServer then
      match parsedData, parseIpWhoisDataWithAnalysis clock rawData with
      | some parsed, (some initialParsed, _) =>
        (some (parsed.fillMissingFrom initialParsed), parsingAnalysis ++
          ["Backfilled missing fields from initial RIR response (".toList ++ whoisServer ++
            ")".toList])
      | parsedData, _ => (parsedData, parsingAnalysis)
    else (parsedData, parsingAnalysis)
  let status := match parsedData with
    | some parsed => classifyResponse finalData parsed
    | none => .found
  { server := finalServer, rawData := finalData, parsedData, parsingAnalysis, status }

end Clock

/-! ## The lookups -/

section Env

variable (env : Env)

/-- The server of the TLD and its answer; a server that fails is rediscovered once. -/
def queryRegistry (tld domain : Text) : Whois (Text × Text) := do
  let whoisServer ← findWhoisServer env tld
  match ← Eff.attempt (rawWhoisQuery env whoisServer domain) with
  | .ok data => pure (whoisServer, data)
  | .error e => rediscoverAndRetry env tld whoisServer domain e

/-- `lookup`. -/
def lookup (domain : Text) : Whois LookupResult := do
  let tld ← Eff.lift (extractTld env.suffix domain)
  let (whoisServer, rawData) ← queryRegistry env tld domain
  let (server, data) ← followReferrals env whoisServer rawData domain
  pure (domainResult env.clock whoisServer rawData server data)

/-- `lookup_ip`. -/
def lookupIp (ipAddr : Text) : Whois LookupResult := do
  let validatedIp ← Eff.lift (ValidatedIpAddress.new ipAddr)
  let rir ← Eff.lift (detectRir validatedIp)
  let rawData ← rawWhoisQuery env rir.whoisServer ipAddr
  let (finalServer, finalData) ← followReferrals env rir.whoisServer rawData ipAddr
  pure (ipResult env.clock rir.whoisServer rawData finalServer finalData)

end Env

/-! ## Conversations -/

/-- The events of a lookup: the registry answered `first`, and `last` is the last answer of a
referral server, or the first answer if there is none. -/
structure Conversation (t : List Event) (first last : Text × Text) : Prop where
  first_eq : answers .raw t = [first]
  last_eq : last = (answers .referral t).getLastD first
  /-- The loop never returns to the server it started from. -/
  fresh : ∀ p ∈ answers .referral t, p.1 ≠ first.1

namespace Conversation

variable {t : List Event} {first last : Text × Text}

/-- A referral was followed exactly when the servers differ. -/
theorem last_eq_of_server (h : Conversation t first last) (hs : last.1 = first.1) :
    last = first := by
  rcases List.eq_nil_or_concat (answers .referral t) with hn | ⟨ps, p, hp⟩
  · rw [h.last_eq, hn]
    rfl
  · have hl : last = p := by rw [h.last_eq, hp]; simp
    exact absurd hs (hl ▸ h.fresh p (by rw [hp]; simp))

theorem last_mem (h : Conversation t first last) :
    last ∈ answers .raw t ∨ last ∈ answers .referral t := by
  rcases List.eq_nil_or_concat (answers .referral t) with hn | ⟨ps, p, hp⟩
  · left
    rw [h.last_eq, hn, h.first_eq]
    simp
  · right
    rw [h.last_eq, hp]
    simp

end Conversation

section Runs

variable {env : Env} {w w' : World}

theorem queryRegistry_eq_ok {tld domain : Text} {p : Text × Text}
    (h : queryRegistry env tld domain w = (.ok p, w')) : FirstAnswer w w' p := by
  obtain ⟨server, w₁, hfind, h⟩ := Eff.bind_eq_ok.mp h
  have h₁ : Quiet w w₁ := (quiet_findWhoisServer env tld).of_eq hfind
  obtain ⟨r, w₂, hatt, h⟩ := Eff.bind_eq_ok.mp h
  have hq := Eff.attempt_eq_ok.mp hatt
  cases r with
  | ok data =>
    cases h
    exact .after_quiet h₁ (rawWhoisQuery_ok hq)
  | error e =>
    exact .after_quiet (trans_of Quiet h₁ (rawWhoisQuery_error hq)) (rediscoverAndRetry_spec h)

theorem conversation_of_followReferrals {w₁ : World} {first last : Text × Text} {domain : Text}
    (hf : FirstAnswer w w₁ first)
    (h : followReferrals env first.1 first.2 domain w₁ = (.ok last, w')) :
    ∃ t, w'.trace = w.trace ++ t ∧ Conversation t first last := by
  obtain ⟨t, htr, hi, hraw, href⟩ := hf
  obtain ⟨last', w'', t', hrun, -, htr', hc⟩ := followLoop_chain env domain env.config.maxReferrals
    first.1 first.2 [first.1] w₁
  have heq : ((.ok last', w'') : Except WhoisError (Text × Text) × World) = (.ok last, w') :=
    hrun.symm.trans h
  cases heq
  have hraw' : answers .raw (t ++ t') = [first] := by
    rw [answers_append, hraw, hc.only .raw (by decide)]
    rfl
  have href' : answers .referral (t ++ t') = answers .referral t' := by
    rw [answers_append, href, List.nil_append]
  refine ⟨t ++ t', by rw [htr', htr, List.append_assoc], hraw', ?_, ?_⟩
  · rw [href']
    exact hc.last_eq
  · rw [href']
    intro p hp hs
    have hmem : p.1 ∈ issued t' := hc.asked.subset (List.mem_map_of_mem hp)
    exact hc.fresh _ hmem (hs ▸ List.mem_singleton_self _)

/-- **A lookup that returned is a conversation**, and its result is made of the first answer and the
last one. -/
theorem lookup_eq_ok {domain : Text} {r : LookupResult} (h : lookup env domain w = (.ok r, w')) :
    ∃ t first last, w'.trace = w.trace ++ t ∧ Conversation t first last ∧
      r = domainResult env.clock first.1 first.2 last.1 last.2 := by
  obtain ⟨tld, w₀, htld, h⟩ := Eff.bind_eq_ok.mp h
  obtain ⟨-, rfl⟩ := Eff.lift_eq_ok.mp htld
  obtain ⟨first, w₁, hreg, h⟩ := Eff.bind_eq_ok.mp h
  obtain ⟨last, w₂, href, h⟩ := Eff.bind_eq_ok.mp h
  obtain ⟨t, htr, hc⟩ := conversation_of_followReferrals (queryRegistry_eq_ok hreg) href
  cases h
  exact ⟨t, first, last, htr, hc, rfl⟩

theorem lookupIp_eq_ok {ipAddr : Text} {r : LookupResult}
    (h : lookupIp env ipAddr w = (.ok r, w')) :
    ∃ t first last, w'.trace = w.trace ++ t ∧ Conversation t first last ∧
      r = ipResult env.clock first.1 first.2 last.1 last.2 := by
  obtain ⟨ip, w₀, hip, h⟩ := Eff.bind_eq_ok.mp h
  obtain ⟨-, rfl⟩ := Eff.lift_eq_ok.mp hip
  obtain ⟨rir, w₁, hrir, h⟩ := Eff.bind_eq_ok.mp h
  obtain ⟨-, rfl⟩ := Eff.lift_eq_ok.mp hrir
  obtain ⟨rawData, w₂, hraw, h⟩ := Eff.bind_eq_ok.mp h
  obtain ⟨last, w₃, href, h⟩ := Eff.bind_eq_ok.mp h
  obtain ⟨t, htr, hc⟩ := conversation_of_followReferrals (rawWhoisQuery_ok hraw) href
  cases h
  exact ⟨t, (rir.whoisServer, rawData), last, htr, hc, rfl⟩

end Runs

end RustWhois
