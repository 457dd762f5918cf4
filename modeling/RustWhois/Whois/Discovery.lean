import RustWhois.Whois.Referral

/-!
# Finding the server of a TLD

The cache of discovered WHOIS servers, the discovery through the root server and through common host
names, and the self-healing retry when a cached server has died.

* `parseRootServerResponse`, `generateWhoisPatterns`: the candidates;
* `discoverWhoisServerDynamic`, `findWhoisServer`, `rediscoverAndRetry`;
* **`keeps_discover`**: a discovery keeps what its connections and its queries keep;
* `Quiet`: nothing was answered but discovery queries;
* **`quiet_findWhoisServer`**, **`rediscoverAndRetry_spec`**: what the search leaves in the trace.
-/

namespace RustWhois

open Rust

/-! ## Candidates -/

/-- `ROOT_WHOIS_SERVERS`. -/
def rootWhoisServers : List Text := ["whois.iana.org"]

/-- `extract_server_after_colon`: the second piece of the line, if there is anything in it. -/
def extractServerAfterColon (line : Text) : Option Text :=
  match (line.split ':')[1]? with
  | some server => if server.trim.isEmpty then none else some server.trim
  | none => none

/-- `extract_server_from_line`. -/
def extractServerFromLine (line : Text) : Option Text :=
  let lineLower := toLowercase line
  if lineLower.startsWith "whois:" || lineLower.startsWith "refer:" ||
      lineLower.contains "whois server:" then
    extractServerAfterColon line
  else none

/-- `parse_root_server_response`. -/
def parseRootServerResponse (response : Text) : Option Text :=
  (response.lines.findSome? fun line => extractServerFromLine line.trim).or
    (extractWhoisServer response)

/-- `generate_whois_patterns`. -/
def generateWhoisPatterns (tld : Text) : List Text :=
  let mk (s : String) : Text := s.toList ++ tld
  if tld.len = 2 then
    [mk "whois.nic.", mk "whois.", mk "whois.domain.", mk "whois.registry.", mk "whois.dns."]
  else [mk "whois.nic.", mk "whois.", mk "whois.registry."]

/-! ## Discovery -/

section Env

variable (env : Env)

/-- The answers of the root servers, in their order. -/
def queryRoots (tld : Text) : List Text → Whois (List (Option Text))
  | [] => pure []
  | rootServer :: rest => do
    let r ← Eff.attempt (discoveryWhoisQuery env rootServer tld)
    let results ← queryRoots tld rest
    match r with
    | .ok response => pure (parseRootServerResponse response :: results)
    | .error _ => pure (none :: results)

/-- `query_root_servers_for_tld`: the first successful result. -/
def queryRootServersForTld (tld : Text) : Whois (Option Text) := do
  let results ← queryRoots env tld rootWhoisServers
  pure (results.findSome? id)

/-- The first host that takes a connection. -/
def firstReachable : List Text → Whois (Option Text)
  | [] => pure none
  | pattern :: patterns => do
    if ← testWhoisServer env pattern then pure (some pattern)
    else firstReachable patterns

/-- `discover_whois_server_dynamic`. -/
def discoverWhoisServerDynamic (tld : Text) : Whois (Option Text) := do
  match ← queryRootServersForTld env tld with
  | some server => do
    if ← testWhoisServer env server then pure (some server)
    else firstReachable env (generateWhoisPatterns tld)
  | none => firstReachable env (generateWhoisPatterns tld)

/-- `find_whois_server`. -/
def findWhoisServer (tld : Text) : Whois Text := do
  match ← Eff.reads fun w => w.tldServers tld with
  | some server => pure server
  | none =>
    match ← discoverWhoisServerDynamic env tld with
    | some server => do
      -- another task may have inserted it meanwhile
      Eff.modify fun w => if (w.tldServers tld).isSome then w
        else { w with tldServers := Function.update w.tldServers tld (some server) }
      pure server
    | none => Eff.throw (.unsupportedTld tld)

/-- `rediscover_and_retry`: purge the entry, rediscover, retry once. -/
def rediscoverAndRetry (tld failedServer domain : Text) (originalError : WhoisError) :
    Whois (Text × Text) := do
  Eff.modify fun w => { w with tldServers := Function.update w.tldServers tld none }
  match ← discoverWhoisServerDynamic env tld with
  | some server =>
    if server ≠ failedServer then do
      let data ← rawWhoisQuery env server domain
      Eff.modify fun w => { w with tldServers := Function.update w.tldServers tld (some server) }
      pure (server, data)
    else Eff.throw originalError
  | none => Eff.throw originalError

end Env

/-! ## What the search keeps -/

section Keeps

open Eff (Keeps)

variable {env : Env} {R : World → World → Prop} [Std.Refl R] [IsTrans World R]

theorem keeps_queryRoots
    (hquery : ∀ server query, Keeps R (discoveryWhoisQuery env server query)) (tld : Text) :
    ∀ roots : List Text, Keeps R (queryRoots env tld roots)
  | [] => Keeps.pure _
  | root :: roots => by
    refine (hquery root tld).attempt.bind fun r => ?_
    refine (keeps_queryRoots hquery tld roots).bind fun rs => ?_
    cases r <;> exact Keeps.pure _

theorem keeps_firstReachable (htest : ∀ server, Keeps R (testWhoisServer env server)) :
    ∀ patterns : List Text, Keeps R (firstReachable env patterns)
  | [] => Keeps.pure _
  | pattern :: patterns => by
    refine (htest pattern).bind fun b => ?_
    cases b
    · exact keeps_firstReachable htest patterns
    · exact Keeps.pure _

/-- **A discovery keeps what its connections and its queries keep.** -/
theorem keeps_discover (htest : ∀ server, Keeps R (testWhoisServer env server))
    (hquery : ∀ server query, Keeps R (discoveryWhoisQuery env server query)) (tld : Text) :
    Keeps R (discoverWhoisServerDynamic env tld) := by
  have hroot : Keeps R (queryRootServersForTld env tld) :=
    (keeps_queryRoots hquery tld rootWhoisServers).bind fun _ => Keeps.pure _
  refine hroot.bind fun r => ?_
  cases r with
  | none => exact keeps_firstReachable htest _
  | some server =>
    refine (htest server).bind fun b => ?_
    cases b
    · exact keeps_firstReachable htest _
    · exact Keeps.pure _

end Keeps

/-! ## What the search leaves in the trace -/

/-- No referral was asked for and nothing was answered but discovery queries. -/
def Quiet (w w' : World) : Prop :=
  ∃ t, w'.trace = w.trace ++ t ∧ issued t = [] ∧ ∀ kind, kind ≠ .discovery → answers kind t = []

namespace Quiet

instance : Std.Refl Quiet := ⟨fun _ => ⟨[], (List.append_nil _).symm, rfl, fun _ _ => rfl⟩⟩

instance : IsTrans World Quiet := ⟨by
  rintro w₁ w₂ w₃ ⟨t, htr, hi, ha⟩ ⟨t', htr', hi', ha'⟩
  refine ⟨t ++ t', by rw [htr', htr, List.append_assoc], by rw [issued_append, hi, hi']; rfl, ?_⟩
  intro kind hk
  rw [answers_append, ha kind hk, ha' kind hk]
  rfl⟩

theorem of_wire {w w' : World} (h : Wire w w') : Quiet w w' := by
  obtain ⟨-, t, ht, htr⟩ := h
  exact ⟨t, htr, issued_wire ht, fun kind _ => answers_wire ht kind⟩

open Eff (Keeps)

variable {env : Env}

theorem testWhoisServer (server : Text) : Keeps Quiet (testWhoisServer env server) :=
  fun w => of_wire (Wire.testWhoisServer server w)

theorem discoveryWhoisQuery (server query : Text) :
    Keeps Quiet (discoveryWhoisQuery env server query) := by
  intro w
  rcases hq : RustWhois.discoveryWhoisQuery env server query w with ⟨r, w'⟩
  obtain ⟨-, t, ht, htr⟩ := executeWhoisQuery_spec hq
  refine ⟨t ++ _, by rw [← List.append_assoc]; exact htr, ?_, fun kind hk => ?_⟩
  · rw [issued_append, issued_wire ht, issued_answerEvent]
    rfl
  · rw [answers_append, answers_wire ht, answers_answerEvent_of_ne (Ne.symm hk)]
    rfl

theorem discoverWhoisServerDynamic (tld : Text) :
    Keeps Quiet (discoverWhoisServerDynamic env tld) :=
  keeps_discover testWhoisServer discoveryWhoisQuery tld

theorem update {f : World → World} (hf : ∀ w, (f w).trace = w.trace) :
    Keeps Quiet (Eff.modify f : Whois Unit) :=
  Keeps.modify fun w => ⟨[], by rw [hf, List.append_nil], rfl, fun _ _ => rfl⟩

end Quiet

/-- **The search for a server answers no query but discovery queries.** -/
theorem quiet_findWhoisServer (env : Env) (tld : Text) :
    Eff.Keeps Quiet (findWhoisServer env tld) := by
  refine (Eff.Keeps.reads _).bind fun r => ?_
  cases r with
  | some server => exact Eff.Keeps.pure _
  | none =>
    refine (Quiet.discoverWhoisServerDynamic tld).bind fun r => ?_
    cases r with
    | none => exact Eff.Keeps.throw _
    | some server =>
      refine (Quiet.update fun w => ?_).bind fun _ => Eff.Keeps.pure _
      split_ifs <;> rfl

/-! ## The first answer -/

/-- Of the queries that are no discovery, one was answered, by a registry server. -/
def FirstAnswer (w w' : World) (p : Text × Text) : Prop :=
  ∃ t, w'.trace = w.trace ++ t ∧ issued t = [] ∧ answers .raw t = [p] ∧ answers .referral t = []

namespace FirstAnswer

variable {w₁ w₂ w₃ : World} {p : Text × Text}

theorem after_quiet (h : Quiet w₁ w₂) (h' : FirstAnswer w₂ w₃ p) : FirstAnswer w₁ w₃ p := by
  obtain ⟨t, htr, hi, ha⟩ := h
  obtain ⟨t', htr', hi', hraw, href⟩ := h'
  refine ⟨t ++ t', by rw [htr', htr, List.append_assoc], ?_, ?_, ?_⟩
  · rw [issued_append, hi, hi']
    rfl
  · rw [answers_append, ha .raw (by decide), hraw]
    rfl
  · rw [answers_append, ha .referral (by decide), href]
    rfl

end FirstAnswer

section Spec

variable {env : Env} {server query : Text} {w w' : World}

theorem rawWhoisQuery_ok {answer : Text} (h : rawWhoisQuery env server query w = (.ok answer, w')) :
    FirstAnswer w w' (server, answer) := by
  obtain ⟨-, t, ht, htr⟩ := executeWhoisQuery_spec h
  refine ⟨t ++ _, by rw [← List.append_assoc]; exact htr, ?_, ?_, ?_⟩
  · rw [issued_append, issued_wire ht]
    rfl
  · rw [answers_append, answers_wire ht, answers_answerEvent_ok]
    rfl
  · rw [answers_append, answers_wire ht, answers_answerEvent_of_ne (by decide)]
    rfl

theorem rawWhoisQuery_error {e : WhoisError}
    (h : rawWhoisQuery env server query w = (.error e, w')) : Quiet w w' := by
  obtain ⟨-, t, ht, htr⟩ := executeWhoisQuery_spec h
  exact ⟨t, by simpa [answerEvent] using htr, issued_wire ht, fun kind _ => answers_wire ht kind⟩

/-- **A retry that returned did so with the answer of the rediscovered server.** -/
theorem rediscoverAndRetry_spec {tld failedServer domain : Text} {e : WhoisError} {p : Text × Text}
    (h : rediscoverAndRetry env tld failedServer domain e w = (.ok p, w')) :
    FirstAnswer w w' p := by
  obtain ⟨_, w₁, hmod, h⟩ := Eff.bind_eq_ok.mp h
  obtain ⟨found, w₂, hdisc, h⟩ := Eff.bind_eq_ok.mp h
  have h₁ : Quiet w w₁ := by
    cases hmod
    exact ⟨[], (List.append_nil _).symm, rfl, fun _ _ => rfl⟩
  have h₂ : Quiet w₁ w₂ := (Quiet.discoverWhoisServerDynamic tld).of_eq hdisc
  cases found with
  | none => cases h
  | some server =>
    dsimp only at h
    split_ifs at h
    · obtain ⟨data, w₃, hq, h⟩ := Eff.bind_eq_ok.mp h
      obtain ⟨t, htr, hrest⟩ := rawWhoisQuery_ok hq
      cases h
      exact .after_quiet (trans_of Quiet h₁ h₂) ⟨t, htr, hrest⟩
    · cases h

end Spec

end RustWhois
