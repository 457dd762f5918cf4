import RustWhois.Client
import RustWhois.Errors
import RustWhois.Std.Outcome

/-!
# How lookups fail

The errors that a lookup of the client ends with, and what the HTTP service says of them.

* `NetworkError`: the errors of a WHOIS query;
* `refusal`: the error that a query deserves by itself;
* `ends_lookup`, `ends_lookupIp`, `ends_lookupWithFallback`: a lookup fails with one of these;
* `errorReplies`: the answers of the HTTP service, by the query alone;
* **`reply_of_fetchResponse`**: a failed lookup is answered with one of them, and so is every caller
  who shares its outcome.
-/

namespace RustWhois

open Rust

/-! ## Errors of the network -/

/-- The errors of a query over a connection. -/
inductive NetworkError : WhoisError → Prop
  | timeout : NetworkError .timeout
  | ioError (msg : Text) : NetworkError (.ioError msg)
  | responseTooLarge : NetworkError .responseTooLarge
  | invalidUtf8 : NetworkError .invalidUtf8

section Queries

open Eff (Ends)

variable {env : Env}

theorem NetworkError.result {α : Type} (r : Io α) :
    Outcome NetworkError (fun _ => True) r.result := by
  cases r with
  | ready a => trivial
  | failed msg => exact .ioError msg
  | pending => exact .timeout

theorem ends_nextTick {P : WhoisError → Prop} : Ends P (fun _ => True) nextTick :=
  fun _ => trivial

theorem ends_record {P : WhoisError → Prop} (e : Event) : Ends P (fun _ => True) (record e) :=
  fun _ => trivial

theorem ends_connectAny {P : WhoisError → Prop} (host : Text) :
    ∀ (lastErr : Text) (addrs : List IpAddr), Ends P (fun _ => True) (connectAny env host lastErr addrs)
  | _, [] => Ends.pure trivial
  | lastErr, addr :: addrs => by
    rw [connectAny]
    refine ends_nextTick.bind fun t _ => ?_
    cases env.net.connect t addr with
    | ready _ => exact (ends_record _).bind fun _ _ => Ends.pure trivial
    | failed msg => exact ends_connectAny host msg addrs
    | pending => exact Ends.pure trivial

theorem ends_connectHost {P : WhoisError → Prop} (server : Text) :
    Ends P (fun _ => True) (connectHost env server) := by
  refine ends_nextTick.bind fun t _ => ?_
  cases env.net.lookupHost t server with
  | ready addrs => exact ends_connectAny server _ addrs
  | failed msg => exact Ends.pure trivial
  | pending => exact Ends.pure trivial

theorem ends_testWhoisServer {P : WhoisError → Prop} (server : Text) :
    Ends P (fun _ => True) (testWhoisServer env server) := by
  refine (ends_connectHost server).bind fun r _ => ?_
  cases r <;> exact Ends.pure trivial

theorem ends_sendQuery (query : Text) : Ends NetworkError (fun _ => True) (sendQuery env query) := by
  refine (ends_record _).bind fun _ _ => ends_nextTick.bind fun t _ => ?_
  cases env.net.write t (queryLine query) with
  | ok _ => exact Ends.pure trivial
  | error msg => exact Ends.throw (.ioError msg)

theorem ends_readLoop {P : WhoisError → Prop} :
    ∀ (n : Nat) (buffer : Buffer) (response : List UInt8),
      Ends P (fun r => Outcome NetworkError (fun _ => True) r.1) (readLoop env n buffer response)
  | 0, _, _ => Ends.pure NetworkError.responseTooLarge
  | n + 1, buffer, response => by
    rw [readLoop]
    refine ends_nextTick.bind fun t _ => ?_
    split_ifs
    · exact Ends.pure NetworkError.timeout
    refine ends_nextTick.bind fun t _ => ?_
    cases env.net.read t buffer.bytes.length with
    | ready bytes =>
      dsimp only
      split_ifs
      · exact Ends.pure trivial
      · exact Ends.pure NetworkError.responseTooLarge
      · exact ends_readLoop n _ _
    | failed msg => exact Ends.pure (NetworkError.ioError msg)
    | pending => exact Ends.pure NetworkError.timeout

theorem outcome_decodeResponse {r : Except WhoisError (List UInt8)}
    (h : Outcome NetworkError (fun _ => True) r) :
    Outcome NetworkError (fun _ => True) (r.bind decodeResponse) := by
  cases r with
  | error e => exact h
  | ok bytes =>
    show Outcome _ _ (decodeResponse bytes)
    rw [decodeResponse]
    cases fromUtf8 bytes with
    | some s => trivial
    | none => exact NetworkError.invalidUtf8

theorem ends_readWhoisResponse : Ends NetworkError (fun _ => True) (readWhoisResponse env) := by
  refine Ends.bind (Q := fun _ => True) (Ends.reads fun _ => trivial) fun pool _ => ?_
  dsimp only
  refine Ends.bind (Q := fun _ => True) (Ends.modify _ trivial) fun _ _ => ?_
  refine (ends_readLoop _ _ _).bind fun r hr => ?_
  refine Ends.bind (Q := fun _ => True) (Ends.modify _ trivial) fun _ _ => ?_
  exact Ends.lift (outcome_decodeResponse hr)

theorem ends_connectToWhoisServer (server : Text) :
    Ends NetworkError (fun _ => True) (connectToWhoisServer env server) :=
  (ends_connectHost server).bind fun r _ => Ends.lift (NetworkError.result r)

/-- **A registry query fails with an error of the network.** -/
theorem ends_executeWhoisQuery (kind : QueryKind) (server query : Text) :
    Ends NetworkError (fun _ => True) (executeWhoisQuery env kind server query) := by
  have hexchange : Ends NetworkError (fun _ => True)
      (exchange env (connectToWhoisServer env server) query) :=
    (ends_connectToWhoisServer server).bind fun _ _ =>
      (ends_sendQuery query).bind fun _ _ => ends_readWhoisResponse
  refine (hexchange.retry isTransient maxRetryAttempts).bind fun answer _ => ?_
  exact (ends_record _).bind fun _ _ => Ends.pure trivial

/-! ## Searches and referrals raise nothing of their own -/

theorem ends_queryRoots {P : WhoisError → Prop} (tld : Text) :
    ∀ roots : List Text, Ends P (fun _ => True) (queryRoots env tld roots)
  | [] => Ends.pure trivial
  | root :: roots => by
    refine (ends_executeWhoisQuery .discovery root tld).attempt.bind fun r _ => ?_
    refine (ends_queryRoots tld roots).bind fun results _ => ?_
    cases r <;> exact Ends.pure trivial

theorem ends_firstReachable {P : WhoisError → Prop} :
    ∀ patterns : List Text, Ends P (fun _ => True) (firstReachable env patterns)
  | [] => Ends.pure trivial
  | pattern :: patterns => by
    refine (ends_testWhoisServer pattern).bind fun b _ => ?_
    cases b
    · exact ends_firstReachable patterns
    · exact Ends.pure trivial

theorem ends_discoverWhoisServerDynamic {P : WhoisError → Prop} (tld : Text) :
    Ends P (fun _ => True) (discoverWhoisServerDynamic env tld) := by
  have hroot : Ends P (fun _ => True) (queryRootServersForTld env tld) :=
    (ends_queryRoots tld rootWhoisServers).bind fun _ _ => Ends.pure trivial
  refine hroot.bind fun r _ => ?_
  cases r with
  | none => exact ends_firstReachable _
  | some server =>
    refine (ends_testWhoisServer server).bind fun b _ => ?_
    cases b
    · exact ends_firstReachable _
    · exact Ends.pure trivial

theorem ends_findWhoisServer (tld : Text) :
    Ends (· = .unsupportedTld tld) (fun _ => True) (findWhoisServer env tld) := by
  refine Ends.bind (Q := fun _ => True) (Ends.reads fun _ => trivial) fun known _ => ?_
  cases known with
  | some server => exact Ends.pure trivial
  | none =>
    refine (ends_discoverWhoisServerDynamic tld).bind fun found _ => ?_
    cases found with
    | none => exact Ends.throw rfl
    | some server =>
      exact Ends.bind (Q := fun _ => True) (Ends.modify _ trivial) fun _ _ => Ends.pure trivial

theorem ends_rediscoverAndRetry (tld failedServer domain : Text) {e : WhoisError}
    (he : NetworkError e) :
    Ends NetworkError (fun _ => True) (rediscoverAndRetry env tld failedServer domain e) := by
  refine Ends.bind (Q := fun _ => True) (Ends.modify _ trivial) fun _ _ => ?_
  refine (ends_discoverWhoisServerDynamic tld).bind fun found _ => ?_
  cases found with
  | none => exact Ends.throw he
  | some server =>
    dsimp only
    split_ifs
    · refine (ends_executeWhoisQuery .raw server domain).bind fun data _ => ?_
      exact Ends.bind (Q := fun _ => True) (Ends.modify _ trivial) fun _ _ => Ends.pure trivial
    · exact Ends.throw he

/-- **Following referrals never fails**: a referral that fails ends the loop. -/
theorem ends_followReferrals {P : WhoisError → Prop} (server data domain : Text) :
    Ends P (fun _ => True) (followReferrals env server data domain) := by
  intro w
  obtain ⟨last, w', t, hrun, -⟩ :=
    followLoop_chain env domain env.config.maxReferrals server data [server] w
  rw [followReferrals, hrun]
  trivial

end Queries

/-! ## Lookups -/

/-- The error that a query deserves by itself: a domain without a top-level domain, or one for whose
top-level domain no server is found; an address that is none, or that no registry serves. -/
def refusal (suffix : SuffixList) (isIp : Bool) (query : Text) : Option WhoisError :=
  if isIp then
    match ValidatedIpAddress.new query with
    | .error e => some e
    | .ok ip => match detectRir ip with
      | .error e => some e
      | .ok _ => none
  else match extractTld suffix query with
    | .error e => some e
    | .ok tld => some (.unsupportedTld tld)

/-- What a lookup fails with. -/
def LookupError (suffix : SuffixList) (isIp : Bool) (query : Text) (e : WhoisError) : Prop :=
  NetworkError e ∨ refusal suffix isIp query = some e

section Lookups

open Eff (Ends)

theorem ends_lookup (env : Env) (domain : Text) :
    Ends (LookupError env.suffix false domain) (fun _ => True) (lookup env domain) := by
  have htld : Outcome (LookupError env.suffix false domain)
      (fun tld => refusal env.suffix false domain = some (.unsupportedTld tld))
      (extractTld env.suffix domain) := by
    cases h : extractTld env.suffix domain with
    | error e => exact .inr (by simp [refusal, h])
    | ok tld => show _ = _; simp [refusal, h]
  refine (Ends.lift htld).bind fun tld hrefusal => ?_
  have hregistry : Ends (LookupError env.suffix false domain) (fun _ => True)
      (queryRegistry env tld domain) := by
    refine Ends.bind (Q := fun _ => True) ?_ fun server _ => ?_
    · exact (ends_findWhoisServer tld).mono (fun e he => .inr (he ▸ hrefusal)) fun _ h => h
    refine (ends_executeWhoisQuery .raw server domain).attempt.bind fun r hr => ?_
    cases r with
    | ok data => exact Ends.pure trivial
    | error e => exact (ends_rediscoverAndRetry tld server domain hr).mono (fun _ => .inl) fun _ h => h
  refine hregistry.bind fun first _ => ?_
  exact (ends_followReferrals first.1 first.2 domain).bind fun last _ => Ends.pure trivial

theorem ends_lookupIp (env : Env) (ipAddr : Text) :
    Ends (LookupError env.suffix true ipAddr) (fun _ => True) (lookupIp env ipAddr) := by
  have hip : Outcome (LookupError env.suffix true ipAddr)
      (fun ip => ValidatedIpAddress.new ipAddr = .ok ip) (ValidatedIpAddress.new ipAddr) := by
    cases h : ValidatedIpAddress.new ipAddr with
    | error e => exact .inr (by simp [refusal, h])
    | ok ip => rfl
  refine (Ends.lift hip).bind fun ip hnew => ?_
  have hrir : Outcome (LookupError env.suffix true ipAddr) (fun _ => True) (detectRir ip) := by
    cases h : detectRir ip with
    | error e => exact .inr (by simp [refusal, hnew, h])
    | ok rir => trivial
  refine (Ends.lift hrir).bind fun rir _ => ?_
  refine Ends.bind (Q := fun _ => True) ?_ fun rawData _ => ?_
  · exact (ends_executeWhoisQuery .raw rir.whoisServer ipAddr).mono (fun _ => .inl) fun _ h => h
  exact (ends_followReferrals rir.whoisServer rawData ipAddr).bind fun last _ => Ends.pure trivial

end Lookups

/-! ## Replies -/

/-- The answers of the HTTP service to a query whose lookup fails. -/
def errorReplies (suffix : SuffixList) (isIp : Bool) (query : Text) : List ErrorResponse :=
  (refusal suffix isIp query).toList.map WhoisError.intoResponse ++
    [⟨408, "Network timeout"⟩, ⟨413, "Response too large"⟩, ⟨500, "Internal server error"⟩,
      ⟨502, "Upstream server returned invalid response"⟩]

theorem NetworkError.intoResponse_mem {e : WhoisError} (h : NetworkError e) (suffix : SuffixList)
    (isIp : Bool) (query : Text) : e.intoResponse ∈ errorReplies suffix isIp query := by
  rw [errorReplies]
  refine List.mem_append_right _ ?_
  cases h with
  | timeout => exact List.mem_cons_self
  | responseTooLarge => exact List.mem_cons_of_mem _ List.mem_cons_self
  | ioError msg => exact List.mem_cons_of_mem _ (List.mem_cons_of_mem _ List.mem_cons_self)
  | invalidUtf8 =>
    exact List.mem_cons_of_mem _ (List.mem_cons_of_mem _ (List.mem_cons_of_mem _
      List.mem_cons_self))

theorem isBadRequest_of_extractTld {suffix : SuffixList} {domain : Text} {e : WhoisError}
    (h : extractTld suffix domain = .error e) : e.intoResponse.status = 400 := by
  rw [extractTld] at h
  split at h
  · split at h
    · cases h
    · cases h
      rfl
  · dsimp only at h
    split_ifs at h
    cases h
    rfl

theorem isBadRequest_of_validatedIp {s : Text} {e : WhoisError}
    (h : ValidatedIpAddress.new s = .error e) : e.intoResponse.status = 400 := by
  simp only [ValidatedIpAddress.new] at h
  split at h
  · cases h
  · cases h
    rfl

theorem isBadRequest_of_detectRir {ip : ValidatedIpAddress} {e : WhoisError}
    (h : detectRir ip = .error e) : e.intoResponse.status = 400 := by
  rw [detectRir] at h
  split_ifs at h
  · cases h
    rfl
  · split at h <;> cases h

/-- A refusal is the fault of the caller. -/
theorem isBadRequest_of_refusal {suffix : SuffixList} {isIp : Bool} {query : Text} {e : WhoisError}
    (h : refusal suffix isIp query = some e) : e.intoResponse.status = 400 := by
  simp only [refusal] at h
  split at h
  · split at h
    · next e' hnew =>
      cases h
      exact isBadRequest_of_validatedIp hnew
    · next ip hnew =>
      split at h
      · next e' hrir =>
        cases h
        exact isBadRequest_of_detectRir hrir
      · cases h
  · split at h
    · next e' htld =>
      cases h
      exact isBadRequest_of_extractTld htld
    · cases h
      rfl

theorem LookupError.ne_httpError {suffix : SuffixList} {isIp : Bool} {query : Text} {e : WhoisError}
    (h : LookupError suffix isIp query e) (msg : Text) : e ≠ .httpError msg := by
  rintro rfl
  rcases h with h | h
  · cases h
  · cases isBadRequest_of_refusal h

theorem LookupError.intoResponse_mem {suffix : SuffixList} {isIp : Bool} {query : Text}
    {e : WhoisError} (h : LookupError suffix isIp query e) :
    e.intoResponse ∈ errorReplies suffix isIp query := by
  rcases h with hnetwork | hrefusal
  · exact hnetwork.intoResponse_mem suffix isIp query
  · rw [errorReplies, hrefusal]
    exact List.mem_append_left _ (List.mem_singleton.mpr rfl)

theorem nodup_errorReplies (suffix : SuffixList) (isIp : Bool) (query : Text) :
    ((errorReplies suffix isIp query).map (·.status)).Nodup := by
  have hstatus : (errorReplies suffix isIp query).map (·.status) =
      (refusal suffix isIp query).toList.map (fun e => e.intoResponse.status) ++
        [408, 413, 500, 502] := by
    rw [errorReplies, List.map_append, List.map_map]
    rfl
  rw [hstatus]
  cases h : refusal suffix isIp query with
  | none => decide
  | some e =>
    show (e.intoResponse.status :: [408, 413, 500, 502]).Nodup
    rw [isBadRequest_of_refusal h]
    decide

namespace WhoisClient

open Eff (Ends)

/-- **The client fails as its WHOIS service does**: what goes wrong in RDAP is not reported. -/
theorem ends_lookupWithFallback (env : ClientEnv) (query : Text) (isIp : Bool) :
    Ends (LookupError env.whois.suffix isIp query) (fun _ => True)
      (lookupWithFallback env query isIp) := by
  refine Ends.bind (Q := fun _ => True) (fun _ => trivial) fun rdapResult _ => ?_
  cases rdapResult with
  | ok result => exact Ends.pure trivial
  | error e =>
    refine Ends.bind (Q := fun _ => True) ?_ fun result _ => Ends.pure trivial
    refine Ends.within (Q := fun _ => True) ?_
    cases isIp with
    | false => exact ends_lookup env.whois query
    | true => exact ends_lookupIp env.whois query

theorem ends_fetchResponse (env : ClientEnv) (query : Text) (isIp : Bool) (queryTimeMs : Nat) :
    Ends (LookupError env.whois.suffix isIp query) (fun _ => True)
      (fetchResponse env query isIp queryTimeMs) :=
  (ends_lookupWithFallback env query isIp).bind fun _ _ => Ends.pure trivial

/-- **A failed lookup says nothing about the servers it talked to.** Whatever they do, the HTTP
service answers with one of five replies, of five different statuses, that depend on the query alone,
and the callers who share the outcome are answered alike. -/
theorem reply_of_fetchResponse (suffix : SuffixList) (isIp : Bool) (query : Text) :
    ((errorReplies suffix isIp query).map (·.status)).Nodup ∧
    (errorReplies suffix isIp query).length ≤ 5 ∧
    ∀ (env : ClientEnv) (w : ClientWorld) (queryTimeMs : Nat) (e : WhoisError),
      env.whois.suffix = suffix →
      (fetchResponse env query isIp queryTimeMs w).1 = .error e →
      e.intoResponse ∈ errorReplies suffix isIp query ∧
        e.duplicate.intoResponse = e.intoResponse := by
  refine ⟨nodup_errorReplies suffix isIp query, ?_, ?_⟩
  · rw [errorReplies]
    cases refusal suffix isIp query <;> simp
  · rintro env w queryTimeMs e rfl hrun
    have he : LookupError env.whois.suffix isIp query e :=
      (ends_fetchResponse env query isIp queryTimeMs).of_error (Eff.run_of_fst hrun)
    exact ⟨he.intoResponse_mem, WhoisError.intoResponse_duplicate_iff.mpr he.ne_httpError⟩

/-- A client that reaches nobody: DNS and HTTP fail with a message. -/
def unreachable (msg : Text) : ClientEnv where
  whois := { Env.playing [] with
    net := { Network.playing [] with lookupHost := fun _ _ => .failed msg } }
  rdap := { (answering []).rdap with http := fun _ _ => .failed msg }

/-- The message does not get out. -/
theorem reply_of_fetchResponse_unreachable : ∃ e : WhoisError,
    (fetchResponse (unreachable "10.0.0.7") "example.com" false 0
      { newWorld with whois := .knowing [("com", "whois.a")] }).1 = .error e ∧
    e = .ioError "10.0.0.7" ∧
    e.intoResponse ∈ errorReplies (unreachable "10.0.0.7").whois.suffix false "example.com" := by
  have hrun : (fetchResponse (unreachable "10.0.0.7") "example.com" false 0
      { newWorld with whois := .knowing [("com", "whois.a")] }).1 =
      .error (.ioError "10.0.0.7") := by decide +kernel
  exact ⟨_, hrun, rfl, ((reply_of_fetchResponse _ false "example.com").2.2 _ _ 0 _ rfl hrun).1⟩

end WhoisClient

end RustWhois
