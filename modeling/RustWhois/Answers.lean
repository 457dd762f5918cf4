import RustWhois.Cache.Upstream
import RustWhois.Failures
import RustWhois.Revalidation
import RustWhois.Std.Slices

/-!
# What callers of the client get

The lookups of `WhoisClient` through the cache, which is keyed by the text of the query.

* `WhoisClient.lookupInternal`, `WhoisClient.lookupWithOptions`: one lookup after another;
* **`key_of_queries`**: the text of a query is its cache key, and tells a domain from an address;
* `Genuine`: the runs of coalesced calls in which the client fetches;
* **`answer_of_lookups`**: every caller gets a response about the query, or an error of which the HTTP
  service says nothing but what the query tells.
-/

namespace Rust

/-! ## The last character of an address -/

theorem last_natText (n : Nat) : ∀ c ∈ (natText n).getLast?, c ≠ '.' := by
  intro c hc hdot
  have hdigit := isSome_of_mem_toDigits readsDigits_ten n c (List.mem_of_mem_getLast? hc)
  rw [hdot] at hdigit
  revert hdigit
  decide

theorem Ipv4Addr.last_toText (a : Ipv4Addr) : ∀ c ∈ a.toText.getLast?, c ≠ '.' := by
  have hjoin : a.toText = (natText a.o0.toNat ++ ['.'] ++ (natText a.o1.toNat ++ ['.'] ++
      (natText a.o2.toNat ++ ['.']))) ++ natText a.o3.toNat := by
    simp [Ipv4Addr.toText, Ipv4Addr.octets, Text.join]
  have hne : natText a.o3.toNat ≠ [] := Nat.toDigits_ne_nil
  rw [hjoin, List.getLast?_append_of_ne_nil _ hne]
  exact last_natText _

theorem notMem_groupsText (gs : List UInt16) : '.' ∉ groupsText gs := by
  intro h
  rcases mem_join h with h | ⟨t, ht, h⟩
  · revert h
    decide
  · obtain ⟨g, -, rfl⟩ := List.mem_map.mp ht
    exact not_mem_groupText (by decide) g h

/-- **The text of an address does not end in a dot.** -/
theorem IpAddr.last_toText (a : IpAddr) : ∀ c ∈ a.toText.getLast?, c ≠ '.' := by
  cases a with
  | v4 a => exact a.last_toText
  | v6 a =>
    simp only [toText, Ipv6Addr.toText]
    have hnone : ∀ t : Text, '.' ∉ t → ∀ c ∈ t.getLast?, c ≠ '.' := fun t ht c hc hdot =>
      ht (hdot ▸ List.mem_of_mem_getLast? hc)
    split
    · next b hb =>
      have hne : b.toText ≠ [] := by
        simp [Ipv4Addr.toText, Ipv4Addr.octets, Text.join]
      rw [List.getLast?_append_of_ne_nil _ hne]
      exact b.last_toText
    · split_ifs
      · refine hnone _ ?_
        simp only [List.mem_append, not_or]
        exact ⟨⟨notMem_groupsText _, by decide⟩, notMem_groupsText _⟩
      · exact hnone _ (notMem_groupsText _)

end Rust

namespace RustWhois

open Rust

/-! ## Cache keys -/

/-- A query that is accepted. -/
def Accepted (parseDnsName : DnsNameParser) (v : ValidatedQuery) : Prop :=
  ∃ s, ValidatedQuery.new parseDnsName s = .ok v

variable {parseDnsName : DnsNameParser} {v : ValidatedQuery}

theorem stripSuffix_dot {s : Text} (h : ∀ c ∈ s.getLast?, c ≠ '.') :
    s.stripSuffix "." = none := by
  refine Text.stripSuffix_eq_none fun hsuffix => ?_
  obtain ⟨t, rfl⟩ := hsuffix
  exact h '.' (by simp) rfl

/-- **An accepted query is its own cache key.** -/
theorem Accepted.normalizeDomain (h : Accepted parseDnsName v) :
    CacheService.normalizeDomain v.asStr = v.asStr := by
  have hlast : ∀ c ∈ v.asStr.getLast?, c ≠ '.' := by
    obtain ⟨s, h⟩ := h
    rcases ValidatedQuery.asStr_of_new h with ⟨a, -, htext⟩ | ⟨-, htext⟩
    · rw [htext]
      exact a.last_toText
    · have hdots : (normalizeName s).trimEndMatches '.' = normalizeName s :=
        (trimEndMatches_toLowercase_iff (by decide)).mpr (List.rdropWhile_idempotent _ _)
      rw [htext]
      intro c hc hdot
      have hany := rdropWhile_eq_self_iff_any.mp hdots
      rw [Option.mem_def.mp hc, hdot] at hany
      cases hany
  rw [CacheService.normalizeDomain, stripSuffix_dot hlast]
  rfl

/-- **Its text tells a domain from an address.** -/
theorem Accepted.isIp (h : Accepted parseDnsName v) : v.isIp = (IpAddr.parse v.asStr).isSome := by
  obtain ⟨s, h⟩ := h
  rcases ValidatedQuery.new_cases h with ⟨a, -, rfl⟩ | ⟨d, rfl⟩
  · show true = (IpAddr.parse a.toText).isSome
    rw [IpAddr.parse_toText]
    rfl
  · obtain ⟨-, hlooks, hd⟩ := ValidatedQuery.new_domain_iff.mp h
    have hnone := not_parse_of_not_numeric (ValidatedDomain.mem_of_new hd).2
      (not_numeric_of_new hlooks hd)
    show false = (IpAddr.parse d.name).isSome
    rw [hnone]
    rfl

/-- **Queries with one cache key are one query.** The key of an accepted query is its text, and two
accepted queries with one key are both domains or both addresses. -/
theorem key_of_queries (parseDnsName : DnsNameParser) (s s' : Text) (v v' : ValidatedQuery)
    (h : ValidatedQuery.new parseDnsName s = .ok v)
    (h' : ValidatedQuery.new parseDnsName s' = .ok v') :
    CacheService.normalizeDomain v.asStr = v.asStr ∧
    (CacheService.normalizeDomain v.asStr = CacheService.normalizeDomain v'.asStr →
      v.asStr = v'.asStr ∧ v.isIp = v'.isIp) := by
  have ha : Accepted parseDnsName v := ⟨s, h⟩
  have ha' : Accepted parseDnsName v' := ⟨s', h'⟩
  refine ⟨ha.normalizeDomain, fun hkey => ?_⟩
  rw [ha.normalizeDomain, ha'.normalizeDomain] at hkey
  exact ⟨hkey, by rw [ha.isIp, ha'.isIp, hkey]⟩

/-- A domain and an address. -/
theorem key_of_queries_address :
    CacheService.normalizeDomain "2001:db8::1" = "2001:db8::1".toList ∧
    (CacheService.normalizeDomain "2001:db8::1" = CacheService.normalizeDomain "1.2.3.4.a" →
      "2001:db8::1".toList = "1.2.3.4.a".toList ∧ true = false) :=
  key_of_queries lengthLimits "2001:DB8::1" "1.2.3.4.A." ⟨.ipAddress
    (.ofAddr (.v6 ⟨0x2001, 0xdb8, 0, 0, 0, 0, 0, 1⟩))⟩ ⟨.domain ⟨"1.2.3.4.a"⟩⟩
    (by decide +kernel) (by decide +kernel)

/-! ## One lookup after another -/

namespace WhoisClient

/-- A client with its cache, if it has one. -/
structure Instance where
  world : ClientWorld
  cache : Option CacheService

/-- The times of a call: when it starts, when it asks the cache, when its fetch returns, and when it is
done. -/
structure LookupTimes where
  start : Nat
  asked : Nat
  fetched : Nat
  done : Nat

/-- `start_time.elapsed().as_millis() as u64`. -/
def LookupTimes.elapsedMs (self : LookupTimes) (now : Nat) : Nat :=
  (now - self.start) / 1000000 % 2 ^ 64

section Env

variable (env : ClientEnv) (times : LookupTimes)

/-- `lookup_internal`, with the answer of the cache's backend. The flag says that a fetch was run. -/
def lookupInternal (query : Text) (isIp fresh : Bool) (answer : BackendAnswer) (self : Instance) :
    (Bool × Except WhoisError WhoisResponse) × Instance :=
  let (fetched, world) := fetchResponse env query isIp (times.elapsedMs times.fetched) self.world
  if fresh then ((true, fetched), { self with world })
  else match self.cache with
    | some cache =>
      let ((ran, result), cache) := cache.getOrFetch times.asked times.done query answer fetched
      let result := result.map fun response =>
        if response.cached then { response with queryTimeMs := times.elapsedMs times.done }
        else response
      -- the fetch is run only if both tiers missed
      ((ran, result), ⟨if ran then world else self.world, some cache⟩)
    | none => ((true, fetched), { self with world })

/-- `lookup_with_options`. -/
def lookupWithOptions (parseDnsName : DnsNameParser) (query : Text) (fresh : Bool)
    (answer : BackendAnswer) (self : Instance) :
    (Bool × Except WhoisError WhoisResponse) × Instance :=
  match ValidatedQuery.new parseDnsName query with
  | .error e => ((false, .error e), self)
  | .ok validated =>
    lookupInternal env times validated.asStr validated.isIp fresh answer self

end Env

end WhoisClient

/-! ## Coalesced lookups -/

section Lookups

open WhoisClient
open Eff (Ends)

/-- The fetch that returns in a step is that of the client for an accepted query with the key of the
call, in some state of its services. -/
def Genuine (env : Nat → ClientEnv) (parseDnsName : DnsNameParser) (s : Coalesced)
    (e : CoalescedEvent) : Prop :=
  ∀ c outcome sole call, e.action = .resume c (.returned outcome) sole →
    s.fleet.calls c = some call → call.phase = .fetching →
    ∃ v queryTimeMs w, Accepted parseDnsName v ∧
      CacheService.normalizeDomain v.asStr = call.slot.2 ∧
      outcome = (fetchResponse (env call.slot.1) v.asStr v.isIp queryTimeMs w).1

/-- The outcome of a lookup of the query, or a copy of it. -/
def AnswerTo (suffix : SuffixList) (v : ValidatedQuery) :
    Except WhoisError WhoisResponse → Prop
  | .ok r => r.domain = v.asStr
  | .error e => ∃ e₀, LookupError suffix v.isIp v.asStr e₀ ∧ (e = e₀ ∨ e = e₀.duplicate)

theorem domain_of_fetchResponse {env : ClientEnv} {query : Text} {isIp : Bool} {queryTimeMs : Nat}
    {w : ClientWorld} {r : WhoisResponse}
    (h : (fetchResponse env query isIp queryTimeMs w).1 = .ok r) : r.domain = query := by
  have hends : Ends (fun _ => True) (fun r : WhoisResponse => r.domain = query)
      (fetchResponse env query isIp queryTimeMs) := by
    refine Ends.bind (Q := fun _ => True) (fun w => ?_) fun _ _ => Ends.pure rfl
    cases (lookupWithFallback env query isIp w).1 <;> trivial
  exact hends.of_ok (Eff.run_of_fst h)

theorem answerTo_fetchResponse (env : ClientEnv) (v : ValidatedQuery) (queryTimeMs : Nat)
    (w : ClientWorld) :
    AnswerTo env.whois.suffix v (fetchResponse env v.asStr v.isIp queryTimeMs w).1 := by
  cases h : (fetchResponse env v.asStr v.isIp queryTimeMs w).1 with
  | ok r => exact domain_of_fetchResponse h
  | error e =>
    exact ⟨e, (ends_fetchResponse env v.asStr v.isIp queryTimeMs).of_error (Eff.run_of_fst h),
      .inl rfl⟩

theorem transferable_answerTo (suffix : SuffixList) (parseDnsName : DnsNameParser) :
    Transferable fun key result => ∃ v, Accepted parseDnsName v ∧
      CacheService.normalizeDomain v.asStr = key ∧ AnswerTo suffix v result := by
  refine ⟨?_, ?_⟩
  · rintro key r ⟨v, hv, hkey, hr⟩ b
    exact ⟨v, hv, hkey, hr⟩
  · rintro key e ⟨v, hv, hkey, e₀, he₀, rfl | rfl⟩
    · exact ⟨v, hv, hkey, e, he₀, .inr rfl⟩
    · exact ⟨v, hv, hkey, e₀, he₀, .inr e₀.duplicate_duplicate⟩

theorem AnswerTo.of_key {suffix : SuffixList} {v' : ValidatedQuery}
    {result : Except WhoisError WhoisResponse} (hv : Accepted parseDnsName v)
    (hv' : Accepted parseDnsName v') (hkey : CacheService.normalizeDomain v'.asStr =
      CacheService.normalizeDomain v.asStr) (h : AnswerTo suffix v' result) :
    AnswerTo suffix v result := by
  have htext : v'.asStr = v.asStr := by
    rw [← hv'.normalizeDomain, hkey, hv.normalizeDomain]
  have hkind : v'.isIp = v.isIp := by rw [hv'.isIp, hv.isIp, htext]
  cases result with
  | ok r => exact Eq.trans h htext
  | error e =>
    rw [AnswerTo, hkind, htext] at h
    exact h

theorem AnswerTo.reply {suffix : SuffixList} {v : ValidatedQuery} {e : WhoisError}
    (h : AnswerTo suffix v (.error e)) : e.intoResponse ∈ errorReplies suffix v.isIp v.asStr := by
  obtain ⟨e₀, he₀, he⟩ := h
  have hcopy : e₀.duplicate.intoResponse = e₀.intoResponse :=
    WhoisError.intoResponse_duplicate_iff.mpr he₀.ne_httpError
  have hreply : e.intoResponse = e₀.intoResponse := by
    rcases he with rfl | rfl
    · rfl
    · exact hcopy
  rw [hreply]
  exact he₀.intoResponse_mem

/-- **Every caller gets an answer to its own query.** However the lookups of any number of instances
interleave, wait for each other, are dropped or served from a cache, and whatever the servers do: a
response is about the name or address that was asked for, and an error is answered by the HTTP service
with one of the replies that the query alone determines. -/
theorem answer_of_lookups (env : Nat → ClientEnv) (suffix : SuffixList)
    (hsuffix : ∀ i, (env i).whois.suffix = suffix) (parseDnsName : DnsNameParser)
    (moka : MokaCalls) (config : Config) (backed : Bool) (es : List CoalescedEvent)
    (hgenuine : ∀ x ∈ coalescedMachine.run (.new moka config backed) es,
      Genuine env parseDnsName x.pre x.event) :
    ∀ x ∈ coalescedMachine.run (.new moka config backed) es, ∀ answer, x.out = some answer →
      ∀ s v, ValidatedQuery.new parseDnsName s = .ok v →
        CacheService.normalizeDomain v.asStr = answer.slot.2 →
        (∀ r, answer.result = .ok r → r.domain = v.asStr) ∧
        ∀ e, answer.result = .error e → e.intoResponse ∈ errorReplies suffix v.isIp v.asStr := by
  intro x hx answer hout s v hv hkey
  have hcarried := carried_of_run (transferable_answerTo suffix parseDnsName) moka config backed es
    (fun y hy c outcome sole call haction hcall hphase => ?_) x hx answer hout
  · obtain ⟨v', hv', hkey', hanswer⟩ := hcarried
    replace hanswer := hanswer.of_key ⟨s, hv⟩ hv' (hkey'.trans hkey.symm)
    refine ⟨fun r hr => ?_, fun e he => ?_⟩
    · rwa [hr] at hanswer
    · rw [he] at hanswer
      exact hanswer.reply
  · obtain ⟨v', queryTimeMs, w, hv', hkey', rfl⟩ :=
      hgenuine y hy c outcome sole call haction hcall hphase
    refine ⟨v', hv', hkey', ?_⟩
    rw [← hsuffix call.slot.1]
    exact answerTo_fetchResponse _ v' queryTimeMs w

/-- A lookup of a name that fails. -/
def failedFlight (msg : Text) : List CoalescedEvent :=
  [⟨0, .start 0 "example.com"⟩, ⟨0, .resume 0 (.ask (.stored 0)) true⟩,
    ⟨5, .resume 0 (.returned (.error (.ioError msg))) true⟩]

/-- The message of the network does not get out. -/
theorem answer_of_lookups_failed : (WhoisError.ioError "10.0.0.7").intoResponse ∈
    errorReplies (unreachable "10.0.0.7").whois.suffix false "example.com" := by
  refine (answer_of_lookups (fun _ => unreachable "10.0.0.7") _ (fun _ => rfl) lengthLimits
    .documented createTestConfig false (failedFlight "10.0.0.7") ?_ _
    (List.mem_cons_of_mem _ (List.mem_cons_of_mem _ List.mem_cons_self))
    ⟨(0, "example.com"), .fetched, .error (.ioError "10.0.0.7")⟩ (by decide +kernel)
    "Example.COM." ⟨.domain ⟨"example.com"⟩⟩ (by decide +kernel) (by decide +kernel)).2 _ rfl
  intro x hx c outcome sole call haction hcall _
  rcases List.mem_cons.mp hx with rfl | hx
  · cases haction
  rcases List.mem_cons.mp hx with rfl | hx
  · cases haction
  rw [List.mem_singleton.mp hx] at haction hcall
  cases haction
  have hslot : call = ⟨.getOrFetch, (0, "example.com"), .fetching⟩ := by
    rw [← Option.some_inj, ← hcall]
    rfl
  rw [hslot]
  exact ⟨⟨.domain ⟨"example.com"⟩⟩, 0, { newWorld with whois := .knowing [("com", "whois.a")] },
    ⟨"example.com", by decide +kernel⟩, by decide +kernel, by decide +kernel⟩

end Lookups

end RustWhois
