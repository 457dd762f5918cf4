import RustWhois.Answers
import RustWhois.Cache.TwoTier

/-!
# Repeated lookups

A client that is asked one query after another, in the spellings that its callers use.

* `clientMachine`: the calls of `lookup_with_options`, and the entries that the cache drops in between;
* `Remembers`: the cache has a response, until a time;
* **`repeated_of_run`**: a query that is asked again is answered from the cache, with the response that it
  was answered with, while that lives.
-/

namespace RustWhois

open Rust WhoisClient

/-- How long a response is served from the cache. -/
def CacheService.lifetime (self : CacheService) (response : WhoisResponse) : Nat :=
  match response.lookupStatus with
  | .found => self.positiveTtl
  | .notFound => self.negativeTtl
  | .rateLimited => 0

inductive ClientAction
  | lookup (query : Text) (fresh : Bool) (answer : BackendAnswer)
  /-- The cache drops an entry. -/
  | evict (key : Text)

/-- An action that begins `waited` after the last one; a fetch returns after `fetching`, and the action
ends `ending` later. -/
structure ClientEvent where
  waited : Nat
  fetching : Nat
  ending : Nat
  action : ClientAction

def ClientEvent.times (self : ClientEvent) (now : Nat) : LookupTimes where
  start := now + self.waited
  asked := now + self.waited
  fetched := now + self.waited + self.fetching
  done := now + self.waited + self.fetching + self.ending

structure ClientState where
  inst : Instance
  now : Nat

/-- An action, with whether it ran a fetch and the result, for a lookup. -/
def ClientState.act (env : ClientEnv) (parseDnsName : DnsNameParser) (s : ClientState)
    (e : ClientEvent) : Option (Bool × Except WhoisError WhoisResponse) × Instance :=
  match e.action with
  | .lookup query fresh answer =>
    let (result, inst) := lookupWithOptions env (e.times s.now) parseDnsName query fresh answer s.inst
    (some result, inst)
  | .evict key =>
    (none, { s.inst with cache := s.inst.cache.map fun c => { c with cache := c.cache.evict key } })

def clientMachine (env : ClientEnv) (parseDnsName : DnsNameParser) :
    Machine ClientState ClientEvent (Option (Bool × Except WhoisError WhoisResponse)) where
  next s e := ((s.act env parseDnsName e).1, ⟨(s.act env parseDnsName e).2, (e.times s.now).done⟩)

section Lookup

variable {env : ClientEnv} {parseDnsName : DnsNameParser} {times : LookupTimes} {query : Text}
  {v : ValidatedQuery} {answer : BackendAnswer} {inst : Instance} {cache : CacheService}
  {response : WhoisResponse}

theorem CacheService.afterCreate_expiry (key : Text) (response : WhoisResponse) :
    cache.expiry.afterCreate key response = some (cache.lifetime response) := by
  simp only [expiry, statusExpiry, lifetime]
  cases response.lookupStatus <;> rfl

/-- **A response that was fetched is in the cache**, for its lifetime. -/
theorem entries_of_fetched (hle : times.asked ≤ times.done)
    (hv : ValidatedQuery.new parseDnsName query = .ok v) (hcache : inst.cache = some cache)
    (hout : (lookupWithOptions env times parseDnsName query false answer inst).1 =
      (true, .ok response)) :
    ∃ cache', (lookupWithOptions env times parseDnsName query false answer inst).2.cache =
        some cache' ∧ cache'.cache.entries (CacheService.normalizeDomain v.asStr) =
          some ⟨response, some (times.done + cache.lifetime response)⟩ := by
  simp only [lookupWithOptions, hv, lookupInternal, hcache, Bool.false_eq_true, if_false] at hout ⊢
  rcases hfetch : fetchResponse env v.asStr v.isIp (times.elapsedMs times.fetched) inst.world with
    ⟨fetched, world⟩
  rw [hfetch] at hout
  dsimp only at hout ⊢
  have hcase := CacheService.getOrFetch_case cache times.asked times.done v.asStr answer fetched
  revert hout hcase
  generalize cache.getOrFetch times.asked times.done v.asStr answer fetched = r
  intro hout hcase
  cases hcase with
  | hit => cases hout
  | promoted => cases hout
  | failed => cases hout
  | fetched miss absent =>
    have hmiss := ExpiryCache.get_eq_none_of_le hle miss
    cases hout
    refine ⟨_, rfl, ?_⟩
    rw [CacheService.entries_insert_of_miss (by rwa [CacheService.cache_backendSet]),
      CacheService.expiry_backendSet, CacheService.afterCreate_expiry]
    rfl

/-- **A response that is in the cache is the answer**, without a fetch. -/
theorem lookup_of_entry {deadline : Nat} (hv : ValidatedQuery.new parseDnsName query = .ok v)
    (hcache : inst.cache = some cache)
    (hentry : cache.cache.entries (CacheService.normalizeDomain v.asStr) =
      some ⟨response, some deadline⟩) (hlive : times.asked < deadline) :
    lookupWithOptions env times parseDnsName query false answer inst = ((false, .ok { response with
      cached := true, queryTimeMs := times.elapsedMs times.done }), inst) := by
  have hget : cache.cache.get times.asked (CacheService.normalizeDomain v.asStr) = some response := by
    simp [ExpiryCache.get, ExpiryCache.entry, hentry, Option.filter_some, ExpiryEntry.live, hlive]
  obtain ⟨world, _⟩ := inst
  subst hcache
  simp [lookupWithOptions, hv, lookupInternal, CacheService.getOrFetch, hget, Except.map]

variable (answer) in
theorem entries_of_other (hle : times.asked ≤ times.done)
    (hv : ValidatedQuery.new parseDnsName query = .ok v) (hcache : inst.cache = some cache) :
    ∃ cache', (lookupWithOptions env times parseDnsName query false answer inst).2.cache =
      some cache' ∧ ∀ key ≠ CacheService.normalizeDomain v.asStr,
        cache'.cache.entries key = cache.cache.entries key := by
  simp only [lookupWithOptions, hv, lookupInternal, hcache, Bool.false_eq_true, if_false]
  rcases fetchResponse env v.asStr v.isIp (times.elapsedMs times.fetched) inst.world with
    ⟨fetched, world⟩
  refine ⟨_, rfl, ?_⟩
  obtain ⟨took, htook⟩ := Nat.exists_eq_add_of_le hle
  rcases hget : cache.getOrFetch times.asked (times.asked + took) v.asStr answer fetched with
    ⟨⟨ran, result⟩, cache'⟩
  have htiers := CacheService.getOrFetch_tiers cache times.asked took v.asStr answer fetched ran
    result cache' hget
  rw [htook, hget]
  exact htiers.2.2.2.2.2

end Lookup

/-- The cache has a response for a key until a time, or the time has passed. -/
def ClientState.Remembers (key : Text) (response : WhoisResponse) (deadline : Nat)
    (s : ClientState) : Prop :=
  ∃ cache, s.inst.cache = some cache ∧
    (s.now < deadline → cache.cache.entries key = some ⟨response, some deadline⟩)

section Runs

variable {env : ClientEnv} {parseDnsName : DnsNameParser} {key : Text} {response : WhoisResponse}
  {deadline : Nat} {s : ClientState}

theorem ClientState.Remembers.next (h : s.Remembers key response deadline) {e : ClientEvent}
    (hevict : e.action ≠ .evict key) :
    ((clientMachine env parseDnsName).next s e).2.Remembers key response deadline := by
  obtain ⟨cache, hcache, hentry⟩ := h
  have hnow : s.now ≤ (e.times s.now).asked ∧ (e.times s.now).asked ≤ (e.times s.now).done := by
    simp only [ClientEvent.times]
    omega
  have hsame : (s.act env parseDnsName e).2.cache = some cache →
      ((clientMachine env parseDnsName).next s e).2.Remembers key response deadline := by
    intro hcache'
    refine ⟨cache, hcache', fun hlt => hentry ?_⟩
    replace hlt : (e.times s.now).done < deadline := hlt
    omega
  cases haction : e.action with
  | evict key' =>
    have hne : key ≠ key' := by
      rintro rfl
      exact hevict haction
    refine ⟨{ cache with cache := cache.cache.evict key' }, ?_, fun hlt => ?_⟩
    · simp [clientMachine, ClientState.act, haction, hcache]
    · replace hlt : (e.times s.now).done < deadline := hlt
      show Function.update cache.cache.entries key' none key = _
      rw [Function.update_of_ne hne]
      exact hentry (by omega)
  | lookup query fresh answer =>
    have hact : (s.act env parseDnsName e).2 = (lookupWithOptions env (e.times s.now) parseDnsName
        query fresh answer s.inst).2 := by
      rw [ClientState.act, haction]
    cases hv : ValidatedQuery.new parseDnsName query with
    | error err =>
      refine hsame ?_
      rw [hact, lookupWithOptions, hv]
      exact hcache
    | ok v =>
      cases fresh with
      | true =>
        refine hsame ?_
        rw [hact]
        simp [lookupWithOptions, hv, lookupInternal, hcache]
      | false =>
        obtain ⟨cache', hcache', hothers⟩ := entries_of_other answer hnow.2 hv hcache
        rw [← hact] at hcache'
        by_cases hkey : key = CacheService.normalizeDomain v.asStr
        · by_cases hlive : (e.times s.now).asked < deadline
          · refine hsame ?_
            rw [hact, lookup_of_entry hv hcache (hkey ▸ hentry (by omega)) hlive]
            exact hcache
          · refine ⟨cache', hcache', fun hlt => absurd hlt ?_⟩
            show ¬ (e.times s.now).done < deadline
            omega
        · refine ⟨cache', hcache', fun hlt => ?_⟩
          replace hlt : (e.times s.now).done < deadline := hlt
          rw [hothers key hkey]
          exact hentry (by omega)

variable {e : ClientEvent} {query : Text} {v : ValidatedQuery} {answer : BackendAnswer}
  {cache : CacheService}

theorem ClientState.remembers_of_fetched (haction : e.action = .lookup query false answer)
    (hv : ValidatedQuery.new parseDnsName query = .ok v) (hcache : s.inst.cache = some cache)
    (hout : ((clientMachine env parseDnsName).next s e).1 = some (true, .ok response)) :
    ((clientMachine env parseDnsName).next s e).2.Remembers (CacheService.normalizeDomain v.asStr)
      response (((clientMachine env parseDnsName).next s e).2.now + cache.lifetime response) := by
  have hle : (e.times s.now).asked ≤ (e.times s.now).done := by
    simp only [ClientEvent.times]
    omega
  have hact : s.act env parseDnsName e = (some (lookupWithOptions env (e.times s.now) parseDnsName
      query false answer s.inst).1, (lookupWithOptions env (e.times s.now) parseDnsName query false
        answer s.inst).2) := by
    rw [ClientState.act, haction]
  replace hout : (s.act env parseDnsName e).1 = some (true, .ok response) := hout
  rw [hact] at hout
  obtain ⟨cache', hcache', hentry⟩ := entries_of_fetched hle hv hcache (Option.some.inj hout)
  refine ⟨cache', ?_, fun _ => hentry⟩
  show (s.act env parseDnsName e).2.cache = some cache'
  rw [hact]
  exact hcache'

variable (env) in
theorem ClientState.Remembers.act
    (h : s.Remembers (CacheService.normalizeDomain v.asStr) response deadline)
    (haction : e.action = .lookup query false answer)
    (hv : ValidatedQuery.new parseDnsName query = .ok v) (hlive : s.now + e.waited < deadline) :
    s.act env parseDnsName e = (some (false, .ok { response with
      cached := true, queryTimeMs := (e.times s.now).elapsedMs (e.times s.now).done }), s.inst) := by
  obtain ⟨cache, hcache, hentry⟩ := h
  rw [ClientState.act, haction]
  dsimp only
  rw [lookup_of_entry hv hcache (hentry (by omega)) hlive]

/-- **A repeated query is answered from the cache.** After a lookup that fetched its response, in every
continuation in which the cache does not drop the entry: a lookup of the same query, in any spelling,
that begins within the lifetime of the response runs no fetch, neither sends nor changes anything, and
returns the response, flagged as cached and with its own duration; whatever else is asked in between,
fresh or not, and whatever the backend and the servers do. -/
theorem repeated_of_run (env : ClientEnv) (parseDnsName : DnsNameParser) (start : ClientState)
    (es : List ClientEvent)
    (past mid rest : List (Machine.Step ClientState ClientEvent
      (Option (Bool × Except WhoisError WhoisResponse))))
    (x y : Machine.Step ClientState ClientEvent (Option (Bool × Except WhoisError WhoisResponse)))
    (hrun : (clientMachine env parseDnsName).run start es = past ++ x :: (mid ++ y :: rest))
    (cache : CacheService) (hcache : x.pre.inst.cache = some cache)
    (query query' : Text) (answer answer' : BackendAnswer) (v v' : ValidatedQuery)
    (hx : x.event.action = .lookup query false answer)
    (hv : ValidatedQuery.new parseDnsName query = .ok v)
    (hy : y.event.action = .lookup query' false answer')
    (hv' : ValidatedQuery.new parseDnsName query' = .ok v') (hsame : v'.asStr = v.asStr)
    (response : WhoisResponse) (hfetched : x.out = some (true, .ok response))
    (hkept : ∀ z ∈ mid, z.event.action ≠ .evict v.asStr)
    (hlive : y.pre.now + y.event.waited < x.post.now + cache.lifetime response) :
    y.out = some (false, .ok { response with
      cached := true
      queryTimeMs := (y.event.times y.pre.now).elapsedMs y.post.now }) ∧
    y.post.inst = y.pre.inst := by
  have haccepted : Accepted parseDnsName v := ⟨query, hv⟩
  have hkey : CacheService.normalizeDomain v.asStr = v.asStr := haccepted.normalizeDomain
  obtain ⟨es₁, es₂, rfl, -, htail⟩ := Machine.run_eq_append _ hrun
  cases es₂ with
  | nil => cases htail
  | cons e es₂ =>
    rw [Machine.run_cons] at htail
    obtain ⟨rfl, hmid⟩ := List.cons.inj htail
    obtain ⟨es₃, e', rfl, rfl⟩ := Machine.run_eq_append_cons _ hmid.symm
    -- the response is in the cache after the first lookup, and still there before the second
    have hfirst := ClientState.remembers_of_fetched hx hv hcache hfetched
    rw [hkey] at hfirst
    have hlast := Machine.history_induction (H := fun _ => ClientState.Remembers v.asStr response _)
      (C := fun _ e => e.action ≠ .evict v.asStr) (fun _ _ _ h hC => h.next hC) hfirst hkept
    rw [← hkey, ← hsame] at hlast
    have hact := ClientState.Remembers.act env hlast hy hv' hlive
    exact ⟨congrArg Prod.fst hact, congrArg Prod.snd hact⟩

end Runs

/-- A new client with a cache. -/
def cachingClient : ClientState := ⟨⟨newWorld, some (.build .small none)⟩, 0⟩

/-- The response of a server that answers with an empty object, after 2 ms. -/
def emptyResponse : WhoisResponse where
  domain := "example.com"
  whoisServer := (answeringResult "\x7b\x7d").server
  rawData := "\x7b\x7d"
  parsedData := (answeringResult "\x7b\x7d").parsedData
  lookupStatus := .found
  cached := false
  queryTimeMs := 2
  parsingAnalysis := some (answeringResult "\x7b\x7d").parsingAnalysis

/-- A query, and an hour less a second later in another spelling. -/
theorem repeated_of_run_spelling :
    let m := clientMachine (answering "\x7b\x7d") lengthLimits
    let first : ClientEvent := ⟨0, 2000000, 0, .lookup "example.com" false (.failed [])⟩
    let y := m.step (m.final cachingClient [first])
      ⟨fromSecs 3599, 0, 0, .lookup " Example.COM. " false (.failed [])⟩
    y.out = some (false, .ok { emptyResponse with cached := true, queryTimeMs := 0 }) ∧
      y.post.inst = y.pre.inst :=
  repeated_of_run (answering "\x7b\x7d") lengthLimits cachingClient
    [⟨0, 2000000, 0, .lookup "example.com" false (.failed [])⟩,
      ⟨fromSecs 3599, 0, 0, .lookup " Example.COM. " false (.failed [])⟩] [] [] [] _ _ rfl
    (.build .small none) rfl "example.com" " Example.COM. " (.failed []) (.failed [])
    ⟨.domain ⟨"example.com"⟩⟩ ⟨.domain ⟨"example.com"⟩⟩ rfl (by decide +kernel) rfl
    (by decide +kernel) rfl emptyResponse (by decide +kernel) (by simp) (by decide +kernel)

end RustWhois
