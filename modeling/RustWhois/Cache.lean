import RustWhois.Data
import RustWhois.Std.Machine
import RustWhois.Std.Moka

/-!
# The response cache

`cache.rs`: an in-process cache over an optional shared backend, run as a machine whose events are
the calls `set`, `get`, `get_or_fetch` one after another, at any times.

* `CacheService.get`, `CacheService.set`, `CacheService.getOrFetch`;
* `cacheMachine`: the calls, and the entries that the cache drops in between;
* `Overwrites`: a throttled response is set over a live entry;
* **`served_of_run`**: no throttled response is served from the cache while none overwrites a live
  entry.

Calls in flight at the same time are those of `Cache/Fleet`, and the calls that wait for another one
those of `Cache/Coalescing`.
-/

namespace RustWhois

open Rust

/-- `StatusExpiry`, which leaves `expire_after_update` at its default. -/
def statusExpiry (positiveTtl negativeTtl : Nat) : Expiry Text WhoisResponse where
  afterCreate _ value := match value.lookupStatus with
    | .found => some positiveTtl
    | .notFound => some negativeTtl
    | .rateLimited => some 0

/-! ## The backend -/

/-- A response stored in the backend. -/
structure Stored where
  key : Text
  response : WhoisResponse
  ttl : Nat
  storedAt : Nat

/-- A `CacheBackend`, by what was ever stored in it. -/
abbrev Backend : Type := List Stored

/-- What a backend does when it is asked: it fails, or returns the `i`th stored response. -/
inductive BackendAnswer
  | failed (msg : Text)
  | stored (i : Nat)

/-- A response is returned under its key and within its time only. -/
def Backend.get (self : Backend) (now : Nat) (key : Text) :
    BackendAnswer → Except Text (Option WhoisResponse)
  | .failed msg => .error msg
  | .stored i =>
    .ok ((self[i]?.filter fun s => s.key = key ∧ now < s.storedAt + s.ttl).map (·.response))

/-! ## The service -/

structure CacheService where
  cache : ExpiryCache Text WhoisResponse
  backend : Option Backend
  positiveTtl : Nat
  negativeTtl : Nat

namespace CacheService

/-- `build`. -/
def build (config : Config) (backend : Option Backend) : CacheService where
  cache := .empty
  backend := backend
  positiveTtl := fromSecs config.cacheTtlSeconds
  negativeTtl := fromSecs config.negativeCacheTtlSeconds

variable (self : CacheService)

def expiry : Expiry Text WhoisResponse := statusExpiry self.positiveTtl self.negativeTtl

/-- `self.cache.insert`. -/
def insert (now : Nat) (key : Text) (response : WhoisResponse) : CacheService :=
  { self with cache := self.cache.insert self.expiry now key response }

/-- `backend_ttl`. -/
def backendTtl (response : WhoisResponse) : Option Nat :=
  let ttl := match response.lookupStatus with
    | .found => some self.positiveTtl
    | .notFound => some self.negativeTtl
    | .rateLimited => none
  ttl.filter (· ≠ 0)

/-- `backend_get`: a failed backend is a miss. -/
def backendGet (now : Nat) (key : Text) (answer : BackendAnswer) : Option WhoisResponse :=
  self.backend.bind fun backend => match backend.get now key answer with
    | .ok hit => hit
    | .error _ => none

/-- `backend_set`. A store that fails is one that the backend never returns. -/
def backendSet (now : Nat) (key : Text) (response : WhoisResponse) : CacheService :=
  match self.backend, self.backendTtl response with
  | some backend, some ttl => { self with backend := some (backend ++ [⟨key, response, ttl, now⟩]) }
  | _, _ => self

/-- `normalize_domain`. -/
def normalizeDomain (domain : Text) : Text := (domain.stripSuffix ".").getD domain

/-- `get`, from `asked` to `done`. -/
def get (asked done : Nat) (domain : Text) (answer : BackendAnswer) :
    Option WhoisResponse × CacheService :=
  let key := normalizeDomain domain
  match self.cache.get asked key with
  | some cachedResponse => (some { cachedResponse with cached := true }, self)
  | none => match self.backendGet asked key answer with
    | some response => (some { response with cached := true }, self.insert done key response)
    | none => (none, self)

/-- `set`. -/
def set (now : Nat) (domain : Text) (response : WhoisResponse) : CacheService :=
  let key := normalizeDomain domain
  (self.insert now key response).backendSet now key response

/-- `get_or_fetch`, with the outcome of `fetch_fn`; the flag says that it was called. -/
def getOrFetch (asked done : Nat) (domain : Text) (answer : BackendAnswer)
    (fetchFn : Except WhoisError WhoisResponse) :
    (Bool × Except WhoisError WhoisResponse) × CacheService :=
  let key := normalizeDomain domain
  match self.cache.get asked key with
  | some cachedResponse => ((false, .ok { cachedResponse with cached := true }), self)
  | none => match self.backendGet asked key answer with
    | some hit =>
      let response := { hit with cached := true }
      ((false, .ok response), self.insert done key response)
    | none => match fetchFn with
      | .ok fetched =>
        let response := { fetched with cached := false }
        ((true, .ok response), (self.backendSet done key response).insert done key response)
      | .error e => ((true, .error e), self)

end CacheService

/-! ## Runs -/

inductive CacheCall
  | set (domain : Text) (response : WhoisResponse)
  | get (domain : Text) (answer : BackendAnswer)
  | getOrFetch (domain : Text) (answer : BackendAnswer) (fetchFn : Except WhoisError WhoisResponse)
  /-- The cache drops an entry. -/
  | evict (key : Text)

/-- A call that starts `waited` after the last one returned, and takes `took`. -/
structure CacheEvent where
  waited : Nat
  took : Nat
  call : CacheCall

/-- What a call returned; a fetched response comes with whether the call ran its fetch. -/
inductive CacheReply
  | done
  | got (response : Option WhoisResponse)
  | fetched (ran : Bool) (result : Except WhoisError WhoisResponse)

/-- The response that was served without a fetch. -/
def CacheReply.served : CacheReply → Option WhoisResponse
  | got response => response
  | fetched false (.ok response) => some response
  | _ => none

theorem CacheReply.served_fetched {ran : Bool} {result : Except WhoisError WhoisResponse}
    {r : WhoisResponse} :
    (fetched ran result).served = some r ↔ (ran, result) = (false, .ok r) := by
  rcases ran <;> rcases result <;> simp [served]

structure CacheState where
  service : CacheService
  now : Nat

namespace CacheState

/-- A new service. -/
def new (config : Config) (backed : Bool) : CacheState where
  service := .build config (if backed then some [] else none)
  now := 0

/-- A call, at its times. -/
def call (s : CacheState) (e : CacheEvent) : CacheReply × CacheService :=
  let asked := s.now + e.waited
  let done := asked + e.took
  match e.call with
  | .set domain response => (.done, s.service.set done domain response)
  | .get domain answer =>
    let (response, service) := s.service.get asked done domain answer
    (.got response, service)
  | .getOrFetch domain answer fetchFn =>
    let ((ran, result), service) := s.service.getOrFetch asked done domain answer fetchFn
    (.fetched ran result, service)
  | .evict key => (.done, { s.service with cache := s.service.cache.evict key })

end CacheState

def cacheMachine : Machine CacheState CacheEvent CacheReply where
  next s e := ((s.call e).1, ⟨(s.call e).2, s.now + e.waited + e.took⟩)

@[simp] theorem cacheMachine_next (s : CacheState) (e : CacheEvent) :
    cacheMachine.next s e = ((s.call e).1, ⟨(s.call e).2, s.now + e.waited + e.took⟩) := rfl

/-! ## Throttled responses -/

def WhoisResponse.Throttled (self : WhoisResponse) : Prop := self.lookupStatus = .rateLimited

instance (r : WhoisResponse) : Decidable r.Throttled := by
  unfold WhoisResponse.Throttled; infer_instance

/-- A throttled response is set while its key has a live entry. -/
def Overwrites (s : CacheState) (e : CacheEvent) : Prop :=
  match e.call with
  | .set domain response => response.Throttled ∧
    s.service.cache.get (s.now + e.waited + e.took) (CacheService.normalizeDomain domain) ≠ none
  | _ => False

instance (s : CacheState) (e : CacheEvent) : Decidable (Overwrites s e) := by
  unfold Overwrites; split <;> infer_instance

namespace CacheService

/-- No throttled response is served from `now` on, and the backend holds none. -/
structure Shielded (now : Nat) (service : CacheService) : Prop where
  cache : service.cache.Avoids WhoisResponse.Throttled now
  backend : ∀ b ∈ service.backend, ∀ x ∈ b, ¬ x.response.Throttled

variable {self : CacheService} {now asked done : Nat} {key domain : Text} {response : WhoisResponse}
  {answer : BackendAnswer}

theorem Shielded.mono (h : Shielded asked self) (hle : asked ≤ done) : Shielded done self :=
  ⟨h.cache.mono hle, h.backend⟩

theorem afterCreate_of_throttled (h : response.Throttled) :
    self.expiry.afterCreate key response = some 0 := by
  simp only [expiry, statusExpiry]
  rw [h]

/-- An insert shields the cache exactly if it puts no throttled response over a live entry. -/
theorem avoids_insert (h : Shielded now self) :
    (self.insert now key response).cache.Avoids WhoisResponse.Throttled now ↔
      (response.Throttled → self.cache.get now key = none) :=
  ExpiryCache.avoids_insert_iff h.cache afterCreate_of_throttled fun _ => rfl

theorem Shielded.insert (h : Shielded now self)
    (hr : response.Throttled → self.cache.get now key = none) :
    Shielded now (self.insert now key response) :=
  ⟨(avoids_insert h).mpr hr, h.backend⟩

theorem backendTtl_eq_some {ttl : Nat} (h : self.backendTtl response = some ttl) :
    ¬ response.Throttled := by
  intro ht
  unfold backendTtl at h
  rw [ht] at h
  cases h

theorem cache_backendSet : (self.backendSet now key response).cache = self.cache := by
  unfold backendSet
  split <;> rfl

theorem Shielded.backendSet (h : Shielded now self) :
    Shielded now (self.backendSet done key response) := by
  refine ⟨by rw [cache_backendSet]; exact h.cache, ?_⟩
  unfold CacheService.backendSet
  split
  · next backend ttl hb httl =>
    rintro b ⟨⟩ x hx
    rcases List.mem_append.mp hx with hx | hx
    · exact h.backend _ hb x hx
    · rw [List.mem_singleton.mp hx]
      exact backendTtl_eq_some httl
  · exact h.backend

theorem Shielded.backendGet (h : Shielded now self)
    (hit : self.backendGet asked key answer = some response) : ¬ response.Throttled := by
  obtain ⟨b, hb, hget⟩ := Option.bind_eq_some_iff.mp hit
  cases answer with
  | failed msg => cases hget
  | stored i =>
    obtain ⟨x, hx, rfl⟩ := Option.map_eq_some_iff.mp hget
    exact h.backend b hb x (List.mem_of_getElem? (Option.filter_eq_some_iff.mp hx).1)

theorem Shielded.get (h : Shielded asked self) (hle : asked ≤ done) :
    Shielded done (self.get asked done domain answer).2 ∧
      ∀ r, (self.get asked done domain answer).1 = some r → ¬ r.Throttled := by
  simp only [CacheService.get]
  split
  · next r hr =>
    refine ⟨h.mono hle, ?_⟩
    rintro _ ⟨⟩
    exact h.cache asked (Nat.le_refl _) _ r hr
  · split
    · next hit =>
      have hr := h.backendGet hit
      refine ⟨(h.mono hle).insert fun ht => absurd ht hr, ?_⟩
      rintro _ ⟨⟩
      exact hr
    · exact ⟨h.mono hle, by simp⟩

theorem Shielded.set (h : Shielded now self)
    (hr : response.Throttled → self.cache.get now (normalizeDomain domain) = none) :
    Shielded now (self.set now domain response) :=
  (h.insert hr).backendSet

/-- A fetched response, throttled or not, is inserted where no entry was live. -/
theorem Shielded.getOrFetch (h : Shielded asked self) (hle : asked ≤ done) (domain : Text)
    (answer : BackendAnswer) (fetchFn : Except WhoisError WhoisResponse) :
    Shielded done (self.getOrFetch asked done domain answer fetchFn).2 ∧
      ∀ r, (self.getOrFetch asked done domain answer fetchFn).1 = (false, .ok r) →
        ¬ r.Throttled := by
  simp only [CacheService.getOrFetch]
  split
  · next r hr =>
    refine ⟨h.mono hle, ?_⟩
    rintro _ ⟨⟩
    exact h.cache asked (Nat.le_refl _) _ r hr
  · next hmiss =>
    split
    · next hit =>
      have hr := h.backendGet hit
      refine ⟨(h.mono hle).insert fun ht => absurd ht hr, ?_⟩
      rintro _ ⟨⟩
      exact hr
    · split
      · refine ⟨(h.mono hle).backendSet.insert fun _ => ?_, by rintro _ ⟨⟩⟩
        rw [cache_backendSet]
        exact ExpiryCache.get_eq_none_of_le hle hmiss
      · exact ⟨h.mono hle, by rintro _ ⟨⟩⟩

end CacheService

/-! ## Every run -/

theorem shielded_step (s : CacheState) (e : CacheEvent) (h : s.service.Shielded s.now)
    (hc : ¬ Overwrites s e) :
    (cacheMachine.next s e).2.service.Shielded (cacheMachine.next s e).2.now ∧
      ∀ r, (cacheMachine.step s e).out.served = some r → ¬ r.Throttled := by
  obtain ⟨waited, took, call⟩ := e
  have hask : s.service.Shielded (s.now + waited) := h.mono (Nat.le_add_right _ _)
  have hle : s.now + waited ≤ s.now + waited + took := Nat.le_add_right _ _
  simp only [cacheMachine_next, Machine.step_out, CacheState.call]
  cases call with
  | set domain response =>
    refine ⟨(hask.mono hle).set fun ht => ?_, by rintro _ ⟨⟩⟩
    by_contra hlive
    exact hc ⟨ht, hlive⟩
  | get domain answer => exact hask.get hle
  | getOrFetch domain answer fetchFn =>
    obtain ⟨hs, hr⟩ := hask.getOrFetch hle domain answer fetchFn
    refine ⟨hs, fun r hserved => hr r ?_⟩
    exact CacheReply.served_fetched.mp hserved
  | evict key =>
    exact ⟨⟨(hask.mono hle).cache.evict key, h.backend⟩, by rintro _ ⟨⟩⟩

theorem shielded_new (config : Config) (backed : Bool) :
    (CacheState.new config backed).service.Shielded (CacheState.new config backed).now := by
  refine ⟨ExpiryCache.avoids_empty, ?_⟩
  intro b hb x hx
  cases backed with
  | false => cases hb
  | true =>
    cases hb
    cases hx

theorem served_of_overwrites {s : CacheState} {e : CacheEvent} (h : Overwrites s e) :
    ∃ e' r, (cacheMachine.step (cacheMachine.next s e).2 e').out.served = some r ∧
      r.lookupStatus = .rateLimited := by
  obtain ⟨waited, took, call⟩ := e
  cases call with
  | set domain response =>
    obtain ⟨ht, hlive⟩ := h
    refine ⟨⟨0, 0, .get domain (.stored 0)⟩, { response with cached := true }, ?_, ht⟩
    have hget : ((s.service.set (s.now + waited + took) domain response).cache.get
        (s.now + waited + took) (CacheService.normalizeDomain domain)) = some response := by
      rw [CacheService.set, CacheService.cache_backendSet]
      exact ExpiryCache.get_insert_of_live (fun _ => rfl) hlive
    simp [CacheState.call, CacheService.get, hget, CacheReply.served]
  | get domain answer => exact h.elim
  | getOrFetch domain answer fetchFn => exact h.elim
  | evict key => exact h.elim

/-- **No throttled response is served from the cache in a run in which none overwrites a live entry,
and one that does can be served at once.** -/
theorem served_of_run (config : Config) (backed : Bool) (es : List CacheEvent) :
    ((∀ x ∈ cacheMachine.run (.new config backed) es, ¬ Overwrites x.pre x.event) →
      ∀ x ∈ cacheMachine.run (.new config backed) es, ∀ r, x.out.served = some r →
        r.lookupStatus ≠ .rateLimited) ∧
    ∀ (s : CacheState) (e : CacheEvent), Overwrites s e →
      ∃ e' r, (cacheMachine.step (cacheMachine.next s e).2 e').out.served = some r ∧
        r.lookupStatus = .rateLimited := by
  constructor
  · intro hC
    exact Machine.run_induction (I := fun s => s.service.Shielded s.now) shielded_step
      (shielded_new config backed) hC
  · intro s e h
    exact served_of_overwrites h

/-- `create_test_config`. -/
def createTestConfig : Config where
  port := 3000
  whoisTimeoutSeconds := 30
  maxResponseSize := 1024 * 1024
  cacheTtlSeconds := 3600
  negativeCacheTtlSeconds := 300
  cacheMaxEntries := 100
  maxReferrals := 5
  discoveryTimeoutSeconds := 10
  concurrentWhoisQueries := 4
  bufferPoolSize := 10
  bufferSize := 4096

/-- A response with a status. -/
def responseWithStatus (status : LookupStatus) : WhoisResponse where
  domain := "a.com"
  whoisServer := "whois.a"
  rawData := "raw"
  parsedData := none
  lookupStatus := status
  cached := false
  queryTimeMs := 1
  parsingAnalysis := none

/-- A throttled response is set over a record, and returned within the hour of that. -/
theorem served_throttled : ∃ x ∈ cacheMachine.run (.new createTestConfig false)
    [⟨0, 0, .set "a.com" (responseWithStatus .found)⟩,
      ⟨1, 0, .set "a.com" (responseWithStatus .rateLimited)⟩, ⟨1, 0, .get "a.com" (.stored 0)⟩],
    x.out.served.map (·.lookupStatus) = some .rateLimited :=
  ⟨_, List.mem_cons_of_mem _ (List.mem_cons_of_mem _ List.mem_cons_self), by decide +kernel⟩

/-- A fetched throttle banner and then a record, each for another key. -/
theorem served_of_run_twoKeys : ∀ x ∈ cacheMachine.run (.new createTestConfig true)
    [⟨0, 5, .getOrFetch "a.com" (.stored 0) (.ok (responseWithStatus .rateLimited))⟩,
      ⟨1, 0, .set "b.com." (responseWithStatus .found)⟩, ⟨1, 0, .get "b.com" (.stored 0)⟩],
    ∀ r, x.out.served = some r → r.lookupStatus ≠ .rateLimited :=
  (served_of_run createTestConfig true _).1 (by decide +kernel)

end RustWhois
