import RustWhois.Cache

/-!
# One call of `get_or_fetch`

What a call without a concurrent call on its key does to the two tiers.

* `FetchCase`: the four ways a call goes;
* `WriteThrough`: the one write of a call that fetched;
* **`getOrFetch_tiers`**: the contract of `get_or_fetch`.

The list that stands for the backend holds every response that was handed to it: a write that failed
is one that no answer returns.
-/

namespace RustWhois

open Rust

namespace CacheService

/-- The ways a call goes, with its outcome: a live entry, a backend hit, a fetch that returned, a
fetch that failed. -/
inductive FetchCase (self : CacheService) (asked done : Nat) (key : Text) (answer : BackendAnswer) :
    Except WhoisError WhoisResponse → (Bool × Except WhoisError WhoisResponse) × CacheService → Prop
  | hit {fetchFn : Except WhoisError WhoisResponse} {cached : WhoisResponse}
    (entry : self.cache.get asked key = some cached) :
    FetchCase self asked done key answer fetchFn ((false, .ok { cached with cached := true }), self)
  | promoted {fetchFn : Except WhoisError WhoisResponse} {hit : WhoisResponse}
    (miss : self.cache.get asked key = none)
    (stored : self.backendGet asked key answer = some hit) :
    FetchCase self asked done key answer fetchFn
      ((false, .ok { hit with cached := true }), self.insert done key { hit with cached := true })
  | fetched {response : WhoisResponse} (miss : self.cache.get asked key = none)
    (absent : self.backendGet asked key answer = none) :
    FetchCase self asked done key answer (.ok response)
      ((true, .ok { response with cached := false }),
        (self.backendSet done key { response with cached := false }).insert done key
          { response with cached := false })
  | failed {e : WhoisError} (miss : self.cache.get asked key = none)
    (absent : self.backendGet asked key answer = none) :
    FetchCase self asked done key answer (.error e) ((true, .error e), self)

/-- **Every call goes one of the four ways.** -/
theorem getOrFetch_case (self : CacheService) (asked done : Nat) (domain : Text)
    (answer : BackendAnswer) (fetchFn : Except WhoisError WhoisResponse) :
    FetchCase self asked done (normalizeDomain domain) answer fetchFn
      (self.getOrFetch asked done domain answer fetchFn) := by
  simp only [getOrFetch]
  rcases hmiss : self.cache.get asked (normalizeDomain domain) with _ | cached
  · rcases hget : self.backendGet asked (normalizeDomain domain) answer with _ | hit
    · cases fetchFn with
      | ok response => exact .fetched hmiss hget
      | error e => exact .failed hmiss hget
    · exact .promoted hmiss hget
  · exact .hit hmiss

/-! ## What a call writes -/

section Writes

variable {self : CacheService} {now : Nat} {key : Text} {response : WhoisResponse}

/-- The entry of a response inserted where no entry was live: it lives for its own TTL. -/
theorem entries_insert_of_miss (hmiss : self.cache.get now key = none) :
    (self.insert now key response).cache.entries key =
      some ⟨response, (self.expiry.afterCreate key response).map (now + ·)⟩ := by
  have hnone : self.cache.entry now key = none := by simpa [ExpiryCache.get] using hmiss
  simp only [insert, ExpiryCache.insert, Function.update_self, ExpiryCache.inserted, hnone]

theorem entries_insert_of_ne {key' : Text} (h : key' ≠ key) :
    (self.insert now key response).cache.entries key' = self.cache.entries key' := by
  simp [insert, ExpiryCache.insert, h]

/-- **The two TTL policies agree**: the backend is given what an entry of its own lives, if that is
not zero. -/
theorem backendTtl_eq (self : CacheService) (key : Text) (response : WhoisResponse) :
    self.backendTtl response = (self.expiry.afterCreate key response).filter (· ≠ 0) := by
  simp only [backendTtl, expiry, statusExpiry]
  rcases response.lookupStatus <;> rfl

/-- The writes of a `backend_set`. -/
def written (self : CacheService) (now : Nat) (key : Text) (response : WhoisResponse) :
    List Stored :=
  (self.backendTtl response).toList.map fun ttl => ⟨key, response, ttl, now⟩

theorem length_written_le : (self.written now key response).length ≤ 1 := by
  unfold written
  cases self.backendTtl response <;> simp

theorem backend_backendSet : (self.backendSet now key response).backend =
    self.backend.map (· ++ self.written now key response) := by
  unfold backendSet written
  rcases hb : self.backend with _ | backend
  · simp [hb]
  · rcases ht : self.backendTtl response with _ | ttl <;> simp [hb]

theorem expiry_backendSet : (self.backendSet now key response).expiry = self.expiry := by
  unfold backendSet
  split <;> rfl

end Writes

/-- A write of a call: the response, of a status and with a TTL that are kept, and in the in-process
tier afterwards the entry that has the same response for the same time. -/
structure WriteThrough (self' : CacheService) (now : Nat) (key : Text) (response : WhoisResponse)
    (write : Stored) : Prop where
  key_eq : write.key = key
  response_eq : write.response = response
  status : write.response.lookupStatus ≠ .rateLimited
  ttl : write.ttl ≠ 0
  entry : self'.cache.entries key = some ⟨write.response, some (now + write.ttl)⟩

theorem writeThrough_of_miss {self : CacheService} {now : Nat} {key : Text}
    {response : WhoisResponse} (hmiss : self.cache.get now key = none) :
    ∀ write ∈ self.written now key response,
      WriteThrough ((self.backendSet now key response).insert now key response) now key response
        write := by
  intro write hw
  obtain ⟨ttl, httl, rfl⟩ := List.mem_map.mp hw
  have hsome : self.backendTtl response = some ttl := by simpa using httl
  have hstatus := backendTtl_eq_some hsome
  rw [backendTtl_eq self key, Option.filter_eq_some_iff, decide_eq_true_eq] at hsome
  have hmiss' : (self.backendSet now key response).cache.get now key = none := by
    rwa [cache_backendSet]
  refine ⟨rfl, rfl, hstatus, hsome.2, ?_⟩
  rw [entries_insert_of_miss hmiss', expiry_backendSet, hsome.1]
  rfl

/-! ## The contract -/

/-- **The two-tier lookup.** A call runs its fetch exactly if neither tier has the response; what it
returns is marked as cached exactly if it did not; it fails exactly if the fetch ran and failed, and
then changes nothing; it writes to the backend at most once, what it fetched; and it touches no
other key. -/
theorem getOrFetch_tiers (self : CacheService) (asked took : Nat) (domain : Text)
    (answer : BackendAnswer) (fetchFn : Except WhoisError WhoisResponse) (ran : Bool)
    (result : Except WhoisError WhoisResponse) (self' : CacheService)
    (h : self.getOrFetch asked (asked + took) domain answer fetchFn = ((ran, result), self')) :
    (ran = true ↔ self.cache.get asked (normalizeDomain domain) = none ∧
      self.backendGet asked (normalizeDomain domain) answer = none) ∧
    (∀ r, result = .ok r → (r.cached = false ↔ ran = true)) ∧
    ((∃ e, result = .error e) ↔ ran = true ∧ ∃ e, fetchFn = .error e) ∧
    (∀ e, result = .error e → fetchFn = .error e ∧ self' = self) ∧
    (∃ writes, self'.backend = self.backend.map (· ++ writes) ∧ writes.length ≤ 1 ∧
      ∀ write ∈ writes, ran = true ∧ ∃ fetched, fetchFn = .ok fetched ∧
        WriteThrough self' (asked + took) (normalizeDomain domain)
          { fetched with cached := false } write) ∧
    ∀ key ≠ normalizeDomain domain, self'.cache.entries key = self.cache.entries key := by
  have hcase := getOrFetch_case self asked (asked + took) domain answer fetchFn
  rw [h] at hcase
  cases hcase with
  | hit entry => exact ⟨by simp [entry], by simp, by simp, by simp, ⟨[], by simp⟩, by simp⟩
  | promoted miss stored =>
    refine ⟨by simp [stored], by simp, by simp, by simp, ⟨[], by simp [insert]⟩, ?_⟩
    exact fun key hk => entries_insert_of_ne hk
  | fetched miss absent =>
    have hmiss := ExpiryCache.get_eq_none_of_le (Nat.le_add_right asked took) miss
    refine ⟨by simp [miss, absent], by simp, by simp, by simp,
      ⟨_, backend_backendSet, length_written_le, ?_⟩, ?_⟩
    · exact fun write hw => ⟨rfl, _, rfl, writeThrough_of_miss hmiss write hw⟩
    · intro key hk
      rw [entries_insert_of_ne hk, cache_backendSet]
  | failed miss absent =>
    exact ⟨by simp [miss, absent], by simp, by simp, by simp, ⟨[], by simp⟩, by simp⟩

/-- A new service whose backend fails fetches a record and writes it through. -/
theorem getOrFetch_tiers_outage :
    let self := build createTestConfig (some [])
    let out := self.getOrFetch 0 (0 + 5) "a.com" (.failed "down")
      (.ok (responseWithStatus .found))
    out.1.1 = true ∧ ∃ writes, out.2.backend = self.backend.map (· ++ writes) ∧ writes.length ≤ 1 := by
  have h := getOrFetch_tiers (build createTestConfig (some [])) 0 5 "a.com" (.failed "down")
    (.ok (responseWithStatus .found)) _ _ _ rfl
  obtain ⟨hran, -, -, -, ⟨writes, hbackend, hlength, -⟩, -⟩ := h
  exact ⟨hran.mpr ⟨rfl, rfl⟩, writes, hbackend, hlength⟩

end CacheService

end RustWhois
