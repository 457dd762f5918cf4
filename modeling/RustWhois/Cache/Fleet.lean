import RustWhois.Cache.TwoTier

/-!
# A fleet of cache services

Instances of `CacheService` that share one backend, and their calls in flight. The machine
interleaves the calls of `get` and `get_or_fetch`: each access of a tier is one step, any time passes
between two steps, and a call can be dropped wherever it awaits.

* `FleetCall`, `Phase`: a call in flight, and what it does next;
* `Fleet`, `fleetMachine`: the state and the steps;
* `Origin`, `Mark`: which call fetched a response, and when an entry entered its in-process tier;
  no step reads them;
* **`fleet_getOrFetch`**, **`fleet_get`**: the steps of one call in a row are the call of
  `CacheService`.
-/

namespace RustWhois

open Rust

/-- An instance and a key. -/
abbrev Slot : Type := Nat × Text

/-- The call that fetched a response, and when its fetch returned. -/
structure Origin where
  call : Nat
  fetchedAt : Nat
  deriving DecidableEq

/-- Where the response of an in-process entry comes from, and when it entered the tier. -/
structure Mark where
  origin : Origin
  enteredAt : Nat
  deriving DecidableEq

inductive CallKind
  | get
  | getOrFetch
  deriving DecidableEq

/-- What a call in flight does next. -/
inductive Phase
  /-- The in-process tier missed; the backend is asked next. -/
  | asking
  /-- The backend had the response; it is inserted next. -/
  | promoting (hit : WhoisResponse) (origin : Origin) (readAt : Nat)
  | fetching
  /-- The fetch returned; the backend is written next. -/
  | storing (response : WhoisResponse) (fetchedAt : Nat)
  | inserting (response : WhoisResponse) (fetchedAt : Nat)

structure FleetCall where
  kind : CallKind
  slot : Slot
  phase : Phase

structure Fleet where
  caches : Nat → ExpiryCache Text WhoisResponse
  backend : Option Backend
  positiveTtl : Nat
  negativeTtl : Nat
  now : Nat
  calls : Nat → Option FleetCall
  /-- The number of the next call. -/
  next : Nat
  /-- The `get_or_fetch` that the others on its slot wait for. -/
  leading : Slot → Option Nat
  marks : Slot → Mark
  /-- The origins of what the backend was handed. -/
  writers : List Origin
  /-- When a call that fetched returned. -/
  completed : Nat → Option Nat

/-- A step of a call in flight. -/
inductive CallStep
  | ask (answer : BackendAnswer)
  | promote
  | returned (outcome : Except WhoisError WhoisResponse)
  | store
  | insert
  /-- The future of the call is dropped. -/
  | cancel

inductive FleetAction
  | start (kind : CallKind) (i : Nat) (domain : Text)
  | resume (call : Nat) (step : CallStep)
  /-- The instance drops an entry. -/
  | evict (slot : Slot)

/-- A step, taken `waited` after the last one. -/
structure FleetEvent where
  waited : Nat
  action : FleetAction

/-- What a step returns to a caller. -/
inductive FleetReply
  | quiet
  /-- A live in-process entry. -/
  | hit (response : WhoisResponse) (mark : Mark)
  /-- A response of the backend. -/
  | promoted (response : WhoisResponse) (origin : Origin)
  | fetched (response : WhoisResponse)
  deriving DecidableEq

/-- The response that a step served from a tier, with its origin. -/
def FleetReply.served : FleetReply → Option (WhoisResponse × Origin)
  | .hit response mark => some (response, mark.origin)
  | .promoted response origin => some (response, origin)
  | _ => none

namespace Fleet

/-- New instances with one configuration. -/
def new (config : Config) (backed : Bool) : Fleet where
  caches _ := .empty
  backend := if backed then some [] else none
  positiveTtl := fromSecs config.cacheTtlSeconds
  negativeTtl := fromSecs config.negativeCacheTtlSeconds
  now := 0
  calls _ := none
  next := 0
  leading _ := none
  marks _ := ⟨⟨0, 0⟩, 0⟩
  writers := []
  completed _ := none

variable (s : Fleet)

/-- An instance, as a service of its own. -/
def service (i : Nat) : CacheService where
  cache := s.caches i
  backend := s.backend
  positiveTtl := s.positiveTtl
  negativeTtl := s.negativeTtl

/-- The TTL of a response; a throttled one has none. -/
def ttl (response : WhoisResponse) : Nat :=
  match response.lookupStatus with
  | .found => s.positiveTtl
  | .notFound => s.negativeTtl
  | .rateLimited => 0

def tick (waited : Nat) : Fleet := { s with now := s.now + waited }

/-- The call goes on. -/
def proceed (c : Nat) (call : FleetCall) (phase : Phase) : Fleet :=
  { s with calls := Function.update s.calls c (some { call with phase }) }

/-- The call is over, and no longer waited for. -/
def release (c : Nat) (call : FleetCall) : Fleet :=
  { s with
    calls := Function.update s.calls c none
    leading := if call.kind = .getOrFetch then Function.update s.leading call.slot none
      else s.leading }

/-- `self.cache.insert` of an instance. -/
def enter (slot : Slot) (response : WhoisResponse) (origin : Origin) : Fleet :=
  { s with
    caches := Function.update s.caches slot.1
      ((s.service slot.1).insert s.now slot.2 response).cache
    marks := Function.update s.marks slot ⟨origin, s.now⟩ }

/-- The call inserts its response and is over, with what has completed then. -/
def conclude (c : Nat) (call : FleetCall) (response : WhoisResponse) (origin : Origin)
    (completed : Nat → Option Nat) : Fleet :=
  { (s.enter call.slot response origin).release c call with completed }

/-- The in-process read. A `get_or_fetch` whose slot has one in flight waits for it, and starts again
if that is dropped. -/
def start (kind : CallKind) (slot : Slot) : FleetReply × Fleet :=
  match (s.caches slot.1).get s.now slot.2 with
  | some cached => (.hit { cached with cached := true } (s.marks slot), s)
  | none =>
    if kind = .getOrFetch ∧ (s.leading slot).isSome then (.quiet, s)
    else (.quiet,
      { s with
        calls := Function.update s.calls s.next (some ⟨kind, slot, .asking⟩)
        next := s.next + 1
        leading := if kind = .getOrFetch then Function.update s.leading slot (some s.next)
          else s.leading })

/-- Where a backend hit comes from. -/
def originOf : BackendAnswer → Origin
  | .failed _ => ⟨0, 0⟩
  | .stored i => s.writers[i]?.getD ⟨0, 0⟩

/-- The response that a backend hit is inserted as. -/
def promotion (kind : CallKind) (hit : WhoisResponse) : WhoisResponse :=
  match kind with
  | .get => hit
  | .getOrFetch => { hit with cached := true }

/-- `backend_get`. -/
def ask (c : Nat) (call : FleetCall) (answer : BackendAnswer) : Fleet :=
  match (s.service call.slot.1).backendGet s.now call.slot.2 answer with
  | some hit => s.proceed c call (.promoting (promotion call.kind hit) (s.originOf answer) s.now)
  | none => match call.kind with
    | .get => s.release c call
    | .getOrFetch => s.proceed c call .fetching

/-- `fetch_fn` returns. -/
def returned (c : Nat) (call : FleetCall) : Except WhoisError WhoisResponse → Fleet
  | .ok fetched => s.proceed c call (.storing { fetched with cached := false } s.now)
  | .error _ => s.release c call

/-- `backend_set`. -/
def store (c : Nat) (call : FleetCall) (response : WhoisResponse) (fetchedAt : Nat) : Fleet :=
  let service := s.service call.slot.1
  { s.proceed c call (.inserting response fetchedAt) with
    backend := (service.backendSet s.now call.slot.2 response).backend
    writers := s.writers ++ if s.backend.isSome then
        (service.written s.now call.slot.2 response).map fun _ => ⟨c, fetchedAt⟩
      else [] }

/-- A step of a call in flight; one that is not its next step does nothing. -/
def resume (c : Nat) (call : FleetCall) (step : CallStep) : FleetReply × Fleet :=
  match step, call.phase with
  | .ask answer, .asking => (.quiet, s.ask c call answer)
  | .promote, .promoting hit origin _ =>
    (.promoted { hit with cached := true } origin, s.conclude c call hit origin s.completed)
  | .returned outcome, .fetching => (.quiet, s.returned c call outcome)
  | .store, .storing response fetchedAt => (.quiet, s.store c call response fetchedAt)
  | .insert, .inserting response fetchedAt =>
    (.fetched response, s.conclude c call response ⟨c, fetchedAt⟩
      (Function.update s.completed c (some s.now)))
  | .cancel, _ => (.quiet, s.release c call)
  | _, _ => (.quiet, s)

/-- A step, at its time. -/
def act : FleetAction → FleetReply × Fleet
  | .start kind i domain => s.start kind (i, CacheService.normalizeDomain domain)
  | .resume c step => match s.calls c with
    | some call => s.resume c call step
    | none => (.quiet, s)
  | .evict slot => (.quiet,
    { s with caches := Function.update s.caches slot.1 ((s.caches slot.1).evict slot.2) })

end Fleet

def fleetMachine : Machine Fleet FleetEvent FleetReply where
  next s e := (s.tick e.waited).act e.action

@[simp] theorem fleetMachine_next (s : Fleet) (e : FleetEvent) :
    fleetMachine.next s e = (s.tick e.waited).act e.action := rfl

/-! ## What a step can do -/

namespace Fleet

/-- The steps, each with its answer and what it does. -/
inductive Acts (s : Fleet) : FleetAction → FleetReply → Fleet → Prop
  | idle (action : FleetAction) : Acts s action .quiet s
  | hit {kind : CallKind} {i : Nat} {domain : Text} {cached : WhoisResponse}
    (live : (s.caches i).get s.now (CacheService.normalizeDomain domain) = some cached) :
    Acts s (.start kind i domain)
      (.hit { cached with cached := true } (s.marks (i, CacheService.normalizeDomain domain))) s
  | opened {kind : CallKind} {i : Nat} {domain : Text}
    (miss : (s.caches i).get s.now (CacheService.normalizeDomain domain) = none)
    (free : kind = .getOrFetch → s.leading (i, CacheService.normalizeDomain domain) = none) :
    Acts s (.start kind i domain) .quiet
      { s with
        calls := Function.update s.calls s.next
          (some ⟨kind, (i, CacheService.normalizeDomain domain), .asking⟩)
        next := s.next + 1
        leading := if kind = .getOrFetch then
            Function.update s.leading (i, CacheService.normalizeDomain domain) (some s.next)
          else s.leading }
  | evicted (slot : Slot) : Acts s (.evict slot) .quiet
      { s with caches := Function.update s.caches slot.1 ((s.caches slot.1).evict slot.2) }
  | asked {c : Nat} {call : FleetCall} {answer : BackendAnswer} {hit : WhoisResponse}
    (running : s.calls c = some call) (phase : call.phase = .asking)
    (stored : (s.service call.slot.1).backendGet s.now call.slot.2 answer = some hit) :
    Acts s (.resume c (.ask answer)) .quiet
      (s.proceed c call (.promoting (promotion call.kind hit) (s.originOf answer) s.now))
  | fetching {c : Nat} {call : FleetCall} {answer : BackendAnswer}
    (running : s.calls c = some call) (phase : call.phase = .asking)
    (kind : call.kind = .getOrFetch) :
    Acts s (.resume c (.ask answer)) .quiet (s.proceed c call .fetching)
  | released {c : Nat} {call : FleetCall} {step : CallStep} (running : s.calls c = some call) :
    Acts s (.resume c step) .quiet (s.release c call)
  | promoted {c : Nat} {call : FleetCall} {hit : WhoisResponse} {origin : Origin} {readAt : Nat}
    (running : s.calls c = some call) (phase : call.phase = .promoting hit origin readAt) :
    Acts s (.resume c .promote) (.promoted { hit with cached := true } origin)
      (s.conclude c call hit origin s.completed)
  | returned {c : Nat} {call : FleetCall} {fetched : WhoisResponse}
    (running : s.calls c = some call) (phase : call.phase = .fetching) :
    Acts s (.resume c (.returned (.ok fetched))) .quiet
      (s.proceed c call (.storing { fetched with cached := false } s.now))
  | stored {c : Nat} {call : FleetCall} {response : WhoisResponse} {fetchedAt : Nat}
    (running : s.calls c = some call) (phase : call.phase = .storing response fetchedAt) :
    Acts s (.resume c .store) .quiet (s.store c call response fetchedAt)
  | inserted {c : Nat} {call : FleetCall} {response : WhoisResponse} {fetchedAt : Nat}
    (running : s.calls c = some call) (phase : call.phase = .inserting response fetchedAt) :
    Acts s (.resume c .insert) (.fetched response)
      (s.conclude c call response ⟨c, fetchedAt⟩ (Function.update s.completed c (some s.now)))

/-- **A step is one of these.** -/
theorem acts_act (s : Fleet) (action : FleetAction) :
    Acts s action (s.act action).1 (s.act action).2 := by
  cases action with
  | start kind i domain =>
    simp only [act, start]
    rcases hlive : (s.caches i).get s.now (CacheService.normalizeDomain domain) with _ | cached
    · dsimp only
      by_cases hbusy :
          kind = .getOrFetch ∧ (s.leading (i, CacheService.normalizeDomain domain)).isSome = true
      · rw [if_pos hbusy]
        exact .idle _
      · rw [if_neg hbusy]
        refine .opened hlive fun hkind => ?_
        have hfree := not_and.mp hbusy hkind
        simpa using hfree
    · exact .hit hlive
  | evict slot => exact .evicted slot
  | resume c step =>
    rcases hrun : s.calls c with _ | call
    · simp only [act, hrun]
      exact .idle _
    simp only [act, hrun, resume]
    split
    · next answer hphase =>
      dsimp only [ask]
      split
      · next hstored => exact .asked hrun hphase hstored
      · split
        · exact .released hrun
        · next hkind => exact .fetching hrun hphase hkind
    · next hit origin readAt hphase => exact .promoted hrun hphase
    · next outcome hphase =>
      cases outcome with
      | ok fetched => exact .returned hrun hphase
      | error e => exact .released hrun
    · next response fetchedAt hphase => exact .stored hrun hphase
    · next response fetchedAt hphase => exact .inserted hrun hphase
    · exact .released hrun
    · exact .idle _

/-! ## What no step changes -/

variable {s : Fleet}

theorem afterCreate_service (i : Nat) (key : Text) (response : WhoisResponse) :
    (s.service i).expiry.afterCreate key response = some (s.ttl response) := by
  simp only [CacheService.expiry, statusExpiry, service, ttl]
  cases response.lookupStatus <;> rfl

theorem ttl_of_mem_written {i : Nat} {key : Text} {response : WhoisResponse} {x : Stored}
    (h : x ∈ (s.service i).written s.now key response) :
    x.key = key ∧ x.response = response ∧ x.ttl = s.ttl response ∧ x.storedAt = s.now := by
  obtain ⟨ttl, httl, rfl⟩ := List.mem_map.mp h
  have hsome : (s.service i).backendTtl response = some ttl := by simpa using httl
  rw [CacheService.backendTtl_eq _ key, afterCreate_service, Option.filter_eq_some_iff,
    Option.some.injEq] at hsome
  exact ⟨rfl, rfl, hsome.1.symm, rfl⟩

section Enter

variable {slot slot' : Slot} {response : WhoisResponse} {origin : Origin}

theorem entries_enter : ((s.enter slot response origin).caches slot.1).entries slot.2 =
    some ((s.caches slot.1).inserted (s.service slot.1).expiry s.now slot.2 response) := by
  simp only [enter, Function.update_self]
  exact Function.update_self _ _ _

theorem entries_enter_of_ne (h : slot' ≠ slot) :
    ((s.enter slot response origin).caches slot'.1).entries slot'.2 =
      (s.caches slot'.1).entries slot'.2 := by
  by_cases hi : slot'.1 = slot.1
  · have hk : slot'.2 ≠ slot.2 := fun hk => h (Prod.ext hi hk)
    simp only [enter]
    rw [hi, Function.update_self, CacheService.entries_insert_of_ne hk]
    rfl
  · simp only [enter, Function.update_of_ne hi]

theorem entries_enter_of_miss (hmiss : (s.caches slot.1).get s.now slot.2 = none) :
    ((s.enter slot response origin).caches slot.1).entries slot.2 =
      some ⟨response, some (s.now + s.ttl response)⟩ := by
  simp only [enter, Function.update_self]
  rw [CacheService.entries_insert_of_miss hmiss, afterCreate_service]
  rfl

end Enter

section Acts

variable {action : FleetAction} {reply : FleetReply} {s' : Fleet}

theorem Acts.next_le (h : Acts s action reply s') : s.next ≤ s'.next := by
  cases h with
  | opened miss free => exact Nat.le_succ _
  | _ => exact Nat.le_refl _

theorem Acts.running_of (h : Acts s action reply s') {c : Nat} {call : FleetCall}
    (hc : s'.calls c = some call) :
    (∃ old, s.calls c = some old ∧ old.slot = call.slot) ∨
      (c = s.next ∧ s.next < s'.next) ∧
        (s'.caches call.slot.1).get s'.now call.slot.2 = none := by
  have hproceed : ∀ {d : Nat} {old : FleetCall} {phase : Phase}, s.calls d = some old →
      Function.update s.calls d (some { old with phase }) c = some call →
      ∃ old, s.calls c = some old ∧ old.slot = call.slot := by
    intro d old phase hd hupdate
    rcases of_update_some hupdate with ⟨rfl, rfl⟩ | ⟨-, hupdate⟩
    · exact ⟨old, hd, rfl⟩
    · exact ⟨call, hupdate, rfl⟩
  cases h with
  | idle => exact .inl ⟨call, hc, rfl⟩
  | hit live => exact .inl ⟨call, hc, rfl⟩
  | opened miss free =>
    rcases of_update_some hc with ⟨rfl, rfl⟩ | ⟨-, hc⟩
    · exact .inr ⟨⟨rfl, Nat.lt_succ_self _⟩, miss⟩
    · exact .inl ⟨call, hc, rfl⟩
  | evicted slot => exact .inl ⟨call, hc, rfl⟩
  | asked running phase stored => exact .inl (hproceed running hc)
  | fetching running phase kind => exact .inl (hproceed running hc)
  | released running => exact .inl ⟨call, (of_update_none hc).2, rfl⟩
  | promoted running phase => exact .inl ⟨call, (of_update_none hc).2, rfl⟩
  | returned running phase => exact .inl (hproceed running hc)
  | stored running phase => exact .inl (hproceed running hc)
  | inserted running phase => exact .inl ⟨call, (of_update_none hc).2, rfl⟩

theorem Acts.now_eq (h : Acts s action reply s') : s'.now = s.now := by
  cases h <;> rfl

theorem Acts.ttl_eq (h : Acts s action reply s') (response : WhoisResponse) :
    s'.ttl response = s.ttl response := by
  cases h <;> rfl

theorem Acts.backend_isSome (h : Acts s action reply s') :
    s'.backend.isSome = s.backend.isSome := by
  cases h with
  | @stored c call response fetchedAt running phase =>
    simp only [store, CacheService.backend_backendSet, Option.isSome_map]
    rfl
  | _ => rfl

theorem Acts.completed (h : Acts s action reply s') {c t : Nat} (hc : s'.completed c = some t) :
    s.completed c = some t ∨ t = s.now := by
  cases h with
  | @inserted c' call response fetchedAt running phase =>
    change Function.update s.completed c' (some s.now) c = some t at hc
    by_cases heq : c = c'
    · subst heq
      rw [Function.update_self] at hc
      cases hc
      exact .inr rfl
    · rw [Function.update_of_ne heq] at hc
      exact .inl hc
  | _ => exact .inl hc

/-- A state reached from another one: time has passed, the configuration is the same, and what has
completed since did so in that time. -/
structure Later (s s' : Fleet) : Prop where
  now : s.now ≤ s'.now
  ttl : ∀ response, s'.ttl response = s.ttl response
  backed : s'.backend.isSome = s.backend.isSome
  completed : ∀ c t, s'.completed c = some t → s.completed c = some t ∨ s.now ≤ t

theorem Acts.later (h : Acts s action reply s') : Later s s' :=
  ⟨h.now_eq.ge, h.ttl_eq, h.backend_isSome,
    fun _ _ hc => (h.completed hc).imp_right fun ht => ht.ge⟩

theorem later_tick (s : Fleet) (waited : Nat) : Later s (s.tick waited) :=
  ⟨Nat.le_add_right _ _, fun _ => rfl, rfl, fun _ _ => .inl⟩

end Acts

/-! ## Calls without interruption -/

/-- The steps of one call in a row. A step that the call does not come to does nothing. -/
def callSteps (s : Fleet) (waited took : Nat) (kind : CallKind) (i : Nat) (domain : Text)
    (answer : BackendAnswer) (fetchFn : Except WhoisError WhoisResponse) : List FleetEvent :=
  [⟨waited, .start kind i domain⟩, ⟨0, .resume s.next (.ask answer)⟩,
    ⟨took, .resume s.next .promote⟩, ⟨0, .resume s.next (.returned fetchFn)⟩,
    ⟨0, .resume s.next .store⟩, ⟨0, .resume s.next .insert⟩]

/-- **The steps of a `get_or_fetch` in a row are the call.** -/
theorem fleet_getOrFetch (s : Fleet) (waited took i : Nat) (domain : Text) (answer : BackendAnswer)
    (fetchFn : Except WhoisError WhoisResponse)
    (hfree : s.leading (i, CacheService.normalizeDomain domain) = none)
    (hnew : s.calls s.next = none) :
    (fleetMachine.final s (s.callSteps waited took .getOrFetch i domain answer fetchFn)).service i =
      ((s.service i).getOrFetch (s.now + waited) (s.now + waited + took) domain answer fetchFn).2 := by
  simp only [callSteps, Machine.final, fleetMachine_next, CacheService.getOrFetch]
  rcases hlive : (s.caches i).get (s.now + waited) (CacheService.normalizeDomain domain)
    with _ | cached
  · rcases hget : (s.service i).backendGet (s.now + waited) (CacheService.normalizeDomain domain)
      answer with _ | hit
    · unfold service at hget
      cases fetchFn with
      | ok fetched =>
        simp [act, start, tick, hlive, hfree, hget, service, resume, ask, proceed, returned, store,
          enter, release, conclude]
        unfold CacheService.backendSet
        split <;> rfl
      | error e =>
        simp [act, start, tick, hlive, hfree, hget, service, resume, ask, proceed, returned, release]
    · unfold service at hget
      simp [act, start, tick, hlive, hfree, hget, service, resume, ask, proceed, enter, release,
        conclude, promotion]
      rfl
  · simp [act, start, tick, hlive, hnew, service]

/-- **The steps of a `get` in a row are the call.** -/
theorem fleet_get (s : Fleet) (waited took i : Nat) (domain : Text) (answer : BackendAnswer)
    (fetchFn : Except WhoisError WhoisResponse) (hnew : s.calls s.next = none) :
    (fleetMachine.final s (s.callSteps waited took .get i domain answer fetchFn)).service i =
      ((s.service i).get (s.now + waited) (s.now + waited + took) domain answer).2 := by
  simp only [callSteps, Machine.final, fleetMachine_next, CacheService.get]
  rcases hlive : (s.caches i).get (s.now + waited) (CacheService.normalizeDomain domain)
    with _ | cached
  · rcases hget : (s.service i).backendGet (s.now + waited) (CacheService.normalizeDomain domain)
      answer with _ | hit
    · unfold service at hget
      simp [act, start, tick, hlive, hget, service, resume, ask, release]
    · unfold service at hget
      simp [act, start, tick, hlive, hget, service, resume, ask, proceed, enter, release, conclude,
        promotion]
      rfl
  · simp [act, start, tick, hlive, hnew, service]

end Fleet

end RustWhois
