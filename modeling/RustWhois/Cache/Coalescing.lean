import RustWhois.Cache.Leaders
import RustWhois.Errors

/-!
# Coalesced calls

The calls of `get_or_fetch` with those that wait. moka lets one call lead the others on its slot, as
`Coalescing` states it: they wait until it is over and share its outcome, or start again if it was
dropped. The machine is that of `Cache/Fleet` with the waiting calls beside it.

* `Waiter`, `Coalesced`, `coalescedMachine`: the state and the steps;
* `Attended`: what holds between waiting calls and those in flight;
* **`final_erased`**: without the waiting calls, a run is one of `fleetMachine`;
* `WaitHistory`: what a run remembers of its waiting calls.
-/

namespace RustWhois

open Rust

/-- A call that waits for another one on its slot. -/
structure Waiter where
  i : Nat
  domain : Text
  leader : Nat

def Waiter.slot (self : Waiter) : Slot := (self.i, CacheService.normalizeDomain self.domain)

/-- Where an answer comes from. -/
inductive Source
  /-- A live in-process entry. -/
  | hit
  /-- A response of the backend. -/
  | promoted
  | fetched
  /-- The outcome of the call that this one waited for. -/
  | shared (leader : Nat)
  deriving DecidableEq

/-- What a caller gets. -/
structure CallAnswer where
  slot : Slot
  source : Source
  result : Except WhoisError WhoisResponse
  deriving DecidableEq

/-- The in-process caches, for calls by their numbers. -/
abbrev MokaCalls : Type := Coalescing Nat WhoisResponse (Except WhoisError WhoisResponse)

structure Coalesced where
  moka : MokaCalls
  fleet : Fleet
  waiters : Nat → Option Waiter
  /-- The number of the next waiting call. -/
  next : Nat
  /-- The outcomes of calls that are over; those of dropped calls are missing. -/
  landed : Nat → Option (Except WhoisError WhoisResponse)

inductive CoalescedAction
  | start (i : Nat) (domain : Text)
  /-- A step of a call in flight. `sole` says that nobody else holds its error. -/
  | resume (call : Nat) (step : CallStep) (sole : Bool)
  /-- A waiting call looks at the one it waits for. `fresh` is what moka says of the shared entry. -/
  | wake (w : Nat) (fresh sole : Bool)
  /-- The future of a waiting call is dropped. -/
  | leave (w : Nat)
  | evict (slot : Slot)

/-- A step, taken `waited` after the last one. -/
structure CoalescedEvent where
  waited : Nat
  action : CoalescedAction

/-- The outcome that a step ends a call with. -/
def Fleet.landing (s : Fleet) (c : Nat) (step : CallStep) :
    Option (Except WhoisError WhoisResponse) :=
  match s.calls c with
  | some call => match step, call.phase with
    | .promote, .promoting hit _ _ => some (.ok { hit with cached := true })
    | .returned (.error e), .fetching => some (.error e)
    | .insert, .inserting response _ => some (.ok response)
    | _, _ => none
  | none => none

/-- Where the answer of a call comes from that a step ends. -/
def CallStep.source : CallStep → Source
  | .promote => .promoted
  | _ => .fetched

/-- `Arc::try_unwrap(e).unwrap_or_else(|shared| shared.duplicate())`. -/
def unwrapError (sole : Bool) (e : WhoisError) : WhoisError := if sole then e else e.duplicate

/-- What a waiting call makes of the outcome it shares. -/
def share (fresh sole : Bool) : Except WhoisError WhoisResponse → Except WhoisError WhoisResponse
  | .ok response => .ok (if fresh then response else { response with cached := true })
  | .error e => .error (unwrapError sole e)

namespace Coalesced

/-- New instances with one configuration. -/
def new (moka : MokaCalls) (config : Config) (backed : Bool) : Coalesced where
  moka
  fleet := .new config backed
  waiters _ := none
  next := 0
  landed _ := none

variable (s : Coalesced)

def tick (waited : Nat) : Coalesced := { s with fleet := s.fleet.tick waited }

@[simp] theorem fleet_tick (waited : Nat) : (s.tick waited).fleet = s.fleet.tick waited := rfl

/-- The call of number `w` looks its key up: it is answered, waits for the call in flight, or leads
the slot. -/
def join (w i : Nat) (domain : Text) : Option CallAnswer × Coalesced :=
  let key := CacheService.normalizeDomain domain
  match s.moka.enter ((s.fleet.caches i).get s.fleet.now key) (s.fleet.leading (i, key)) with
  | .serves response => (some ⟨(i, key), .hit, .ok { response with cached := true }⟩,
    { s with waiters := Function.update s.waiters w none })
  | .waits c => (none, { s with waiters := Function.update s.waiters w (some ⟨i, domain, c⟩) })
  | .leads => (none,
    { s with
      fleet := (s.fleet.act (.start .getOrFetch i domain)).2
      waiters := Function.update s.waiters w none })

/-- A step of a call in flight. -/
def resume (c : Nat) (step : CallStep) (sole : Bool) : Option CallAnswer × Coalesced :=
  let fleet := (s.fleet.act (.resume c step)).2
  match s.fleet.calls c, s.fleet.landing c step with
  | some call, some outcome =>
    (some ⟨call.slot, step.source, outcome.mapError (unwrapError sole)⟩,
      { s with fleet, landed := Function.update s.landed c (some outcome) })
  | _, _ => (none, { s with fleet })

/-- A waiting call shares an outcome, goes on waiting, or starts again. -/
def wake (w : Nat) (fresh sole : Bool) : Option CallAnswer × Coalesced :=
  match s.waiters w with
  | some waiter =>
    match s.moka.wake (s.landed waiter.leader) (s.fleet.calls waiter.leader).isSome with
    | .shares outcome =>
      (some ⟨waiter.slot, .shared waiter.leader, share fresh sole outcome⟩,
        { s with waiters := Function.update s.waiters w none })
    | .waits => (none, s)
    | .restarts => s.join w waiter.i waiter.domain
  | none => (none, s)

/-- A step, at its time. -/
def act : CoalescedAction → Option CallAnswer × Coalesced
  | .start i domain => { s with next := s.next + 1 }.join s.next i domain
  | .resume c step sole => s.resume c step sole
  | .wake w fresh sole => s.wake w fresh sole
  | .leave w => (none, { s with waiters := Function.update s.waiters w none })
  | .evict slot => (none, { s with fleet := (s.fleet.act (.evict slot)).2 })

end Coalesced

def coalescedMachine : Machine Coalesced CoalescedEvent (Option CallAnswer) where
  next s e := (s.tick e.waited).act e.action

@[simp] theorem coalescedMachine_next (s : Coalesced) (e : CoalescedEvent) :
    coalescedMachine.next s e = (s.tick e.waited).act e.action := rfl

namespace Coalesced

section Wake

variable {s : Coalesced} {w : Nat} {waiter : Waiter} (fresh sole : Bool)

theorem wake_of_none (hw : s.waiters w = none) : s.wake w fresh sole = (none, s) := by
  rw [wake, hw]

variable (hw : s.waiters w = some waiter)

include hw

theorem wake_of_landed {outcome : Except WhoisError WhoisResponse}
    (hlanded : s.landed waiter.leader = some outcome) : s.wake w fresh sole =
      (some ⟨waiter.slot, .shared waiter.leader, share fresh sole outcome⟩,
        { s with waiters := Function.update s.waiters w none }) := by
  simp only [wake, hw, hlanded, s.moka.wake_ended]

theorem wake_of_flying {call : FleetCall} (hlanded : s.landed waiter.leader = none)
    (hcall : s.fleet.calls waiter.leader = some call) : s.wake w fresh sole = (none, s) := by
  simp only [wake, hw, hlanded, hcall, Option.isSome_some, s.moka.wake_running]

theorem wake_of_dropped (hlanded : s.landed waiter.leader = none)
    (hcall : s.fleet.calls waiter.leader = none) :
    s.wake w fresh sole = s.join w waiter.i waiter.domain := by
  simp only [wake, hw, hlanded, hcall, Option.isSome_none, s.moka.wake_dropped]

end Wake

end Coalesced

/-! ## What a step can do -/

/-- A new call leads the slot. -/
def Fleet.lead (s : Fleet) (slot : Slot) : Fleet :=
  { s with
    calls := Function.update s.calls s.next (some ⟨.getOrFetch, slot, .asking⟩)
    next := s.next + 1
    leading := Function.update s.leading slot (some s.next) }

namespace Coalesced

/-- What a call finds when it looks its key up. -/
inductive Joins (s : Coalesced) (w i : Nat) (domain : Text) : Option CallAnswer → Coalesced → Prop
  | hit {cached : WhoisResponse}
    (live : (s.fleet.caches i).get s.fleet.now (CacheService.normalizeDomain domain) = some cached) :
    Joins s w i domain
      (some ⟨(i, CacheService.normalizeDomain domain), .hit, .ok { cached with cached := true }⟩)
      { s with waiters := Function.update s.waiters w none }
  | waits {c : Nat} (busy : s.fleet.leading (i, CacheService.normalizeDomain domain) = some c) :
    Joins s w i domain none
      { s with waiters := Function.update s.waiters w (some ⟨i, domain, c⟩) }
  | leads
    (miss : (s.fleet.caches i).get s.fleet.now (CacheService.normalizeDomain domain) = none)
    (free : s.fleet.leading (i, CacheService.normalizeDomain domain) = none) :
    Joins s w i domain none
      { s with
        fleet := s.fleet.lead (i, CacheService.normalizeDomain domain)
        waiters := Function.update s.waiters w none }

/-- The steps, each with its answer and what it does. -/
inductive Acts (s : Coalesced) : CoalescedAction → Option CallAnswer → Coalesced → Prop
  | idle (action : CoalescedAction) : Acts s action none s
  | started {i : Nat} {domain : Text} {a : Option CallAnswer} {s' : Coalesced}
    (joins : Joins { s with next := s.next + 1 } s.next i domain a s') :
    Acts s (.start i domain) a s'
  | restarted {w : Nat} {fresh sole : Bool} {waiter : Waiter} {a : Option CallAnswer} {s' : Coalesced}
    (waits : s.waiters w = some waiter) (gone : s.fleet.calls waiter.leader = none)
    (dropped : s.landed waiter.leader = none) (joins : Joins s w waiter.i waiter.domain a s') :
    Acts s (.wake w fresh sole) a s'
  | shared {w : Nat} {fresh sole : Bool} {waiter : Waiter}
    {outcome : Except WhoisError WhoisResponse} (waits : s.waiters w = some waiter)
    (landed : s.landed waiter.leader = some outcome) :
    Acts s (.wake w fresh sole)
      (some ⟨waiter.slot, .shared waiter.leader, share fresh sole outcome⟩)
      { s with waiters := Function.update s.waiters w none }
  | landed {c : Nat} {step : CallStep} {sole : Bool} {call : FleetCall}
    {outcome : Except WhoisError WhoisResponse} (running : s.fleet.calls c = some call)
    (lands : s.fleet.landing c step = some outcome) :
    Acts s (.resume c step sole)
      (some ⟨call.slot, step.source, outcome.mapError (unwrapError sole)⟩)
      { s with
        fleet := (s.fleet.act (.resume c step)).2
        landed := Function.update s.landed c (some outcome) }
  | resumed {c : Nat} {step : CallStep} {sole : Bool} (flies : s.fleet.landing c step = none) :
    Acts s (.resume c step sole) none { s with fleet := (s.fleet.act (.resume c step)).2 }
  | left (w : Nat) :
    Acts s (.leave w) none { s with waiters := Function.update s.waiters w none }
  | evicted (slot : Slot) :
    Acts s (.evict slot) none { s with fleet := (s.fleet.act (.evict slot)).2 }

theorem joins_join (s : Coalesced) (w i : Nat) (domain : Text) :
    Joins s w i domain (s.join w i domain).1 (s.join w i domain).2 := by
  simp only [join]
  rcases hlive : (s.fleet.caches i).get s.fleet.now (CacheService.normalizeDomain domain)
    with _ | cached
  · rcases hlead : s.fleet.leading (i, CacheService.normalizeDomain domain) with _ | c
    · have hstart : (s.fleet.act (.start .getOrFetch i domain)).2 =
          s.fleet.lead (i, CacheService.normalizeDomain domain) := by
        simp only [Fleet.act, Fleet.start, hlive, hlead]
        rfl
      rw [s.moka.enter_free]
      dsimp only
      rw [hstart]
      exact .leads hlive hlead
    · rw [s.moka.enter_busy]
      exact .waits hlead
  · rw [s.moka.enter_live]
    exact .hit hlive

/-- **A step is one of these.** -/
theorem acts_act (s : Coalesced) (action : CoalescedAction) :
    Acts s action (s.act action).1 (s.act action).2 := by
  cases action with
  | start i domain => exact .started (joins_join _ _ _ _)
  | resume c step sole =>
    simp only [act, resume]
    rcases hrun : s.fleet.calls c with _ | call
    · have hland : s.fleet.landing c step = none := by rw [Fleet.landing, hrun]
      exact .resumed hland
    · rcases hland : s.fleet.landing c step with _ | outcome
      · exact .resumed hland
      · exact .landed hrun hland
  | wake w fresh sole =>
    rw [act]
    rcases hw : s.waiters w with _ | waiter
    · rw [wake_of_none fresh sole hw]
      exact .idle _
    rcases hlanded : s.landed waiter.leader with _ | outcome
    · rcases hcall : s.fleet.calls waiter.leader with _ | call
      · rw [wake_of_dropped fresh sole hw hlanded hcall]
        exact .restarted hw hcall hlanded (joins_join _ _ _ _)
      · rw [wake_of_flying fresh sole hw hlanded hcall]
        exact .idle _
    · rw [wake_of_landed fresh sole hw hlanded]
      exact .shared hw hlanded
  | leave w => exact .left w
  | evict slot => exact .evicted slot

end Coalesced

namespace Fleet

theorem calls_of_landing {s : Fleet} {c : Nat} {step : CallStep} {outcome : Except WhoisError WhoisResponse}
    (h : s.landing c step = some outcome) : (s.act (.resume c step)).2.calls c = none := by
  rw [landing] at h
  rcases hrun : s.calls c with _ | ⟨kind, slot, phase⟩
  · rw [hrun] at h
    cases h
  · simp only [hrun] at h
    simp only [act, hrun, resume]
    split at h <;> simp_all [conclude, release, returned, enter]

end Fleet

/-! ## Waiting calls -/

namespace Coalesced

variable {s s' : Coalesced} {action : CoalescedAction} {a : Option CallAnswer}

/-- The fleet acts as in a step of `fleetMachine` that starts no `get`. -/
structure FleetActs (fleet : Fleet) (action : CoalescedAction) (faction : FleetAction)
    (reply : FleetReply) (fleet' : Fleet) : Prop where
  fetch : Fleet.FetchAction faction
  evict : ∀ slot, faction = .evict slot → action = .evict slot
  resume : ∀ c step, faction = .resume c step → ∃ sole, action = .resume c step sole
  acts : Fleet.Acts fleet faction reply fleet'

theorem FleetActs.start {action : CoalescedAction} {i : Nat} {domain : Text} {reply : FleetReply}
    {fleet fleet' : Fleet} (h : Fleet.Acts fleet (.start .getOrFetch i domain) reply fleet') :
    FleetActs fleet action (.start .getOrFetch i domain) reply fleet' :=
  ⟨by rintro _ _ _ ⟨⟩; rfl, by rintro _ ⟨⟩, by rintro _ _ ⟨⟩, h⟩

theorem FleetActs.idle {action : CoalescedAction} {fleet : Fleet} :
    FleetActs fleet action (.start .getOrFetch 0 []) .quiet fleet := .start (.idle _)

theorem FleetActs.resumed {c : Nat} {step : CallStep} {sole : Bool} {fleet : Fleet} :
    FleetActs fleet (.resume c step sole) (.resume c step) (fleet.act (.resume c step)).1
      (fleet.act (.resume c step)).2 :=
  ⟨by rintro _ _ _ ⟨⟩, by rintro _ ⟨⟩, by rintro _ _ ⟨⟩; exact ⟨sole, rfl⟩, Fleet.acts_act _ _⟩

theorem Joins.fleet {w i : Nat} {domain : Text} (h : Joins s w i domain a s') :
    ∃ faction reply, FleetActs s.fleet action faction reply s'.fleet := by
  cases h with
  | hit live => exact ⟨_, _, .idle⟩
  | waits busy => exact ⟨_, _, .idle⟩
  | leads miss free => exact ⟨_, _, .start (.opened miss fun _ => free)⟩

/-- **A step acts on the fleet like one of `fleetMachine`.** -/
theorem Acts.fleet (h : Acts s action a s') :
    ∃ faction reply, FleetActs s.fleet action faction reply s'.fleet := by
  cases h with
  | idle => exact ⟨_, _, .idle⟩
  | started joins => exact joins.fleet
  | restarted waits gone dropped joins => exact joins.fleet
  | shared waits landed => exact ⟨_, _, .idle⟩
  | landed running lands => exact ⟨_, _, .resumed⟩
  | resumed flies => exact ⟨_, _, .resumed⟩
  | left w => exact ⟨_, _, .idle⟩
  | evicted slot =>
    refine ⟨.evict slot, _, by rintro _ _ _ ⟨⟩, ?_, by rintro _ _ ⟨⟩, Fleet.acts_act _ _⟩
    rintro _ ⟨⟩
    rfl

/-- The leader of a waiting call was started, and it is in flight on the slot if it is in flight. -/
def Waiter.Follows (waiter : Waiter) (fleet : Fleet) : Prop :=
  waiter.leader < fleet.next ∧
    ∀ call, fleet.calls waiter.leader = some call → call.slot = waiter.slot

/-- Calls have an outcome only when they are over, and waiting calls follow a call on their slot. -/
structure Attended (s : Coalesced) : Prop where
  exclusive : s.fleet.Exclusive
  flying : ∀ c, (s.fleet.calls c).isSome → s.landed c = none
  unused : ∀ c, s.fleet.next ≤ c → s.landed c = none
  follows : ∀ w waiter, s.waiters w = some waiter → Waiter.Follows waiter s.fleet

theorem attended_new (moka : MokaCalls) (config : Config) (backed : Bool) :
    Attended (new moka config backed) :=
  ⟨Fleet.exclusive_new config backed, fun _ _ => rfl, fun _ _ => rfl, by simp [new]⟩

theorem Attended.tick (h : Attended s) (waited : Nat) : Attended (s.tick waited) :=
  ⟨h.exclusive.tick waited, h.flying, h.unused, h.follows⟩

theorem Waiter.Follows.act {fleet fleet' : Fleet} {faction : FleetAction} {reply : FleetReply}
    {waiter : Waiter} (h : Waiter.Follows waiter fleet)
    (ha : Fleet.Acts fleet faction reply fleet') : Waiter.Follows waiter fleet' := by
  refine ⟨Nat.lt_of_lt_of_le h.1 ha.next_le, fun call hcall => ?_⟩
  rcases ha.running_of hcall with ⟨old, hold, hslot⟩ | ⟨heq, -⟩
  · rw [← hslot]
    exact h.2 old hold
  · have hlt := h.1
    omega

theorem Attended.act (h : Attended s) {faction : FleetAction} {reply : FleetReply}
    (hf : FleetActs s.fleet action faction reply s'.fleet)
    (hlanded : ∀ c, s'.landed c = s.landed c ∨ s'.fleet.calls c = none ∧ c < s.fleet.next)
    (hwaiters : ∀ w waiter, s'.waiters w = some waiter →
      s.waiters w = some waiter ∨ Waiter.Follows waiter s.fleet) : Attended s' := by
  have ha := hf.acts
  refine ⟨Fleet.exclusive_act h.exclusive hf.fetch ha, ?_, ?_, ?_⟩
  · intro c hflies
    rcases hlanded c with heq | ⟨hover, -⟩
    · rw [heq]
      obtain ⟨call, hcall⟩ := Option.isSome_iff_exists.mp hflies
      rcases ha.running_of hcall with ⟨old, hold, -⟩ | ⟨hnew, -⟩
      · exact h.flying c (by rw [hold]; rfl)
      · exact h.unused c (by omega)
    · rw [hover] at hflies
      cases hflies
  · intro c hle
    have hnext := ha.next_le
    rcases hlanded c with heq | ⟨-, hlt⟩
    · rw [heq]
      exact h.unused c (by omega)
    · omega
  · intro w waiter hw
    rcases hwaiters w waiter hw with hold | hnew
    · exact (h.follows w waiter hold).act ha
    · exact hnew.act ha

theorem Attended.joins (h : Attended s) {w i : Nat} {domain : Text}
    (hj : Joins s w i domain a s') : Attended s' := by
  obtain ⟨faction, reply, hf⟩ : ∃ faction reply,
      FleetActs s.fleet (.leave w) faction reply s'.fleet := hj.fleet
  refine h.act hf (fun c => .inl ?_) fun w' waiter hw => ?_
  · cases hj <;> rfl
  · cases hj with
    | hit live => exact .inl (of_update_none hw).2
    | leads miss free => exact .inl (of_update_none hw).2
    | @waits c busy =>
      rcases of_update_some hw with ⟨-, rfl⟩ | ⟨-, hw⟩
      · obtain ⟨call, hcall, hslot⟩ := h.exclusive.busy _ c busy
        refine .inr ⟨h.exclusive.led.lt_next hcall, fun call' hcall' => ?_⟩
        rw [hcall, Option.some.injEq] at hcall'
        rw [← hcall', hslot]
        rfl
      · exact .inl hw

/-- **A step leaves no call with an outcome in flight, and no waiting call without its leader.** -/
theorem attended_act (h : Attended s) (ha : Acts s action a s') : Attended s' := by
  obtain ⟨faction, reply, hf⟩ := ha.fleet
  cases ha with
  | idle => exact h
  | started joins =>
    exact Attended.joins (s := { s with next := s.next + 1 })
      ⟨h.exclusive, h.flying, h.unused, h.follows⟩ joins
  | restarted waits gone dropped joins => exact h.joins joins
  | shared waits landed => exact h.act hf (fun _ => .inl rfl) fun _ _ hw => .inl (of_update_none hw).2
  | @landed c step sole call outcome running lands =>
    refine h.act hf (fun c' => ?_) fun _ _ => .inl
    by_cases heq : c' = c
    · subst heq
      exact .inr ⟨Fleet.calls_of_landing lands, h.exclusive.led.lt_next running⟩
    · exact .inl (Function.update_of_ne heq _ _)
  | resumed flies => exact h.act hf (fun _ => .inl rfl) fun _ _ => .inl
  | left w => exact h.act hf (fun _ => .inl rfl) fun _ _ hw => .inl (of_update_none hw).2
  | evicted slot => exact h.act hf (fun _ => .inl rfl) fun _ _ => .inl

/-- What a waiting call comes to when it looks at the one it waits for: it is answered, or a call is
in flight on its slot, which it leads or waits for. -/
def Answered (waiter : Waiter) (w : Nat) (a : Option CallAnswer) (s' : Coalesced) : Prop :=
  (∃ source result, a = some ⟨waiter.slot, source, result⟩) ∨
    ∃ c call, s'.fleet.calls c = some call ∧ call.slot = waiter.slot ∧
      (s'.waiters w = none ∨ s'.waiters w = some { waiter with leader := c })

theorem Attended.answered_of_joins (h : Attended s) {w : Nat} {waiter : Waiter}
    (hj : Joins s w waiter.i waiter.domain a s') : Answered waiter w a s' := by
  cases hj with
  | hit live => exact .inl ⟨_, _, rfl⟩
  | @waits c busy =>
    obtain ⟨call, hcall, hslot⟩ := h.exclusive.busy _ c busy
    exact .inr ⟨c, call, hcall, hslot, .inr (Function.update_self _ _ _)⟩
  | leads miss free =>
    exact .inr ⟨s.fleet.next, _, Function.update_self _ _ _, rfl, .inl (Function.update_self _ _ _)⟩

theorem Attended.answered (h : Attended s) {w : Nat} {fresh sole : Bool} {waiter : Waiter}
    (hw : s.waiters w = some waiter) :
    Answered waiter w (s.act (.wake w fresh sole)).1 (s.act (.wake w fresh sole)).2 := by
  rw [Coalesced.act]
  rcases hlanded : s.landed waiter.leader with _ | outcome
  · rcases hcall : s.fleet.calls waiter.leader with _ | call
    · rw [wake_of_dropped fresh sole hw hlanded hcall]
      exact h.answered_of_joins (joins_join s w waiter.i waiter.domain)
    · rw [wake_of_flying fresh sole hw hlanded hcall]
      exact .inr ⟨waiter.leader, call, hcall, (h.follows w waiter hw).2 call hcall, .inr hw⟩
  · rw [wake_of_landed fresh sole hw hlanded]
    exact .inl ⟨_, _, rfl⟩

end Coalesced

/-! ## Every run -/

theorem Coalesced.Attended.next {s : Coalesced} (h : s.Attended) (e : CoalescedEvent) :
    (coalescedMachine.next s e).2.Attended :=
  attended_act (h.tick e.waited) (acts_act _ e.action)

/-! ## Without the waiting calls -/

namespace Coalesced

/-- The step of `fleetMachine` that a step takes. A waiting call acts only if it starts again. -/
def erased (s : Coalesced) (e : CoalescedEvent) : FleetEvent :=
  ⟨e.waited, match e.action with
    | .start i domain => .start .getOrFetch i domain
    | .resume c step _ => .resume c step
    | .wake w _ _ => match s.waiters w with
      | some waiter =>
        if (s.landed waiter.leader).isNone ∧ (s.fleet.calls waiter.leader).isNone then
          .start .getOrFetch waiter.i waiter.domain
        else .resume s.fleet.next .cancel
      | none => .resume s.fleet.next .cancel
    | .leave _ => .resume s.fleet.next .cancel
    | .evict slot => .evict slot⟩

variable {s : Coalesced}

theorem fleet_join (s : Coalesced) (w i : Nat) (domain : Text) :
    (s.join w i domain).2.fleet = (s.fleet.act (.start .getOrFetch i domain)).2 := by
  have hj := joins_join s w i domain
  generalize s.join w i domain = out at hj
  obtain ⟨a, s'⟩ := out
  simp only [Fleet.act, Fleet.start]
  cases hj with
  | hit live => simp only [live]
  | waits busy => cases (s.fleet.caches i).get s.fleet.now (CacheService.normalizeDomain domain) <;>
      simp [busy]
  | leads miss free =>
    simp only [miss, free]
    rfl

theorem fleet_resume (s : Coalesced) (c : Nat) (step : CallStep) (sole : Bool) :
    (s.resume c step sole).2.fleet = (s.fleet.act (.resume c step)).2 := by
  rw [resume]
  split <;> rfl

theorem act_unused {fleet : Fleet} (h : fleet.calls fleet.next = none) :
    (fleet.act (.resume fleet.next .cancel)).2 = fleet := by
  rw [Fleet.act, h]

theorem Attended.next_erased (h : Attended s) (e : CoalescedEvent) :
    (coalescedMachine.next s e).2.fleet = (fleetMachine.next s.fleet (s.erased e)).2 := by
  have hidle : ∀ waited, ((s.fleet.tick waited).act (.resume s.fleet.next .cancel)).2 =
      s.fleet.tick waited := fun waited =>
    act_unused (h.tick waited |>.exclusive.led.unused _ (Nat.le_refl _)).1
  obtain ⟨waited, action⟩ := e
  simp only [coalescedMachine_next, fleetMachine_next, erased]
  cases action with
  | start i domain => exact fleet_join _ _ _ _
  | resume c step sole => exact fleet_resume _ _ _ _
  | leave w => exact (hidle waited).symm
  | evict slot => rfl
  | wake w fresh sole =>
    rw [Coalesced.act]
    rcases hw : s.waiters w with _ | waiter
    · rw [wake_of_none (s := s.tick waited) fresh sole hw]
      simpa [hw] using (hidle waited).symm
    rcases hlanded : s.landed waiter.leader with _ | outcome
    · rcases hcall : s.fleet.calls waiter.leader with _ | call
      · rw [wake_of_dropped (s := s.tick waited) fresh sole hw hlanded hcall]
        simpa [hw, hlanded, hcall] using fleet_join (s.tick waited) w waiter.i waiter.domain
      · rw [wake_of_flying (s := s.tick waited) fresh sole hw hlanded hcall]
        simpa [hw, hlanded, hcall] using (hidle waited).symm
    · rw [wake_of_landed (s := s.tick waited) fresh sole hw hlanded]
      simpa [hw, hlanded] using (hidle waited).symm

end Coalesced

/-- **Without the waiting calls, a run is one of `fleetMachine`**, of as many steps. -/
theorem final_erased {s : Coalesced} (h : s.Attended) (es : List CoalescedEvent) :
    ∃ es' : List FleetEvent, es'.length = es.length ∧
      (coalescedMachine.final s es).fleet = fleetMachine.final s.fleet es' := by
  induction es generalizing s with
  | nil => exact ⟨[], rfl, rfl⟩
  | cons e es ih =>
    obtain ⟨es', hlen, hfinal⟩ := ih (h.next e)
    refine ⟨s.erased e :: es', congrArg (· + 1) hlen, ?_⟩
    rw [h.next_erased e] at hfinal
    exact hfinal

/-! ## Shared outcomes -/

/-- A step of a run. -/
abbrev CoalescedStep : Type := Machine.Step Coalesced CoalescedEvent (Option CallAnswer)

/-- The step ends call `c` on the slot with an outcome, of which its caller gets the first copy. -/
def Lands (c : Nat) (slot : Slot) (outcome : Except WhoisError WhoisResponse) (x : CoalescedStep) :
    Prop :=
  ∃ step sole, x.event.action = .resume c step sole ∧
    x.out = some ⟨slot, step.source, outcome.mapError (unwrapError sole)⟩

/-- The waiting call of number `w` has waited since one of the steps, when its leader was in flight;
if the leader has an outcome, it has ended with it since. -/
def WaitsSince (past : List CoalescedStep) (s : Coalesced) (w : Nat) (waiter : Waiter) : Prop :=
  ∃ before join mid, past = before ++ join :: mid ∧ join.post.waiters w = some waiter ∧
    (∃ call, join.post.fleet.calls waiter.leader = some call ∧ call.slot = waiter.slot) ∧
    ∀ outcome, s.landed waiter.leader = some outcome →
      ∃ y ∈ mid, Lands waiter.leader waiter.slot outcome y

namespace Coalesced

variable {s s' : Coalesced} {action : CoalescedAction} {a : Option CallAnswer}

theorem Acts.landed_of (h : Acts s action a s') {c : Nat}
    {outcome : Except WhoisError WhoisResponse} (hc : s'.landed c = some outcome) :
    s.landed c = some outcome ∨ ∃ step sole, action = .resume c step sole ∧
      s.fleet.landing c step = some outcome := by
  have hjoins : ∀ {s₁ : Coalesced} {w i : Nat} {domain : Text},
      Joins s₁ w i domain a s' → s₁.landed = s.landed → s.landed c = some outcome := by
    intro s₁ w i domain hj heq
    rw [← heq]
    cases hj <;> exact hc
  cases h with
  | started joins => exact .inl (hjoins joins rfl)
  | restarted waits gone dropped joins => exact .inl (hjoins joins rfl)
  | @landed c' step sole call outcome' running lands =>
    rcases of_update_some hc with ⟨rfl, rfl⟩ | ⟨-, hc⟩
    · exact .inr ⟨step, sole, rfl, lands⟩
    · exact .inl hc
  | _ => exact .inl hc

/-- A waiting call waited before, or it follows a call in flight from now on. -/
theorem Acts.waits_of (h : Attended s) (ha : Acts s action a s') {w : Nat} {waiter : Waiter}
    (hw : s'.waiters w = some waiter) : s.waiters w = some waiter ∨
      ∃ call, s'.fleet.calls waiter.leader = some call ∧ call.slot = waiter.slot := by
  have hjoins : ∀ {s₁ : Coalesced} {w' i : Nat} {domain : Text},
      Joins s₁ w' i domain a s' → s₁.fleet = s.fleet → s₁.waiters = s.waiters →
      s.waiters w = some waiter ∨
        ∃ call, s'.fleet.calls waiter.leader = some call ∧ call.slot = waiter.slot := by
    intro s₁ w' i domain hj hfleet heq
    rw [← heq]
    cases hj with
    | hit live => exact .inl (of_update_none hw).2
    | leads miss free => exact .inl (of_update_none hw).2
    | @waits c busy =>
      rcases of_update_some hw with ⟨-, rfl⟩ | ⟨-, hw⟩
      · rw [hfleet] at busy ⊢
        exact .inr (h.exclusive.busy _ c busy)
      · exact .inl hw
  cases ha with
  | started joins => exact hjoins joins rfl rfl
  | restarted waits gone dropped joins => exact hjoins joins rfl rfl
  | shared waits landed => exact .inl (of_update_none hw).2
  | left w' => exact .inl (of_update_none hw).2
  | _ => exact .inl hw

theorem Attended.out_of_landing (h : Attended s) {w : Nat} {waiter : Waiter}
    (hw : s.waiters w = some waiter) {step : CallStep} {sole : Bool}
    {outcome : Except WhoisError WhoisResponse} (haction : action = .resume waiter.leader step sole)
    (hlands : s.fleet.landing waiter.leader step = some outcome) :
    (s.act action).1 =
      some ⟨waiter.slot, step.source, outcome.mapError (unwrapError sole)⟩ := by
  subst haction
  rcases hcall : s.fleet.calls waiter.leader with _ | call
  · rw [Fleet.landing, hcall] at hlands
    cases hlands
  · simp only [Coalesced.act, Coalesced.resume, hcall, hlands, (h.follows w waiter hw).2 call hcall]

end Coalesced

theorem Coalesced.Acts.shared_of {s s' : Coalesced} {action : CoalescedAction} {a : Option CallAnswer}
    (h : Acts s action a s') {slot : Slot} {leader : Nat}
    {result : Except WhoisError WhoisResponse} (ha : a = some ⟨slot, .shared leader, result⟩) :
    ∃ w waiter outcome fresh sole, action = .wake w fresh sole ∧ s.waiters w = some waiter ∧
      waiter.slot = slot ∧ waiter.leader = leader ∧ s.landed leader = some outcome ∧
      result = share fresh sole outcome := by
  have hjoins : ∀ {s₁ : Coalesced} {w i : Nat} {domain : Text},
      ¬ Joins s₁ w i domain (some ⟨slot, .shared leader, result⟩) s' := by
    intro s₁ w i domain hj
    cases hj
  cases h with
  | started joins => exact absurd (ha ▸ joins) hjoins
  | restarted waits gone dropped joins => exact absurd (ha ▸ joins) hjoins
  | @shared w fresh sole waiter outcome waits landed =>
    cases ha
    exact ⟨w, waiter, outcome, fresh, sole, rfl, waits, rfl, rfl, landed, rfl⟩
  | @landed c step sole call outcome running lands =>
    rw [Option.some.injEq, CallAnswer.mk.injEq] at ha
    cases step <;> cases ha.2.1
  | _ => cases ha

/-- What a run remembers of its waiting calls. -/
structure WaitHistory (past : List CoalescedStep) (s : Coalesced) : Prop where
  attended : s.Attended
  since : ∀ w waiter, s.waiters w = some waiter → WaitsSince past s w waiter

theorem waits_step (past : List CoalescedStep) (s : Coalesced) (e : CoalescedEvent)
    (h : WaitHistory past s) :
    WaitHistory (past ++ [coalescedMachine.step s e]) (coalescedMachine.next s e).2 := by
  have ha := Coalesced.acts_act (s.tick e.waited) e.action
  refine ⟨h.attended.next e, fun w waiter hw => ?_⟩
  rcases ha.waits_of (h.attended.tick e.waited) hw with hold | hnew
  · obtain ⟨before, join, mid, rfl, hjoin, hflies, hends⟩ := h.since w waiter hold
    refine ⟨before, join, mid ++ [coalescedMachine.step s e], by simp, hjoin, hflies, ?_⟩
    intro outcome hlanded
    rcases ha.landed_of hlanded with hbefore | ⟨step, sole, haction, hlands⟩
    · obtain ⟨y, hy, hend⟩ := hends outcome hbefore
      exact ⟨y, List.mem_append_left _ hy, hend⟩
    · refine ⟨_, List.mem_append_right _ List.mem_cons_self, step, sole, haction, ?_⟩
      exact (h.attended.tick e.waited).out_of_landing hold haction hlands
  · refine ⟨past, coalescedMachine.step s e, [], rfl, hw, hnew, fun outcome hlanded => ?_⟩
    obtain ⟨call, hcall, -⟩ := hnew
    have hflies : ((coalescedMachine.next s e).2.fleet.calls waiter.leader).isSome := by
      rw [coalescedMachine_next, hcall]
      rfl
    have hnone := (h.attended.next e).flying waiter.leader hflies
    rw [hlanded] at hnone
    cases hnone

theorem waitHistory_run (moka : MokaCalls) (config : Config) (backed : Bool)
    (es : List CoalescedEvent) :
    WaitHistory (coalescedMachine.run (.new moka config backed) es)
      (coalescedMachine.final (.new moka config backed) es) :=
  coalescedMachine.history_of_step waits_step
    ⟨Coalesced.attended_new moka config backed, by simp [Coalesced.new]⟩ es

/-- A second call for a name, in another spelling, waits for a fetch that is throttled. -/
def throttledFlight : List CoalescedEvent :=
  [⟨0, .start 0 "a.com"⟩, ⟨1, .start 0 "a.com."⟩, ⟨1, .resume 0 (.ask (.stored 0)) true⟩,
    ⟨5, .resume 0 (.returned (.ok (responseWithStatus .rateLimited))) true⟩,
    ⟨0, .resume 0 .store true⟩, ⟨0, .resume 0 .insert true⟩]

end RustWhois
