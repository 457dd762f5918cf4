import RustWhois.Cache.Fleet

/-!
# Promotions that overtake a fetch

A `get` inserts what it read from the backend outside the coalescing of `get_or_fetch`, so a fetch
can complete in between.

* `Overtakes`: a step inserts over a live entry that was fetched later, or that outlives it;
* `Timely`: no entry outlives the TTL of its own status from when it entered;
* **`ordered_of_fleet`**: without such a step the in-process tier never goes back in time and every
  hit is within its TTL, and with one it does or a hit is not;
* `Unpreceded`, **`ordered_of_unpreceded`**: so it is where no call inserts behind another insertion
  on its slot since its miss.
-/

namespace RustWhois

open Rust

namespace Fleet

variable {s s' : Fleet} {action : FleetAction} {reply : FleetReply}

/-- Where an action inserts a response, and which. -/
def insertion (s : Fleet) : FleetAction → Option (Slot × WhoisResponse × Origin)
  | .resume c .promote => match s.calls c with
    | some ⟨_, slot, .promoting hit origin _⟩ => some (slot, hit, origin)
    | _ => none
  | .resume c .insert => match s.calls c with
    | some ⟨_, slot, .inserting response fetchedAt⟩ => some (slot, response, ⟨c, fetchedAt⟩)
    | _ => none
  | _ => none

/-- The live in-process entry of a slot. -/
def live (s : Fleet) (slot : Slot) : Option (ExpiryEntry WhoisResponse) :=
  (s.caches slot.1).entry s.now slot.2

/-- The action inserts a response over a live entry that was fetched later, or that expires later
than the TTL of the response allows. -/
def Overtakes (s : Fleet) (action : FleetAction) : Prop :=
  match s.insertion action with
  | some (slot, response, origin) => match s.live slot with
    | some e => origin.fetchedAt < (s.marks slot).origin.fetchedAt ∨
      e.expiresAt.any (s.now + s.ttl response < ·) = true
    | none => False
  | none => False

instance (s : Fleet) (action : FleetAction) : Decidable (Overtakes s action) := by
  unfold Overtakes
  split
  · split <;> infer_instance
  · infer_instance

theorem overtakes_iff {slot : Slot} {response : WhoisResponse} {origin : Origin}
    {e : ExpiryEntry WhoisResponse} (hi : s.insertion action = some (slot, response, origin))
    (he : s.live slot = some e) : Overtakes s action ↔
      origin.fetchedAt < (s.marks slot).origin.fetchedAt ∨
        e.expiresAt.any (s.now + s.ttl response < ·) = true := by
  rw [Overtakes, hi]
  dsimp only
  rw [he]

/-- No live entry is replaced by a response fetched earlier than its own. -/
def Ordered (s s' : Fleet) : Prop :=
  ∀ slot, s.live slot ≠ none →
    (s.marks slot).origin.fetchedAt ≤ (s'.marks slot).origin.fetchedAt

/-- Every entry expires by the end of the TTL of its own status. -/
def Timely (s : Fleet) : Prop :=
  ∀ (slot : Slot) e, (s.caches slot.1).entries slot.2 = some e →
    ∃ t, e.expiresAt = some t ∧ t ≤ (s.marks slot).enteredAt + s.ttl e.value

theorem entries_enter_of_live {slot : Slot} {response : WhoisResponse} {origin : Origin}
    {e : ExpiryEntry WhoisResponse} (h : s.live slot = some e) :
    ((s.enter slot response origin).caches slot.1).entries slot.2 =
      some ⟨response, e.expiresAt⟩ := by
  have hlive : e.live s.now = true := (Option.filter_eq_some_iff.mp h).2
  have hentry : (s.caches slot.1).entry s.now slot.2 = some e := h
  rw [entries_enter, ExpiryCache.inserted, hentry]
  exact congrArg (fun t => some (ExpiryEntry.mk response t)) (ExpiryEntry.add_remaining hlive)

theorem timely_new (config : Config) (backed : Bool) : Timely (new config backed) := by
  intro slot e he
  cases he

theorem timely_conclude (h : Timely s) {c : Nat} {call : FleetCall} {response : WhoisResponse}
    {origin : Origin} {completed : Nat → Option Nat}
    (hno : ∀ e, s.live call.slot = some e →
      ¬ (origin.fetchedAt < (s.marks call.slot).origin.fetchedAt ∨
        e.expiresAt.any (s.now + s.ttl response < ·) = true)) :
    Timely (s.conclude c call response origin completed) ∧
      Ordered s (s.conclude c call response origin completed) := by
  have hmark : (s.conclude c call response origin completed).marks call.slot = ⟨origin, s.now⟩ :=
    Function.update_self _ _ _
  have hmark' : ∀ slot ≠ call.slot,
      (s.conclude c call response origin completed).marks slot = s.marks slot :=
    fun slot hslot => Function.update_of_ne hslot _ _
  constructor
  · intro slot e he
    change ((s.enter call.slot response origin).caches slot.1).entries slot.2 = some e at he
    by_cases hslot : slot = call.slot
    · subst hslot
      rw [hmark]
      rcases hlive : s.live call.slot with _ | old
      · have hmiss : (s.caches call.slot.1).get s.now call.slot.2 = none := by
          rw [ExpiryCache.get, show (s.caches call.slot.1).entry s.now call.slot.2 = none from hlive]
          rfl
        rw [entries_enter_of_miss hmiss] at he
        cases he
        exact ⟨_, rfl, Nat.le_refl _⟩
      · rw [entries_enter_of_live hlive] at he
        cases he
        have hold := (Option.filter_eq_some_iff.mp hlive).1
        obtain ⟨t, ht, -⟩ := h call.slot old hold
        refine ⟨t, ht, ?_⟩
        have hlong := (not_or.mp (hno old hlive)).2
        rw [ht] at hlong
        have hle : t ≤ s.now + s.ttl response := by simpa using hlong
        exact hle
    · rw [entries_enter_of_ne hslot] at he
      rw [hmark' slot hslot]
      exact h slot e he
  · intro slot hlive
    by_cases hslot : slot = call.slot
    · subst hslot
      rw [hmark]
      obtain ⟨e, he⟩ := Option.ne_none_iff_exists'.mp hlive
      exact Nat.le_of_not_lt (not_or.mp (hno e he)).1
    · rw [hmark' slot hslot]

theorem Timely.congr (h : Timely s) (hcaches : s'.caches = s.caches) (hmarks : s'.marks = s.marks)
    (httl : ∀ response, s'.ttl response = s.ttl response) : Timely s' := by
  intro slot e he
  rw [hcaches] at he
  rw [hmarks, httl]
  exact h slot e he

theorem Timely.evicted (h : Timely s) (slot : Slot) : Timely
    { s with caches := Function.update s.caches slot.1 ((s.caches slot.1).evict slot.2) } := by
  intro slot' e he
  refine h slot' e ?_
  dsimp only at he
  by_cases hi : slot'.1 = slot.1
  · rw [hi, Function.update_self] at he
    rw [hi]
    exact (of_update_none he).2
  · rwa [Function.update_of_ne hi] at he

/-- **A step that overtakes nothing keeps the order and the lifetimes.** -/
theorem timely_act (h : Timely s) (hno : ¬ Overtakes s action) (ha : Acts s action reply s') :
    Timely s' ∧ Ordered s s' := by
  have httl := ha.ttl_eq
  have hsame : s'.marks = s.marks → Ordered s s' := by
    intro hmarks slot _
    rw [hmarks]
  cases ha with
  | evicted slot => exact ⟨h.evicted slot, hsame rfl⟩
  | @promoted c call hit origin readAt running phase =>
    obtain ⟨kind, slot, _⟩ := call
    cases phase
    have hi : s.insertion (.resume c .promote) = some (slot, hit, origin) := by
      rw [insertion, running]
    exact timely_conclude h fun e he => (overtakes_iff hi he).not.mp hno
  | @inserted c call response fetchedAt running phase =>
    obtain ⟨kind, slot, _⟩ := call
    cases phase
    have hi : s.insertion (.resume c .insert) = some (slot, response, ⟨c, fetchedAt⟩) := by
      rw [insertion, running]
    exact timely_conclude h fun e he => (overtakes_iff hi he).not.mp hno
  | _ => exact ⟨h.congr rfl rfl httl, hsame rfl⟩

theorem hit_lt (h : Timely s) {response : WhoisResponse} {mark : Mark}
    (ha : Acts s action (.hit response mark) s') :
    s.now < mark.enteredAt + s.ttl response := by
  cases ha with
  | @hit kind i domain cached live =>
    obtain ⟨e, he, rfl⟩ := Option.map_eq_some_iff.mp live
    obtain ⟨hentry, hlive⟩ := Option.filter_eq_some_iff.mp he
    obtain ⟨t, ht, hle⟩ := h (i, CacheService.normalizeDomain domain) e hentry
    have hlt : s.now < t := by simpa [ExpiryEntry.live, ht] using hlive
    exact Nat.lt_of_lt_of_le hlt hle

/-! ## A step that overtakes -/

theorem normalizeDomain_dot (key : Text) :
    CacheService.normalizeDomain (key ++ ['.']) = key := by
  have hsuffix : List.isSuffixOf ['.'] (key ++ ['.']) = true := by simp
  simp [CacheService.normalizeDomain, Text.stripSuffix, hsuffix]

theorem start_of_live {kind : CallKind} {slot : Slot} {cached : WhoisResponse}
    (h : (s.caches slot.1).get s.now slot.2 = some cached) :
    s.start kind slot = (.hit { cached with cached := true } (s.marks slot), s) := by
  rw [start, h]

theorem act_of_insertion {slot : Slot} {response : WhoisResponse} {origin : Origin}
    (hi : s.insertion action = some (slot, response, origin)) : ∃ c call completed,
      call.slot = slot ∧ (s.act action).2 = s.conclude c call response origin completed := by
  unfold insertion at hi
  split at hi
  · next c =>
    split at hi
    · next kind slot' hit origin' readAt hrun =>
      cases hi
      refine ⟨c, ⟨kind, slot, .promoting response origin readAt⟩, s.completed, rfl, ?_⟩
      simp only [act, hrun, resume]
    · cases hi
  · next c =>
    split at hi
    · next kind slot' response' fetchedAt hrun =>
      cases hi
      refine ⟨c, ⟨kind, slot, .inserting response fetchedAt⟩,
        Function.update s.completed c (some s.now), rfl, ?_⟩
      simp only [act, hrun, resume]
    · cases hi
  · cases hi

/-- **A step that overtakes goes back in time, or can be followed by a hit that is too late.** -/
theorem of_overtakes (h : Overtakes s action) : ¬ Ordered s (s.act action).2 ∨
    ∃ e response mark, (fleetMachine.step (s.act action).2 e).out = .hit response mark ∧
      mark.enteredAt + s.ttl response ≤ (fleetMachine.step (s.act action).2 e).post.now := by
  rcases hi : s.insertion action with _ | ⟨slot, response, origin⟩
  · rw [Overtakes, hi] at h
    exact h.elim
  rcases he : s.live slot with _ | e
  · rw [Overtakes, hi] at h
    dsimp only at h
    rw [he] at h
    exact h.elim
  obtain ⟨c, call, completed, rfl, hact⟩ := act_of_insertion hi
  rw [hact]
  have hmark : (s.conclude c call response origin completed).marks call.slot = ⟨origin, s.now⟩ :=
    Function.update_self _ _ _
  rcases (overtakes_iff hi he).mp h with hlt | hlong
  · left
    intro hordered
    have hle := hordered call.slot (by rw [he]; simp)
    rw [hmark] at hle
    exact absurd hlt (Nat.not_lt_of_le hle)
  · right
    obtain ⟨t, ht, hafter⟩ : ∃ t, e.expiresAt = some t ∧ s.now + s.ttl response < t := by
      rcases hexp : e.expiresAt with _ | t
      · rw [hexp] at hlong
        cases hlong
      · rw [hexp] at hlong
        exact ⟨t, rfl, by simpa using hlong⟩
    have hentry : ((s.conclude c call response origin completed).caches call.slot.1).entries
        call.slot.2 = some ⟨response, some t⟩ := by
      rw [← ht]
      change ((s.enter call.slot response origin).caches call.slot.1).entries call.slot.2 = _
      exact entries_enter_of_live he
    -- the response is asked for again when its TTL is over
    refine ⟨⟨s.ttl response, .start .get call.slot.1 (call.slot.2 ++ ['.'])⟩,
      { response with cached := true }, ⟨origin, s.now⟩, ?_, ?_⟩
    · have hget : ((s.conclude c call response origin completed).caches call.slot.1).get
          (s.now + s.ttl response) call.slot.2 = some response := by
        rw [ExpiryCache.get, ExpiryCache.entry, hentry, Option.filter_some,
          if_pos (by simpa [ExpiryEntry.live] using hafter)]
        rfl
      rw [Machine.step_out, fleetMachine_next]
      simp only [act, normalizeDomain_dot]
      change (((s.conclude c call response origin completed).tick (s.ttl response)).start .get
        call.slot).1 = _
      rw [start_of_live hget]
      exact congrArg (FleetReply.hit { response with cached := true }) hmark
    · have ha := acts_act ((s.conclude c call response origin completed).tick (s.ttl response))
        (.start .get call.slot.1 (call.slot.2 ++ ['.']))
      exact ha.now_eq.ge

end Fleet

/-! ## Every run -/

/-- The step does not go back in time, and a hit is within the TTL of its own status. -/
def StepOrdered (first : Fleet) (x : Machine.Step Fleet FleetEvent FleetReply) : Prop :=
  (x.pre.tick x.event.waited).Ordered x.post ∧ ∀ response mark, x.out = .hit response mark →
    x.post.now < mark.enteredAt + first.ttl response

theorem ordered_step (first s : Fleet) (e : FleetEvent)
    (h : s.Timely ∧ ∀ response, s.ttl response = first.ttl response)
    (hno : ¬ (s.tick e.waited).Overtakes e.action) :
    ((fleetMachine.next s e).2.Timely ∧
        ∀ response, (fleetMachine.next s e).2.ttl response = first.ttl response) ∧
      StepOrdered first (fleetMachine.step s e) := by
  have ha := Fleet.acts_act (s.tick e.waited) e.action
  have ht : (s.tick e.waited).Timely := h.1.congr rfl rfl fun _ => rfl
  obtain ⟨htimely, hordered⟩ := Fleet.timely_act ht hno ha
  refine ⟨⟨htimely, fun r => (ha.ttl_eq r).trans (h.2 r)⟩, hordered, fun r mark hr => ?_⟩
  rw [Machine.step_out, fleetMachine_next] at hr
  rw [hr] at ha
  have hlt := Fleet.hit_lt ht ha
  rw [Machine.step_post, fleetMachine_next, ha.now_eq, ← h.2]
  exact hlt

/-- **The in-process tier never goes back in time, and every hit is within the TTL of its own status,
in a run in which no insertion overtakes a live entry**; one that does goes back in time itself, or
lets a hit come too late. -/
theorem ordered_of_fleet (config : Config) (backed : Bool) (es : List FleetEvent) :
    ((∀ x ∈ fleetMachine.run (.new config backed) es,
        ¬ (x.pre.tick x.event.waited).Overtakes x.event.action) →
      ∀ x ∈ fleetMachine.run (.new config backed) es, StepOrdered (.new config backed) x) ∧
    ∀ (s : Fleet) (action : FleetAction), s.Overtakes action → ¬ s.Ordered (s.act action).2 ∨
      ∃ e response mark, (fleetMachine.step (s.act action).2 e).out = .hit response mark ∧
        mark.enteredAt + s.ttl response ≤ (fleetMachine.step (s.act action).2 e).post.now := by
  constructor
  · intro hno
    exact Machine.run_induction (C := fun s e => ¬ (s.tick e.waited).Overtakes e.action)
      (ordered_step (.new config backed)) ⟨Fleet.timely_new config backed, fun _ => rfl⟩ hno
  · exact fun s action h => Fleet.of_overtakes h

/-- A `get` reads an old "not found" from the backend, a record is fetched meanwhile, and the `get`
goes on. -/
def overtaken : List FleetEvent :=
  [⟨0, .start .getOrFetch 1 "a.com"⟩, ⟨0, .resume 0 (.ask (.stored 0))⟩,
    ⟨0, .resume 0 (.returned (.ok (responseWithStatus .notFound)))⟩, ⟨0, .resume 0 .store⟩,
    ⟨0, .resume 0 .insert⟩, ⟨5, .start .get 0 "a.com"⟩, ⟨0, .resume 1 (.ask (.stored 0))⟩,
    ⟨1, .start .getOrFetch 0 "a.com"⟩, ⟨0, .resume 2 (.ask (.failed "down"))⟩,
    ⟨1, .resume 2 (.returned (.ok (responseWithStatus .found)))⟩, ⟨0, .resume 2 .store⟩,
    ⟨0, .resume 2 .insert⟩]

/-- The record is replaced by the older answer, which is then served for longer than its TTL. -/
theorem ordered_overtaken :
    let s := fleetMachine.final (.new createTestConfig true) overtaken
    let s' := (s.act (.resume 1 .promote)).2
    ¬ s.Ordered s' ∧ ∃ response mark,
      (fleetMachine.step s' ⟨fromSecs 3000, .start .get 0 "a.com"⟩).out = .hit response mark ∧
        response.lookupStatus = .notFound ∧
        mark.enteredAt + s.ttl response < (s'.tick (fromSecs 3000)).now := by
  intro s s'
  refine ⟨fun h => ?_, { responseWithStatus .notFound with cached := true }, ⟨⟨0, 0⟩, 7⟩, ?_⟩
  · have hle := h (0, "a.com") (by decide +kernel)
    exact absurd hle (by decide +kernel)
  · exact ⟨by decide +kernel, by decide +kernel, by decide +kernel⟩

/-- Before the `get` goes on, nothing is overtaken. -/
theorem ordered_of_fleet_overtaken :
    ∀ x ∈ fleetMachine.run (.new createTestConfig true) overtaken,
      StepOrdered (.new createTestConfig true) x :=
  (ordered_of_fleet createTestConfig true overtaken).1 (by decide +kernel)

/-! ## Insertions since a miss -/

abbrev FleetStep : Type := Machine.Step Fleet FleetEvent FleetReply

/-- Call `c` has missed in process and is in flight. -/
def Opens (c : Nat) (x : FleetStep) : Prop := x.pre.next = c ∧ c < x.post.next

/-- The slot that the step inserts a response into. -/
def insertsAt (x : FleetStep) : Option Slot :=
  ((x.pre.tick x.event.waited).insertion x.event.action).map Prod.fst

/-- No other response was inserted into the slot since call `c` missed there. -/
def MissedSince (c : Nat) (slot : Slot) (past : List FleetStep) : Prop :=
  Since (Opens c) (fun z => insertsAt z ≠ some slot) past

/-- What the step inserts comes behind no other insertion on the slot since its call missed there. -/
def Unpreceded (past : List FleetStep) (x : FleetStep) : Prop :=
  ∀ c step slot, x.event.action = .resume c step → insertsAt x = some slot →
    MissedSince c slot past

namespace Fleet

variable {s s' : Fleet} {action : FleetAction} {reply : FleetReply}

theorem live_eq_none_iff {slot : Slot} :
    s.live slot = none ↔ (s.caches slot.1).get s.now slot.2 = none := by
  rw [live, ExpiryCache.get, Option.map_eq_none_iff]

theorem live_congr {slot : Slot} (hnow : s'.now = s.now)
    (hentries : (s'.caches slot.1).entries slot.2 = (s.caches slot.1).entries slot.2) :
    s'.live slot = s.live slot := by
  rw [live, live, ExpiryCache.entry, ExpiryCache.entry, hnow, hentries]

/-- Where there is no live entry, there is none before an insertion. -/
theorem Acts.live_of (ha : Acts s action reply s') {slot : Slot} (hmiss : s.live slot = none)
    (hno : (s.insertion action).map Prod.fst ≠ some slot) : s'.live slot = none := by
  have hconclude : ∀ {c : Nat} {call : FleetCall} {response : WhoisResponse} {origin : Origin}
      {completed : Nat → Option Nat},
      s.insertion action = some (call.slot, response, origin) →
      (s.conclude c call response origin completed).live slot = none := by
    intro c call response origin completed hi
    rw [hi] at hno
    have hne : slot ≠ call.slot := fun heq => hno (by rw [heq]; rfl)
    have hentries : ((s.enter call.slot response origin).caches slot.1).entries slot.2 =
        (s.caches slot.1).entries slot.2 := entries_enter_of_ne hne
    have hsame : (s.conclude c call response origin completed).live slot = s.live slot :=
      live_congr rfl hentries
    exact hsame.trans hmiss
  cases ha with
  | evicted slot' =>
    rw [live_eq_none_iff] at hmiss ⊢
    dsimp only
    by_cases hi : slot.1 = slot'.1
    · rw [hi, Function.update_self, ExpiryCache.get_evict, ← hi, hmiss, ite_self]
    · rwa [Function.update_of_ne hi]
  | @promoted c call hit origin readAt running phase =>
    obtain ⟨kind, slot', _⟩ := call
    cases phase
    exact hconclude (by rw [insertion, running])
  | @inserted c call response fetchedAt running phase =>
    obtain ⟨kind, slot', _⟩ := call
    cases phase
    exact hconclude (by rw [insertion, running])
  | _ => exact (live_congr rfl rfl).trans hmiss

theorem running_of_insertion {slot : Slot} {response : WhoisResponse} {origin : Origin}
    (hi : s.insertion action = some (slot, response, origin)) :
    ∃ c step call, action = .resume c step ∧ s.calls c = some call ∧ call.slot = slot := by
  unfold insertion at hi
  split at hi
  · next c =>
    split at hi
    · next hrun =>
      cases hi
      exact ⟨c, .promote, _, rfl, hrun, rfl⟩
    · cases hi
  · next c =>
    split at hi
    · next hrun =>
      cases hi
      exact ⟨c, .insert, _, rfl, hrun, rfl⟩
    · cases hi
  · cases hi

/-- A call in flight has missed at one of the steps, and there is still no live entry on its slot if
none was inserted since. -/
structure Missed (past : List FleetStep) (s : Fleet) : Prop where
  numbered : ∀ y ∈ past, ∀ c, Opens c y → c < s.next
  opened : ∀ c call, s.calls c = some call → ∃ y ∈ past, Opens c y
  miss : ∀ c call, s.calls c = some call → MissedSince c call.slot past → s.live call.slot = none

theorem missed_new (config : Config) (backed : Bool) : Missed [] (new config backed) :=
  ⟨by rintro _ ⟨⟩, by rintro _ _ ⟨⟩, by rintro _ _ ⟨⟩⟩

theorem Missed.tick {past : List FleetStep} (h : Missed past s) (waited : Nat) :
    Missed past (s.tick waited) := by
  refine ⟨h.numbered, h.opened, fun c call hc hsince => ?_⟩
  rw [live_eq_none_iff]
  exact ExpiryCache.get_eq_none_of_le (Nat.le_add_right _ _)
    (live_eq_none_iff.mp (h.miss c call hc hsince))

theorem missed_step (past : List FleetStep) (s : Fleet) (e : FleetEvent) (h : Missed past s) :
    Missed (past ++ [fleetMachine.step s e]) (fleetMachine.next s e).2 := by
  have ha := acts_act (s.tick e.waited) e.action
  have ht := h.tick e.waited
  refine ⟨fun y hy c hc => ?_, fun c call hc => ?_, fun c call hc hsince => ?_⟩
  · rcases List.mem_append.mp hy with hy | hy
    · exact (ht.numbered y hy c hc).trans_le ha.next_le
    · rw [List.mem_singleton.mp hy] at hc
      exact hc.2
  · rcases ha.running_of hc with ⟨old, hold, -⟩ | ⟨hnew, -⟩
    · obtain ⟨y, hy, hopens⟩ := ht.opened c old hold
      exact ⟨y, List.mem_append_left _ hy, hopens⟩
    · exact ⟨_, List.mem_append_right _ List.mem_cons_self, hnew.1.symm, hnew.1 ▸ hnew.2⟩
  · rcases ha.running_of hc with ⟨old, hold, hslot⟩ | ⟨-, hmiss⟩
    · obtain ⟨hpast, hstep⟩ := since_concat.mp hsince
      rw [← hslot] at hpast hstep ⊢
      exact ha.live_of (ht.miss c old hold hpast) (hstep (ht.opened c old hold))
    · exact live_eq_none_iff.mpr hmiss

theorem Missed.not_overtakes {past : List FleetStep} {e : FleetEvent} (h : Missed past s)
    (hfirst : Unpreceded past (fleetMachine.step s e)) :
    ¬ (s.tick e.waited).Overtakes e.action := by
  intro hovertakes
  unfold Overtakes at hovertakes
  split at hovertakes
  · next slot response origin hi =>
    obtain ⟨c, step, call, hresume, hc, rfl⟩ := running_of_insertion hi
    have hinserts : insertsAt (fleetMachine.step s e) = some call.slot :=
      congrArg (Option.map Prod.fst) hi
    have hmiss := (h.tick e.waited).miss c call hc (hfirst c step call.slot hresume hinserts)
    rw [hmiss] at hovertakes
    exact hovertakes
  · exact hovertakes

end Fleet

/-- **The in-process tier never goes back in time, and every hit is within its TTL, in a run in which
no call inserts behind another insertion on its slot since its miss.** -/
theorem ordered_of_unpreceded (config : Config) (backed : Bool) (es : List FleetEvent)
    (h : ∀ past x rest, fleetMachine.run (.new config backed) es = past ++ x :: rest →
      Unpreceded past x) :
    ∀ x ∈ fleetMachine.run (.new config backed) es, StepOrdered (.new config backed) x := by
  refine Machine.run_induction (C := fun s e => ¬ (s.tick e.waited).Overtakes e.action)
    (ordered_step (.new config backed)) ⟨Fleet.timely_new config backed, fun _ => rfl⟩ ?_
  intro x hx
  obtain ⟨past, rest, hrun⟩ := List.append_of_mem hx
  have hfirst := h past x rest hrun
  obtain ⟨es', e, rfl, rfl⟩ := fleetMachine.run_eq_append_cons hrun
  have hmissed : Fleet.Missed (fleetMachine.run (.new config backed) es')
      (fleetMachine.final (.new config backed) es') :=
    fleetMachine.history_of_step Fleet.missed_step (Fleet.missed_new config backed) es'
  exact hmissed.not_overtakes hfirst

end RustWhois
