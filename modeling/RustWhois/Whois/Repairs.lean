import RustWhois.Whois.SelfHealing

/-!
# Repairs that are kept

A lookup purges and stores by the TLD alone, so that it is right about the entry only if that is
still as it left it.

* `Takes`, `Purges`: the steps from which on a call relies on the entry;
* `QuietSince`: after such a step, no other call changes the entry;
* `Came`: where a call in flight comes from;
* `Kept`: the entry is as a call left it while no other call changes it;
* **`rightful_of_undisturbed`**: no repair is discarded in a run in which no other lookup changes
  the entry between a lookup's find, or its own insertion, and its purge, nor between its purge and
  its store;
* `undisturbed_of_apart`: so it is where lookups of one TLD do not overlap.
-/

namespace RustWhois

open Rust

/-! ## Interference -/

/-- The call in flight that takes the step. -/
def LookupAction.caller : LookupAction → Option Nat
  | .start _ => none
  | .resume c _ => some c

namespace Lookups

/-- The call that in the step finds its server in the map, or inserts it there. -/
def take (x : LookupStep) : Option Nat :=
  match x.event with
  | .start tld => if x.pre.tldServers tld = none then none else some x.pre.next
  | .resume c .enter => match x.pre.calls c with
    | some ⟨tld, .entering server⟩ =>
      if x.pre.tldServers tld = none ∨ x.pre.tldServers tld = some server then some c else none
    | _ => none
  | _ => none

/-- The call that purges the entry in the step, and its TLD. -/
def purge (x : LookupStep) : Option (Nat × Text) :=
  match x.event with
  | .resume c .purge => match x.pre.calls c with
    | some ⟨tld, .purging _⟩ => some (c, tld)
    | _ => none
  | _ => none

/-- The call that stores its server in the step, and its TLD. -/
def store (x : LookupStep) : Option (Nat × Text) :=
  match x.event with
  | .resume c .store => match x.pre.calls c with
    | some ⟨tld, .storing _ _⟩ => some (c, tld)
    | _ => none
  | _ => none

def Takes (c : Nat) (x : LookupStep) : Prop := take x = some c

def Purges (c : Nat) (x : LookupStep) : Prop := (purge x).map Prod.fst = some c

/-- The step from which on a call in this phase relies on the entry. -/
def Relies (c : Nat) (phase : LookupPhase) : LookupStep → Prop :=
  if phase.purged then Purges c else Takes c

/-- The step changes the entry of the TLD, and it is none of call `c`. -/
def Interferes (c : Nat) (tld : Text) (x : LookupStep) : Prop :=
  x.post.tldServers tld ≠ x.pre.tldServers tld ∧ x.event.caller ≠ some c

/-- There was a step of the kind `P`, and no other call has changed the entry since. -/
def QuietSince (P : LookupStep → Prop) (c : Nat) (tld : Text) (past : List LookupStep) : Prop :=
  (∃ y ∈ past, P y) ∧ Since P (¬ Interferes c tld ·) past

/-- A purge comes after no other change of the entry since its call took its server from there, or
put it there, and a store after none since the purge of its call. -/
structure Undisturbed (past : List LookupStep) (x : LookupStep) : Prop where
  purge : ∀ p ∈ purge x, QuietSince (Takes p.1) p.1 p.2 past
  store : ∀ p ∈ store x, QuietSince (Purges p.1) p.1 p.2 past

instance (c : Nat) (x : LookupStep) : Decidable (Takes c x) :=
  inferInstanceAs (Decidable (_ = _))

instance (c : Nat) (x : LookupStep) : Decidable (Purges c x) :=
  inferInstanceAs (Decidable (_ = _))

instance (c : Nat) (tld : Text) (x : LookupStep) : Decidable (Interferes c tld x) :=
  inferInstanceAs (Decidable (_ ∧ _))

instance (past : List LookupStep) (x : LookupStep) : Decidable (Undisturbed past x) :=
  have (P : LookupStep → Prop) [DecidablePred P] (c : Nat) (tld : Text) :
      Decidable (QuietSince P c tld past) :=
    inferInstanceAs (Decidable ((∃ y ∈ past, P y) ∧ Since P _ past))
  decidable_of_iff ((∀ p ∈ purge x, QuietSince (Takes p.1) p.1 p.2 past) ∧
    ∀ p ∈ store x, QuietSince (Purges p.1) p.1 p.2 past) ⟨fun h => ⟨h.1, h.2⟩, fun h => ⟨h.1, h.2⟩⟩

theorem QuietSince.of_concat {P : LookupStep → Prop} {c : Nat} {tld : Text} {past : List LookupStep}
    {x : LookupStep} (h : QuietSince P c tld (past ++ [x])) :
    P x ∨ QuietSince P c tld past ∧ ¬ Interferes c tld x := by
  obtain ⟨hex, hsince⟩ := h
  rw [exists_concat] at hex
  rw [since_concat] at hsince
  rcases hex with hpast | hx
  · exact .inr ⟨⟨hpast, hsince.1⟩, hsince.2 hpast⟩
  · exact .inl hx

theorem purge_eq_some {x : LookupStep} {c : Nat} {tld : Text} : purge x = some (c, tld) ↔
    x.event = .resume c .purge ∧ ∃ failed, x.pre.calls c = some ⟨tld, .purging failed⟩ := by
  constructor
  · intro h
    unfold purge at h
    split at h
    · next c' hevent =>
      split at h
      · next tld' failed hrun =>
        cases h
        exact ⟨hevent, failed, hrun⟩
      · cases h
    · cases h
  · rintro ⟨hevent, failed, hrun⟩
    simp only [purge, hevent, hrun]

theorem store_eq_some {x : LookupStep} {c : Nat} {tld : Text} : store x = some (c, tld) ↔
    x.event = .resume c .store ∧
      ∃ failed server, x.pre.calls c = some ⟨tld, .storing failed server⟩ := by
  constructor
  · intro h
    unfold store at h
    split at h
    · next c' hevent =>
      split at h
      · next tld' failed server hrun =>
        cases h
        exact ⟨hevent, failed, server, hrun⟩
      · cases h
    · cases h
  · rintro ⟨hevent, failed, server, hrun⟩
    simp only [store, hevent, hrun]

variable {s s' : Lookups} {past : List LookupStep} {action : LookupAction}

theorem takes_iff {x : LookupStep} {c : Nat} : Takes c x ↔
    (∃ tld, x.event = .start tld ∧ x.pre.tldServers tld ≠ none ∧ x.pre.next = c) ∨
      ∃ tld server, x.event = .resume c .enter ∧ x.pre.calls c = some ⟨tld, .entering server⟩ ∧
        (x.pre.tldServers tld = none ∨ x.pre.tldServers tld = some server) := by
  unfold Takes
  constructor
  · intro h
    unfold take at h
    split at h
    · next tld hevent =>
      split_ifs at h with hentry
      cases h
      exact .inl ⟨tld, hevent, hentry, rfl⟩
    · next d hevent =>
      split at h
      · next tld server hrun =>
        split_ifs at h with hentry
        cases h
        exact .inr ⟨tld, server, hevent, hrun, hentry⟩
      · cases h
    · cases h
  · rintro (⟨tld, hevent, hentry, rfl⟩ | ⟨tld, server, hevent, hrun, hentry⟩)
    · simp only [take, hevent, if_neg hentry]
    · simp only [take, hevent, hrun, if_pos hentry]

/-- A call that takes its server asks it, and the entry names it. -/
theorem Takes.post {c : Nat} (h : Takes c (lookupsMachine.step s action)) :
    ∃ tld server, (s.act action).2.calls c = some ⟨tld, .querying server⟩ ∧
      (s.act action).2.tldServers tld = some server := by
  rcases takes_iff.mp h with ⟨tld, rfl, hentry, rfl⟩ | ⟨tld, server, rfl, running, hentry⟩
  · obtain ⟨server, hserver⟩ := Option.ne_none_iff_exists'.mp hentry
    rw [Machine.step_pre] at hserver
    refine ⟨tld, server, ?_, hserver⟩
    simp [Lookups.act, start, Lookups.goOn, hserver]
  · rw [Machine.step_pre] at running hentry
    rw [act_of_running running]
    refine ⟨tld, server, calls_goOn _ _ _, ?_⟩
    show (s.enter tld server).tldServers tld = some server
    rcases hentry with hentry | hentry <;> simp [enter, hentry, withEntry]

/-! ## Where a call comes from -/

/-- Where call `c`, as it is after the step, comes from. -/
inductive Came (s : Lookups) (action : LookupAction) (s' : Lookups) (c : Nat) (call : LookupCall) :
    Prop
  | opened (number : c = s.next) (event : action = .start call.tld)
    (finds : call.phase.purged = false ∧ call.phase.entry = s.tldServers call.tld)
    (same : s'.tldServers = s.tldServers)
  | other (running : s.calls c = some call) (other : action.caller ≠ some c)
  | moved {phase : LookupPhase} (running : s.calls c = some ⟨call.tld, phase⟩)
    (leaves : call.phase.purged = phase.purged ∧ call.phase.entry = phase.entry)
    (same : s'.tldServers = s.tldServers)
  | entered {server : Text} (running : s.calls c = some ⟨call.tld, .entering server⟩)
    (event : action = .resume c .enter) (phase : call.phase = .querying server)
    (enters : s'.tldServers = (s.enter call.tld server).tldServers)
  | purged {failed : Text} (running : s.calls c = some ⟨call.tld, .purging failed⟩)
    (event : action = .resume c .purge) (phase : call.phase = .rediscovering failed)
    (purges : s'.tldServers call.tld = none)

/-- **A call is new, or as it was, or has gone on.** -/
theorem Acts.came (ha : Acts s action s') {c : Nat} {call : LookupCall}
    (running : s'.calls c = some call) : Came s action s' c call := by
  have hother : ∀ {d : Nat} {move : LookupMove} {call' : Option LookupCall} {s₁ : Lookups},
      c ≠ d → s₁.calls = s.calls → (s₁.goOn d call').calls c = some call →
      Came s (.resume d move) s' c call := by
    intro d move call' s₁ hne hcalls hc
    refine .other ?_ fun heq => hne (Option.some.inj heq).symm
    rw [← hcalls, ← hc]
    exact (Function.update_of_ne hne _ _).symm
  cases ha with
  | idle quiet => exact .moved running ⟨rfl, rfl⟩ rfl
  | opened fresh finds =>
    rcases of_update_some running with ⟨rfl, rfl⟩ | ⟨-, hc⟩
    · exact .opened rfl rfl finds rfl
    · exact .other hc (Option.some_ne_none c).symm
  | @entered d tld server hd =>
    by_cases hne : c = d
    · subst hne
      obtain rfl := Option.some.inj ((calls_goOn _ _ _).symm.trans running)
      exact .entered hd rfl rfl rfl
    · exact hother hne (calls_enter s tld server) running
  | @failed d tld server hd =>
    by_cases hne : c = d
    · subst hne
      obtain rfl := Option.some.inj ((calls_goOn _ _ _).symm.trans running)
      exact .moved hd ⟨rfl, rfl⟩ rfl
    · exact hother hne rfl running
  | @purged d tld failed hd =>
    by_cases hne : c = d
    · subst hne
      obtain rfl := Option.some.inj ((calls_goOn _ _ _).symm.trans running)
      exact .purged hd rfl rfl (Function.update_self _ _ _)
    · exact hother hne rfl running
  | @moved d tld phase phase' move hd same leaves quiet =>
    by_cases hne : c = d
    · subst hne
      obtain rfl := Option.some.inj ((calls_goOn _ _ _).symm.trans running)
      exact .moved hd leaves rfl
    · exact hother hne rfl running
  | @stored d tld failed server hd =>
    by_cases hne : c = d
    · subst hne
      cases (calls_goOn _ _ _).symm.trans running
    · exact hother hne rfl running
  | @ended d call' move hd =>
    by_cases hne : c = d
    · subst hne
      cases (calls_goOn _ _ _).symm.trans running
    · exact hother hne rfl running

/-! ## The entry as a call left it -/

/-- While no other call changes it, the entry is as a call has left it. -/
structure Kept (past : List LookupStep) (s : Lookups) : Prop where
  numbered : ∀ y ∈ past, ∀ c, Takes c y → c < s.next
  /-- A call that asks no server yet has taken none. -/
  searching : ∀ c call, s.calls c = some call → call.phase.purged = false →
    call.phase.entry = none → ∀ y ∈ past, ¬ Takes c y
  entry : ∀ c call, s.calls c = some call → QuietSince (Relies c call.phase) c call.tld past →
    s.tldServers call.tld = call.phase.entry

theorem kept_knowing (servers : Text → Option Text) : Kept [] (knowing servers) :=
  ⟨by rintro _ ⟨⟩, by rintro _ _ ⟨⟩, by rintro _ _ ⟨⟩⟩

theorem Acts.next_le (ha : Acts s action s') : s.next ≤ s'.next := by
  cases ha with
  | entered => exact (next_enter ..).ge
  | opened => exact Nat.le_succ _
  | _ => exact Nat.le_refl _

/-- The entry right after the step that a call relies on. -/
theorem entry_of_relies {c : Nat} {call : LookupCall}
    (hrelies : Relies c call.phase (lookupsMachine.step s action))
    (running : (s.act action).2.calls c = some call) :
    (s.act action).2.tldServers call.tld = call.phase.entry := by
  unfold Relies at hrelies
  split_ifs at hrelies with hpurged
  · obtain ⟨⟨c', tld⟩, hpair, hcall⟩ := Option.map_eq_some_iff.mp hrelies
    obtain rfl : c' = c := hcall
    obtain ⟨rfl, failed, hc : s.calls c' = _⟩ := purge_eq_some.mp hpair
    rw [act_of_running hc] at running ⊢
    obtain rfl := Option.some.inj ((calls_goOn _ _ _).symm.trans running)
    exact Function.update_self _ _ _
  · obtain ⟨tld, server, hc, hentry⟩ := hrelies.post
    obtain rfl := Option.some.inj (hc.symm.trans running)
    exact hentry

theorem Kept.searching_act (h : Kept past s) {c : Nat} {call : LookupCall}
    (running : (s.act action).2.calls c = some call) (hpurged : call.phase.purged = false)
    (hentry : call.phase.entry = none) :
    ∀ y ∈ past ++ [lookupsMachine.step s action], ¬ Takes c y := by
  intro y hy htakes
  rcases List.mem_append.mp hy with hy | hy
  · cases (acts_act s action).came running with
    | opened number => exact Nat.lt_irrefl _ (number ▸ h.numbered y hy c htakes)
    | other hc => exact h.searching c call hc hpurged hentry y hy htakes
    | moved hc leaves =>
      have hnone := leaves.2.symm.trans hentry
      exact h.searching c _ hc (leaves.1.symm.trans hpurged) hnone y hy htakes
    | entered _ _ phase =>
      rw [phase] at hentry
      cases hentry
    | purged _ _ phase =>
      rw [phase] at hpurged
      cases hpurged
  · rw [List.mem_singleton.mp hy] at htakes
    obtain ⟨tld, server, hc, -⟩ := htakes.post
    obtain rfl := Option.some.inj (hc.symm.trans running)
    cases hentry

theorem Kept.entry_act (h : Kept past s) {c : Nat} {call : LookupCall}
    (running : (s.act action).2.calls c = some call)
    (hquiet : QuietSince (Relies c call.phase) c call.tld
      (past ++ [lookupsMachine.step s action])) :
    (s.act action).2.tldServers call.tld = call.phase.entry := by
  rcases hquiet.of_concat with hrelies | ⟨hpast, hundisturbed⟩
  · exact entry_of_relies hrelies running
  cases (acts_act s action).came running with
  | opened number event finds =>
    -- the call is new, and has taken nothing before
    obtain ⟨⟨y, hy, htakes⟩, -⟩ := hpast
    rw [Relies, finds.1] at htakes
    exact absurd (h.numbered y hy c htakes) (number ▸ Nat.lt_irrefl _)
  | other hc hother =>
    by_contra hne
    refine hundisturbed ⟨fun heq => hne ?_, hother⟩
    exact heq.trans (h.entry c call hc hpast)
  | moved hc leaves same =>
    rw [Relies, leaves.1] at hpast
    rw [same, leaves.2]
    exact h.entry c _ hc hpast
  | entered hc _ phase =>
    obtain ⟨⟨y, hy, htakes⟩, -⟩ := hpast
    rw [Relies, phase] at htakes
    exact absurd htakes (h.searching c _ hc rfl rfl y hy)
  | purged _ _ phase purges =>
    rw [phase]
    exact purges

/-- **A step keeps what calls know of the entries.** -/
theorem Kept.act (h : Kept past s) (hhistory : History past s) (action : LookupAction) :
    Kept (past ++ [lookupsMachine.step s action]) (s.act action).2 := by
  have ha := acts_act s action
  refine ⟨fun y hy c htakes => ?_, fun c call => h.searching_act, fun c call => h.entry_act⟩
  rcases List.mem_append.mp hy with hy | hy
  · exact (h.numbered y hy c htakes).trans_le ha.next_le
  · rw [List.mem_singleton.mp hy] at htakes
    obtain ⟨tld, server, running, -⟩ := htakes.post
    exact (hhistory.act ha).lt running

/-- **A step that is not disturbed finds its own entry.** -/
theorem Kept.ownEntry (h : Kept past s)
    (hquiet : Undisturbed past (lookupsMachine.step s action)) : s.OwnEntry action := by
  unfold OwnEntry
  split
  · next c =>
    intro tld failed running server hentry
    have hown := h.entry c _ running
      (hquiet.purge (c, tld) (purge_eq_some.mpr ⟨rfl, failed, running⟩))
    exact Option.some.inj (hentry.symm.trans hown)
  · next c =>
    intro tld failed new running server hentry
    have hnone := h.entry c _ running
      (hquiet.store (c, tld) (store_eq_some.mpr ⟨rfl, failed, new, running⟩))
    cases hentry.symm.trans hnone
  · trivial

/-! ## Lookups that do not overlap -/

/-- Of each TLD there is one lookup in flight at most. -/
def Apart (s : Lookups) : Prop :=
  ∀ c d call call', s.calls c = some call → s.calls d = some call' → call.tld = call'.tld → c = d

/-- The entry is as the call has left it, and no other call has changed it since. -/
structure Lone (past : List LookupStep) (s : Lookups) : Prop where
  numbered : ∀ y ∈ past, ∀ c, Takes c y ∨ Purges c y → c < s.next
  entry : ∀ c call, s.calls c = some call → call.phase.purged = false →
    s.tldServers call.tld = call.phase.entry
  took : ∀ c call, s.calls c = some call → call.phase.entry ≠ none → ∃ y ∈ past, Takes c y
  purged : ∀ c call, s.calls c = some call → call.phase.purged = true → ∃ y ∈ past, Purges c y
  quiet : ∀ c call, s.calls c = some call →
    Since (fun y => Takes c y ∨ Purges c y) (¬ Interferes c call.tld ·) past

theorem lone_knowing (servers : Text → Option Text) : Lone [] (knowing servers) :=
  ⟨by rintro _ ⟨⟩, by rintro _ _ ⟨⟩, by rintro _ _ ⟨⟩, by rintro _ _ ⟨⟩, by rintro _ _ ⟨⟩⟩

/-- **A step of another call leaves the entry alone.** -/
theorem Apart.unchanged (hapart : s.Apart) (ha : Acts s action s') {c : Nat} {call : LookupCall}
    (running : s.calls c = some call) (hother : action.caller ≠ some c) :
    s'.tldServers call.tld = s.tldServers call.tld := by
  by_contra hne
  obtain ⟨d, move, phase, rfl, hd, -⟩ := ha.changes hne
  obtain rfl := hapart c d _ _ running hd rfl
  exact hother rfl

variable (h : Lone past s) (hapart : s.Apart)
include h

theorem Lone.not_mem_next {y : LookupStep} (hy : y ∈ past) :
    ¬ (Takes s.next y ∨ Purges s.next y) :=
  fun htakes => Nat.lt_irrefl _ (h.numbered y hy _ htakes)

include hapart

theorem Lone.entry_act (ha : Acts s action s') {c : Nat} {call : LookupCall}
    (running : s'.calls c = some call) (hpurged : call.phase.purged = false) :
    s'.tldServers call.tld = call.phase.entry := by
  cases ha.came running with
  | opened _ _ finds same => rw [same, finds.2]
  | other hc hother => rw [hapart.unchanged ha hc hother, h.entry c call hc hpurged]
  | moved hc leaves same => rw [same, leaves.2, ← h.entry c _ hc (leaves.1.symm.trans hpurged)]
  | @entered server hc _ phase enters =>
    have hnone : s.tldServers call.tld = none := h.entry c _ hc rfl
    rw [enters, phase, enter, hnone, Option.isSome_none, if_neg Bool.false_ne_true]
    exact Function.update_self _ _ _
  | purged _ _ phase =>
    rw [phase] at hpurged
    cases hpurged

theorem Lone.quiet_act {c : Nat} {call : LookupCall}
    (running : (s.act action).2.calls c = some call) :
    Since (fun y => Takes c y ∨ Purges c y) (¬ Interferes c call.tld ·)
      (past ++ [lookupsMachine.step s action]) := by
  have ha := acts_act s action
  rw [since_concat]
  cases ha.came running with
  | opened number =>
    subst number
    exact ⟨since_of_none fun y hy => h.not_mem_next hy,
      fun ⟨y, hy, htakes⟩ => absurd htakes (h.not_mem_next hy)⟩
  | other hc hother =>
    exact ⟨h.quiet c call hc, fun _ hint => hint.1 (hapart.unchanged ha hc hother)⟩
  | moved hc _ same =>
    have hquiet := h.quiet c _ hc
    exact ⟨hquiet, fun _ hint => hint.1 (congrFun same call.tld)⟩
  | entered hc event =>
    have hquiet := h.quiet c _ hc
    exact ⟨hquiet, fun _ hint => hint.2 (congrArg LookupAction.caller event)⟩
  | purged hc event =>
    have hquiet := h.quiet c _ hc
    exact ⟨hquiet, fun _ hint => hint.2 (congrArg LookupAction.caller event)⟩

/-- **A step between lookups that do not overlap keeps them so.** -/
theorem Lone.act (hhistory : History past s) (action : LookupAction) :
    Lone (past ++ [lookupsMachine.step s action]) (s.act action).2 := by
  have ha := acts_act s action
  refine ⟨fun y hy c hc => ?_, fun c call => h.entry_act hapart ha, fun c call running hentry => ?_,
    fun c call running hpurged => ?_, fun c call => h.quiet_act hapart⟩
  · rcases List.mem_append.mp hy with hy | hy
    · exact (h.numbered y hy c hc).trans_le ha.next_le
    rw [List.mem_singleton.mp hy] at hc
    rcases hc with htakes | hpurges
    · obtain ⟨tld, server, running, -⟩ := htakes.post
      exact (hhistory.act ha).lt running
    · obtain ⟨⟨d, tld⟩, hpair, hcall⟩ := Option.map_eq_some_iff.mp hpurges
      obtain rfl : d = c := hcall
      obtain ⟨-, failed, running⟩ := purge_eq_some.mp hpair
      exact (hhistory.lt running).trans_le ha.next_le
  · rw [exists_concat]
    cases ha.came running with
    | opened number event finds =>
      refine .inr (takes_iff.mpr (.inl ⟨call.tld, event, ?_, number.symm⟩))
      rwa [finds.2] at hentry
    | other hc => exact .inl (h.took c call hc hentry)
    | moved hc leaves => exact .inl (h.took c _ hc (leaves.2 ▸ hentry))
    | entered hc event =>
      exact .inr (takes_iff.mpr (.inr ⟨call.tld, _, event, hc, .inl (h.entry c _ hc rfl)⟩))
    | purged _ _ phase =>
      rw [phase] at hentry
      exact absurd rfl hentry
  · rw [exists_concat]
    cases ha.came running with
    | opened _ _ finds => cases finds.1.symm.trans hpurged
    | other hc => exact .inl (h.purged c call hc hpurged)
    | moved hc leaves => exact .inl (h.purged c _ hc (leaves.1.symm.trans hpurged))
    | entered _ _ phase =>
      rw [phase] at hpurged
      cases hpurged
    | @purged failed hc event =>
      exact .inr (Option.map_eq_some_iff.mpr
        ⟨(c, call.tld), purge_eq_some.mpr ⟨event, failed, hc⟩, rfl⟩)

omit hapart

theorem Lone.undisturbed : Undisturbed past (lookupsMachine.step s action) where
  purge p hp := by
    obtain ⟨-, failed, running⟩ := purge_eq_some.mp hp
    exact ⟨h.took p.1 _ running (by rintro ⟨⟩), (h.quiet p.1 _ running).mono fun _ => .inl⟩
  store p hp := by
    obtain ⟨-, failed, server, running⟩ := store_eq_some.mp hp
    exact ⟨h.purged p.1 _ running rfl, (h.quiet p.1 _ running).mono fun _ => .inr⟩

end Lookups

/-! ## Runs -/

section Runs

variable (servers : Text → Option Text) (es : List LookupAction)

theorem kept_run : Lookups.Kept (lookupsMachine.run (.knowing servers) es)
    (lookupsMachine.final (.knowing servers) es) :=
  have hboth := lookupsMachine.history_of_step
    (H := fun past s => Lookups.History past s ∧ Lookups.Kept past s)
    (fun _ s action h => ⟨h.1.act (Lookups.acts_act s action), h.2.act h.1 action⟩)
    ⟨Lookups.history_knowing servers, Lookups.kept_knowing servers⟩ es
  hboth.2

/-- **No lookup discards what another one has repaired, in the runs in which no other lookup changes
the entry between a lookup's find, or its own insertion, and its purge, nor between its purge and
its store.** The entries of other TLDs are left alone in every run. -/
theorem rightful_of_undisturbed :
    (∀ x ∈ lookupsMachine.run (.knowing servers) es, ∀ tld,
      x.post.tldServers tld ≠ x.pre.tldServers tld →
      ∃ c move phase, x.event = .resume c move ∧ x.pre.calls c = some ⟨tld, phase⟩) ∧
    ((∀ past x rest, lookupsMachine.run (.knowing servers) es = past ++ x :: rest →
      Lookups.Undisturbed past x) → Lookups.AllRightful servers es) := by
  constructor
  · intro x hx tld hne
    obtain ⟨past, rest, hrun⟩ := List.append_of_mem hx
    obtain ⟨es', e, rfl, rfl⟩ := lookupsMachine.run_eq_append_cons hrun
    obtain ⟨c, move, phase, hevent, running, -⟩ := (Lookups.acts_act _ e).changes hne
    exact ⟨c, move, phase, hevent, running⟩
  · intro hquiet past x rest hrun
    have hx := hquiet past x rest hrun
    obtain ⟨es', e, rfl, rfl⟩ := lookupsMachine.run_eq_append_cons hrun
    exact (history_run servers es').rightful ((kept_run servers es').ownEntry hx)

/-- Two lookups ask a server that has died, and one of them repairs the entry before the other one,
whose query has failed as well, comes to its purge. -/
theorem rightful_repaired : Lookups.AllRightful (fun _ => none) repaired ∧
    (lookupsMachine.final (.knowing fun _ => none) repaired).tldServers "com" = some "new" :=
  ⟨(rightful_of_undisturbed _ _).2 (Machine.forall_split (by decide +kernel)), by decide +kernel⟩

/-- **Lookups that do not overlap do not disturb each other.** -/
theorem undisturbed_of_apart
    (hapart : ∀ x ∈ lookupsMachine.run (.knowing servers) es, x.pre.Apart) :
    ∀ past x rest, lookupsMachine.run (.knowing servers) es = past ++ x :: rest →
      Lookups.Undisturbed past x := by
  intro past x rest hrun
  have hpast : ∀ y ∈ past, y.pre.Apart := fun y hy => hapart y (by simp [hrun, hy])
  obtain ⟨es', e, rfl, rfl⟩ := lookupsMachine.run_eq_append_cons hrun
  have hlone : Lookups.History (lookupsMachine.run (.knowing servers) es')
        (lookupsMachine.final (.knowing servers) es') ∧
      Lookups.Lone (lookupsMachine.run (.knowing servers) es')
        (lookupsMachine.final (.knowing servers) es') :=
    Machine.history_induction (C := fun s _ => s.Apart)
      (H := fun past s => Lookups.History past s ∧ Lookups.Lone past s)
      (fun _ s action h hs => ⟨h.1.act (Lookups.acts_act s action), h.2.act hs h.1 action⟩)
      ⟨Lookups.history_knowing servers, Lookups.lone_knowing servers⟩ hpast
  exact hlone.2.undisturbed

end Runs

end RustWhois
