import Mathlib.Data.List.Forall2
import RustWhois.Cache.Fleet

/-!
# How stale a fleet's answers get

Runs of `get_or_fetch` calls, whose backend hits are inserted at the instant they are read.

* `Prompt`: the runs in question;
* `Led`: every call in flight is the one its slot waits for;
* `Bounded`: what entries, backend and calls in flight remember of the fetch they come from;
* **`bounded_act`**: a step keeps it;
* **`fresh_of_fleet`**: no answer is served longer than two lifetimes after the call that fetched it
  completed, and without a backend no longer than one.
-/

namespace RustWhois

open Rust

namespace Fleet

/-! ## Leaders -/

/-- Every call in flight is a `get_or_fetch` and the one its slot waits for, and has not completed;
the numbers from `next` on are unused. -/
structure Led (s : Fleet) : Prop where
  kind : ∀ c call, s.calls c = some call → call.kind = .getOrFetch
  leading : ∀ c call, s.calls c = some call → s.leading call.slot = some c
  unfinished : ∀ c call, s.calls c = some call → s.completed c = none
  unused : ∀ c, s.next ≤ c → s.calls c = none ∧ s.completed c = none

variable {s s' : Fleet} {action : FleetAction} {reply : FleetReply}

theorem Led.slot_ne (h : Led s) {c c' : Nat} {call call' : FleetCall} (hc : s.calls c = some call)
    (hc' : s.calls c' = some call') (hne : c' ≠ c) : call'.slot ≠ call.slot := by
  intro heq
  have hl := h.leading c' call' hc'
  rw [heq, h.leading c call hc, Option.some.injEq] at hl
  exact hne hl.symm

theorem Led.lt_next (h : Led s) {c : Nat} {call : FleetCall} (hc : s.calls c = some call) :
    c < s.next := by
  by_contra hle
  rw [(h.unused c (by omega)).1] at hc
  cases hc

theorem Led.proceed (h : Led s) {c : Nat} {call : FleetCall} (hc : s.calls c = some call)
    (phase : Phase) : Led (s.proceed c call phase) := by
  have hold : ∀ c' call', (s.proceed c call phase).calls c' = some call' →
      ∃ call₀, s.calls c' = some call₀ ∧ call'.kind = call₀.kind ∧ call'.slot = call₀.slot := by
    intro c' call' h'
    rcases of_update_some h' with ⟨rfl, rfl⟩ | ⟨-, h'⟩
    · exact ⟨call, hc, rfl, rfl⟩
    · exact ⟨call', h', rfl, rfl⟩
  constructor
  · intro c' call' h'
    obtain ⟨call₀, h₀, hkind, -⟩ := hold c' call' h'
    rw [hkind]
    exact h.kind c' call₀ h₀
  · intro c' call' h'
    obtain ⟨call₀, h₀, -, hslot⟩ := hold c' call' h'
    rw [hslot]
    exact h.leading c' call₀ h₀
  · intro c' call' h'
    obtain ⟨call₀, h₀, -, -⟩ := hold c' call' h'
    exact h.unfinished c' call₀ h₀
  · intro c' hle
    have hne : c' ≠ c := by
      have := h.lt_next hc
      change s.next ≤ c' at hle
      omega
    refine ⟨?_, (h.unused c' hle).2⟩
    change Function.update s.calls c _ c' = none
    rw [Function.update_of_ne hne]
    exact (h.unused c' hle).1

theorem Led.release (h : Led s) {c : Nat} {call : FleetCall} (hc : s.calls c = some call) :
    Led (s.release c call) := by
  constructor
  · intro c' call' h'
    exact h.kind c' call' (of_update_none h').2
  · intro c' call' h'
    obtain ⟨hne, h'⟩ := of_update_none h'
    have hslot := h.slot_ne hc h' hne
    change (if call.kind = .getOrFetch then _ else s.leading) call'.slot = some c'
    rw [if_pos (h.kind c call hc), Function.update_of_ne hslot]
    exact h.leading c' call' h'
  · intro c' call' h'
    exact h.unfinished c' call' (of_update_none h').2
  · intro c' hle
    have hne : c' ≠ c := by
      have := h.lt_next hc
      change s.next ≤ c' at hle
      omega
    refine ⟨?_, (h.unused c' hle).2⟩
    change Function.update s.calls c none c' = none
    rw [Function.update_of_ne hne]
    exact (h.unused c' hle).1

theorem Led.opened (h : Led s) (slot : Slot) (hfree : s.leading slot = none) :
    Led { s with
      calls := Function.update s.calls s.next (some ⟨.getOrFetch, slot, .asking⟩)
      next := s.next + 1
      leading := Function.update s.leading slot (some s.next) } := by
  constructor
  · intro c call hc
    rcases of_update_some hc with ⟨rfl, rfl⟩ | ⟨-, hc⟩
    · rfl
    · exact h.kind c call hc
  · intro c call hc
    dsimp only
    rcases of_update_some hc with ⟨rfl, rfl⟩ | ⟨-, hc⟩
    · rw [Function.update_self]
    · have hl := h.leading c call hc
      have hne : call.slot ≠ slot := by
        intro heq
        rw [heq, hfree] at hl
        cases hl
      rw [Function.update_of_ne hne, hl]
  · intro c call hc
    rcases of_update_some hc with ⟨rfl, rfl⟩ | ⟨-, hc⟩
    · exact (h.unused s.next (Nat.le_refl _)).2
    · exact h.unfinished c call hc
  · intro c hle
    dsimp only at hle ⊢
    rw [Function.update_of_ne (by omega)]
    exact h.unused c (by omega)

/-! ## What is remembered of the fetch -/

/-- A response that entered a tier did so by now, and not later than one backend lifetime after the
call that fetched it completed. -/
def Kept (s : Fleet) (response : WhoisResponse) (mark : Mark) : Prop :=
  mark.enteredAt ≤ s.now ∧ ∀ t, s.completed mark.origin.call = some t →
    mark.enteredAt ≤ t ∨ s.backend.isSome = true ∧ mark.enteredAt < t + s.ttl response

/-- A stored response was stored by now, before the call that fetched it completed. -/
def Written (s : Fleet) (x : Stored) (origin : Origin) : Prop :=
  x.ttl = s.ttl x.response ∧ x.storedAt ≤ s.now ∧
    ∀ t, s.completed origin.call = some t → x.storedAt ≤ t

theorem Kept.later {response : WhoisResponse} {mark : Mark} (h : Kept s response mark)
    (hl : Later s s') : Kept s' response mark := by
  refine ⟨h.1.trans hl.now, fun t ht => ?_⟩
  rw [hl.backed, hl.ttl]
  rcases hl.completed _ t ht with ht | ht
  · exact h.2 t ht
  · exact .inl (h.1.trans ht)

theorem Written.later {x : Stored} {origin : Origin} (h : Written s x origin) (hl : Later s s') :
    Written s' x origin := by
  refine ⟨h.1.trans (hl.ttl _).symm, h.2.1.trans hl.now, fun t ht => ?_⟩
  rcases hl.completed _ t ht with ht | ht
  · exact h.2.2 t ht
  · exact h.2.1.trans ht

/-- What entries, calls in flight and backend remember. -/
structure Bounded (s : Fleet) : Prop where
  led : Led s
  misses : ∀ c call, s.calls c = some call →
    (s.caches call.slot.1).get s.now call.slot.2 = none
  entries : ∀ (slot : Slot) e, (s.caches slot.1).entries slot.2 = some e →
    e.expiresAt = some ((s.marks slot).enteredAt + s.ttl e.value) ∧ Kept s e.value (s.marks slot)
  hits : ∀ c call hit origin readAt, s.calls c = some call →
    call.phase = .promoting hit origin readAt →
    0 < s.ttl hit ∧ s.backend.isSome = true ∧ Kept s hit ⟨origin, readAt⟩
  stores : ∀ b, s.backend = some b → List.Forall₂ (Written s) b s.writers

theorem bounded_new (config : Config) (backed : Bool) : Bounded (new config backed) := by
  refine ⟨⟨by simp [new], by simp [new], by simp [new], by simp [new]⟩, by simp [new],
    by simp [new, ExpiryCache.empty], by simp [new], ?_⟩
  intro b hb
  cases backed with
  | false => cases hb
  | true =>
    cases hb
    exact .nil

theorem Bounded.tick (h : Bounded s) (waited : Nat) : Bounded (s.tick waited) := by
  have hl := later_tick s waited
  refine ⟨⟨h.led.kind, h.led.leading, h.led.unfinished, h.led.unused⟩, ?_, ?_, ?_, ?_⟩
  · intro c call hc
    exact ExpiryCache.get_eq_none_of_le (Nat.le_add_right _ _) (h.misses c call hc)
  · intro slot e he
    exact (h.entries slot e he).imp_right fun hk => hk.later hl
  · intro c call hit origin readAt hc hphase
    obtain ⟨hpos, hbacked, hk⟩ := h.hits c call hit origin readAt hc hphase
    exact ⟨hpos, hbacked, hk.later hl⟩
  · intro b hb
    exact (h.stores b hb).imp fun _ _ hw => hw.later hl

theorem Bounded.proceed (h : Bounded s) {c : Nat} {call : FleetCall} (hc : s.calls c = some call)
    {phase : Phase} (hphase : ∀ hit origin readAt, phase = .promoting hit origin readAt →
      0 < s.ttl hit ∧ s.backend.isSome = true ∧ Kept s hit ⟨origin, readAt⟩) :
    Bounded (s.proceed c call phase) := by
  refine ⟨h.led.proceed hc phase, ?_, h.entries, ?_, h.stores⟩
  · intro c' call' h'
    rcases of_update_some h' with ⟨rfl, rfl⟩ | ⟨-, h'⟩
    · exact h.misses c' call hc
    · exact h.misses c' call' h'
  · intro c' call' hit origin readAt h' hp
    rcases of_update_some h' with ⟨rfl, rfl⟩ | ⟨-, h'⟩
    · exact hphase hit origin readAt hp
    · exact h.hits c' call' hit origin readAt h' hp

theorem Bounded.release (h : Bounded s) {c : Nat} {call : FleetCall} (hc : s.calls c = some call) :
    Bounded (s.release c call) := by
  refine ⟨h.led.release hc, ?_, h.entries, ?_, h.stores⟩
  · intro c' call' h'
    exact h.misses c' call' (of_update_none h').2
  · intro c' call' hit origin readAt h'
    exact h.hits c' call' hit origin readAt (of_update_none h').2

theorem Bounded.conclude (h : Bounded s) {c : Nat} {call : FleetCall} (hc : s.calls c = some call)
    {response : WhoisResponse} {origin : Origin} {completed : Nat → Option Nat}
    (hled : Led (s.conclude c call response origin completed))
    (hl : Later s (s.conclude c call response origin completed))
    (hk : Kept (s.conclude c call response origin completed) response ⟨origin, s.now⟩) :
    Bounded (s.conclude c call response origin completed) := by
  refine ⟨hled, ?_, ?_, ?_, ?_⟩
  · intro c' call' h'
    obtain ⟨hne, h'⟩ := of_update_none h'
    have hslot := h.led.slot_ne hc h' hne
    have hsame : ((s.enter call.slot response origin).caches call'.slot.1).entries call'.slot.2 =
        (s.caches call'.slot.1).entries call'.slot.2 := entries_enter_of_ne hslot
    have hmiss := h.misses c' call' h'
    simp only [ExpiryCache.get, ExpiryCache.entry] at hmiss ⊢
    rw [← hsame] at hmiss
    exact hmiss
  · intro slot e he
    change ((s.enter call.slot response origin).caches slot.1).entries slot.2 = some e at he
    by_cases hslot : slot = call.slot
    · subst hslot
      rw [entries_enter_of_miss (h.misses c call hc), Option.some.injEq] at he
      have hm : (s.conclude c call response origin completed).marks call.slot = ⟨origin, s.now⟩ :=
        Function.update_self _ _ _
      subst he
      rw [hm]
      exact ⟨rfl, hk⟩
    · rw [entries_enter_of_ne hslot] at he
      have hm : (s.conclude c call response origin completed).marks slot = s.marks slot :=
        Function.update_of_ne hslot _ _
      rw [hm]
      exact (h.entries slot e he).imp_right fun hk => hk.later hl
  · intro c' call' hit origin' readAt h' hp
    obtain ⟨hpos, hbacked, hk'⟩ := h.hits c' call' hit origin' readAt (of_update_none h').2 hp
    exact ⟨hpos, hbacked, hk'.later hl⟩
  · intro b hb
    exact (h.stores b hb).imp fun _ _ hw => hw.later hl

theorem Bounded.evicted (h : Bounded s) (slot : Slot) : Bounded
    { s with caches := Function.update s.caches slot.1 ((s.caches slot.1).evict slot.2) } := by
  have hentries : ∀ slot' : Slot, ∀ e,
      (Function.update s.caches slot.1 ((s.caches slot.1).evict slot.2) slot'.1).entries slot'.2 =
        some e → (s.caches slot'.1).entries slot'.2 = some e := by
    intro slot' e he
    by_cases hi : slot'.1 = slot.1
    · rw [hi, Function.update_self] at he
      rw [hi]
      exact (of_update_none he).2
    · rwa [Function.update_of_ne hi] at he
  refine ⟨⟨h.led.kind, h.led.leading, h.led.unfinished, h.led.unused⟩, ?_, ?_, h.hits, h.stores⟩
  · intro c call hc
    have hmiss := h.misses c call hc
    dsimp only
    by_cases hi : call.slot.1 = slot.1
    · rw [hi, Function.update_self, ExpiryCache.get_evict, ← hi, hmiss, ite_self]
    · rwa [Function.update_of_ne hi]
  · intro slot' e he
    exact h.entries slot' e (hentries slot' e he)

/-- What a backend hit remembers: its store is at most one lifetime old. -/
theorem Bounded.kept_of_stored (h : Bounded s) {i : Nat} {key : Text} {answer : BackendAnswer}
    {hit : WhoisResponse} (hget : (s.service i).backendGet s.now key answer = some hit) :
    0 < s.ttl hit ∧ s.backend.isSome = true ∧ Kept s hit ⟨s.originOf answer, s.now⟩ := by
  obtain ⟨b, hb, hget⟩ := Option.bind_eq_some_iff.mp hget
  cases answer with
  | failed msg => cases hget
  | stored j =>
    obtain ⟨x, hx, rfl⟩ := Option.map_eq_some_iff.mp hget
    obtain ⟨hj, hkey⟩ := Option.filter_eq_some_iff.mp hx
    obtain ⟨-, hfresh⟩ : x.key = key ∧ s.now < x.storedAt + x.ttl := by simpa using hkey
    obtain ⟨hlt, rfl⟩ := List.getElem?_eq_some_iff.mp hj
    have hall := h.stores b hb
    have hlt' : j < s.writers.length := hall.length_eq ▸ hlt
    obtain ⟨httl, hpast, hdone⟩ : Written s b[j] s.writers[j] := hall.get hlt hlt'
    rw [httl] at hfresh
    refine ⟨by omega, by rw [show s.backend = some b from hb]; rfl, Nat.le_refl _, ?_⟩
    intro t ht
    have horigin : s.originOf (.stored j) = s.writers[j] := by
      simp [originOf, hlt']
    dsimp only at ht ⊢
    rw [horigin] at ht
    have hle := hdone t ht
    exact .inr ⟨by rw [show s.backend = some b from hb]; rfl, by omega⟩

theorem Bounded.store (h : Bounded s) {c : Nat} {call : FleetCall} (hc : s.calls c = some call)
    {response : WhoisResponse} {fetchedAt : Nat}
    (hl : Later s (s.store c call response fetchedAt)) :
    Bounded (s.store c call response fetchedAt) := by
  have hp : Bounded (s.proceed c call (.inserting response fetchedAt)) := h.proceed hc (by simp)
  have hl' : Later (s.proceed c call (.inserting response fetchedAt))
      (s.store c call response fetchedAt) := ⟨hl.now, hl.ttl, hl.backed, hl.completed⟩
  refine ⟨⟨hp.led.kind, hp.led.leading, hp.led.unfinished, hp.led.unused⟩, hp.misses, ?_, ?_, ?_⟩
  · intro slot e he
    exact (h.entries slot e he).imp_right fun hk => hk.later hl
  · intro c' call' hit origin readAt h' hphase
    obtain ⟨hpos, hbacked, hk⟩ := hp.hits c' call' hit origin readAt h' hphase
    exact ⟨hpos, hl.backed.trans hbacked, hk.later hl'⟩
  · intro b' hb'
    have hb'' : ((s.service call.slot.1).backendSet s.now call.slot.2 response).backend = some b' :=
      hb'
    rw [CacheService.backend_backendSet] at hb''
    obtain ⟨b, hb, rfl⟩ := Option.map_eq_some_iff.mp hb''
    have hb₀ : s.backend = some b := hb
    have hwriters : (s.store c call response fetchedAt).writers = s.writers ++
        ((s.service call.slot.1).written s.now call.slot.2 response).map fun _ =>
          ⟨c, fetchedAt⟩ := by
      simp only [Fleet.store, hb₀, Option.isSome_some, if_true]
    rw [hwriters]
    refine List.rel_append ((h.stores b hb₀).imp fun _ _ hw => hw.later hl) ?_
    rw [List.forall₂_map_right_iff, List.forall₂_same]
    intro x hx
    obtain ⟨-, hresponse, httl, hat⟩ := ttl_of_mem_written hx
    refine ⟨httl.trans (by rw [hresponse]; rfl), hat.le, fun t ht => ?_⟩
    -- the call that stores has not completed
    have hdone : s.completed c = some t := ht
    rw [h.led.unfinished c call hc] at hdone
    cases hdone

/-! ## Steps -/

/-- A step of a `get_or_fetch`, which inserts a backend hit at the instant it was read. -/
def PromptAction (s : Fleet) : FleetAction → Prop
  | .start kind _ _ => kind = .getOrFetch
  | .resume c .promote => match s.calls c with
    | some ⟨_, _, .promoting _ _ readAt⟩ => readAt = s.now
    | _ => True
  | _ => True

instance (s : Fleet) (action : FleetAction) : Decidable (PromptAction s action) := by
  unfold PromptAction
  split
  · infer_instance
  · split <;> infer_instance
  · infer_instance

theorem ttl_promotion (kind : CallKind) (hit : WhoisResponse) :
    s.ttl (promotion kind hit) = s.ttl hit := by
  cases kind <;> rfl

theorem bounded_act (h : Bounded s) (hp : PromptAction s action) (ha : Acts s action reply s') :
    Bounded s' := by
  have hl := ha.later
  cases ha with
  | idle => exact h
  | hit live => exact h
  | opened miss free =>
    cases hp
    refine ⟨h.led.opened _ (free rfl), ?_, h.entries, ?_, h.stores⟩
    · intro c call hc
      rcases of_update_some hc with ⟨rfl, rfl⟩ | ⟨-, hc⟩
      · exact miss
      · exact h.misses c call hc
    · intro c call hit origin readAt hc hphase
      rcases of_update_some hc with ⟨rfl, rfl⟩ | ⟨-, hc⟩
      · cases hphase
      · exact h.hits c call hit origin readAt hc hphase
  | evicted slot => exact h.evicted slot
  | asked running phase stored =>
    refine h.proceed running fun hit origin readAt heq => ?_
    cases heq
    obtain ⟨hpos, hbacked, hk⟩ := h.kept_of_stored stored
    rw [Kept, ttl_promotion]
    exact ⟨hpos, hbacked, hk⟩
  | fetching running phase kind => exact h.proceed running (by simp)
  | released running => exact h.release running
  | @promoted c call hit origin readAt running phase =>
    obtain ⟨kind, slot, _⟩ := call
    cases phase
    have hread : readAt = s.now := by
      rw [PromptAction, running] at hp
      exact hp
    obtain ⟨-, -, hk⟩ := h.hits c _ hit origin readAt running rfl
    refine h.conclude running ?_ hl (by rw [← hread]; exact hk.later hl)
    have hled := h.led.release running
    exact ⟨hled.kind, hled.leading, hled.unfinished, hled.unused⟩
  | returned running phase => exact h.proceed running (by simp)
  | stored running phase => exact h.store running hl
  | @inserted c call response fetchedAt running phase =>
    refine h.conclude running ?_ hl ⟨Nat.le_refl _, fun t ht => ?_⟩
    · have hled := h.led.release running
      refine ⟨hled.kind, hled.leading, ?_, ?_⟩
      · intro c' call' h'
        have hne := (of_update_none h').1
        change Function.update s.completed c _ c' = none
        rw [Function.update_of_ne hne]
        exact hled.unfinished c' call' h'
      · intro c' hle
        have hlt := h.led.lt_next running
        have hne : c' ≠ c := by
          change s.next ≤ c' at hle
          omega
        change (s.release c call).calls c' = none ∧ Function.update s.completed c _ c' = none
        rw [Function.update_of_ne hne]
        exact hled.unused c' hle
    · change Function.update s.completed c (some s.now) c = some t at ht
      rw [Function.update_self, Option.some.injEq] at ht
      exact .inl ht.le

/-! ## Answers -/

/-- A response served at `now` is of a status that is kept, and at most two lifetimes after the call
that fetched it completed; at most one without a backend. -/
def Fresh (s : Fleet) (now : Nat) (response : WhoisResponse) (origin : Origin) : Prop :=
  0 < s.ttl response ∧ ∀ t, s.completed origin.call = some t →
    now < t + 2 * s.ttl response ∧ (s.backend.isSome = false → now < t + s.ttl response)

theorem fresh_of_served (h : Bounded s) (hp : PromptAction s action) (ha : Acts s action reply s')
    {response : WhoisResponse} {origin : Origin} (hr : reply.served = some (response, origin)) :
    Fresh s' s.now response origin := by
  have hl := ha.later
  cases ha with
  | @hit kind i domain cached live =>
    cases hr
    obtain ⟨e, he, rfl⟩ := Option.map_eq_some_iff.mp live
    obtain ⟨hentry, hlive⟩ := Option.filter_eq_some_iff.mp he
    obtain ⟨hexp, hnow, hdone⟩ := h.entries (i, CacheService.normalizeDomain domain) e hentry
    have hlt : s.now < (s.marks (i, CacheService.normalizeDomain domain)).enteredAt +
        s.ttl e.value := by simpa [ExpiryEntry.live, hexp] using hlive
    have httl : s.ttl { e.value with cached := true } = s.ttl e.value := rfl
    rw [Fresh, httl]
    refine ⟨by omega, fun t ht => ?_⟩
    rcases hdone t ht with hle | ⟨hbacked, hbound⟩
    · exact ⟨by omega, fun _ => by omega⟩
    · exact ⟨by omega, fun hnone => by rw [hbacked] at hnone; cases hnone⟩
  | @promoted c call hit origin' readAt running phase =>
    cases hr
    obtain ⟨kind, slot, _⟩ := call
    cases phase
    have hread : readAt = s.now := by
      rw [PromptAction, running] at hp
      exact hp
    obtain ⟨hpos, hbacked, -, hdone⟩ := h.hits c _ hit origin readAt running rfl
    have httl : s.ttl { hit with cached := true } = s.ttl hit := rfl
    have hsame : ∀ r, (s.conclude c ⟨kind, slot, .promoting hit origin readAt⟩ hit origin
      s.completed).ttl r = s.ttl r := hl.ttl
    rw [Fresh, hsame, httl]
    refine ⟨hpos, fun t ht => ?_⟩
    rcases hdone t ht with hle | ⟨-, hbound⟩
    · exact ⟨by dsimp only at hle; omega, fun _ => by dsimp only at hle; omega⟩
    · refine ⟨by dsimp only at hbound; omega, fun hnone => ?_⟩
      rw [hl.backed, hbacked] at hnone
      cases hnone
  | _ => cases hr

end Fleet

/-! ## Every run -/

/-- What a run remembers of the answers it served. -/
structure Served (first : Fleet) (past : List (Machine.Step Fleet FleetEvent FleetReply))
    (s : Fleet) : Prop where
  bounded : s.Bounded
  ttl : ∀ response, s.ttl response = first.ttl response
  backed : s.backend.isSome = first.backend.isSome
  answers : ∀ x ∈ past, x.post.now ≤ s.now ∧ ∀ response origin,
    x.out.served = some (response, origin) → s.Fresh x.post.now response origin

theorem Fleet.Fresh.later {s s' : Fleet} {now : Nat} {response : WhoisResponse} {origin : Origin}
    (h : s.Fresh now response origin) (hnow : now ≤ s.now) (hl : s.Later s') :
    s'.Fresh now response origin := by
  rw [Fleet.Fresh, hl.ttl, hl.backed]
  refine ⟨h.1, fun t ht => ?_⟩
  rcases hl.completed _ t ht with ht | ht
  · exact h.2 t ht
  · have hpos := h.1
    exact ⟨by omega, fun _ => by omega⟩

theorem served_step (first : Fleet) (past : List (Machine.Step Fleet FleetEvent FleetReply))
    (s : Fleet) (e : FleetEvent) (h : Served first past s)
    (hp : (s.tick e.waited).PromptAction e.action) :
    Served first (past ++ [fleetMachine.step s e]) (fleetMachine.next s e).2 := by
  have ha := Fleet.acts_act (s.tick e.waited) e.action
  have hb := h.bounded.tick e.waited
  have hl := ha.later
  have htick := Fleet.later_tick s e.waited
  rw [fleetMachine_next]
  refine ⟨Fleet.bounded_act hb hp ha, fun r => ?_, ?_, ?_⟩
  · rw [hl.ttl, htick.ttl, h.ttl]
  · rw [hl.backed, htick.backed, h.backed]
  · intro x hx
    rcases List.mem_append.mp hx with hx | hx
    · obtain ⟨hnow, hfresh⟩ := h.answers x hx
      refine ⟨(hnow.trans htick.now).trans hl.now, fun r o hr => ?_⟩
      exact ((hfresh r o hr).later hnow htick).later (hnow.trans htick.now) hl
    · rw [List.mem_singleton] at hx
      subst hx
      refine ⟨Nat.le_refl _, fun r o hr => ?_⟩
      rw [Machine.step_post, fleetMachine_next, ha.now_eq]
      exact Fleet.fresh_of_served hb hp ha hr

/-- **An answer is served for at most two lifetimes after the call that fetched it completed**, and
without a backend for at most one; a throttled one is never served. -/
theorem fresh_of_fleet (config : Config) (backed : Bool) (es : List FleetEvent)
    (hp : ∀ x ∈ fleetMachine.run (.new config backed) es,
      (x.pre.tick x.event.waited).PromptAction x.event.action) :
    ∀ x ∈ fleetMachine.run (.new config backed) es, ∀ response origin,
      x.out.served = some (response, origin) →
      let ttl := (Fleet.new config backed).ttl response
      response.lookupStatus ≠ .rateLimited ∧ 0 < ttl ∧
      ∀ t, (fleetMachine.final (.new config backed) es).completed origin.call = some t →
        x.post.now < t + 2 * ttl ∧ (backed = false → x.post.now < t + ttl) := by
  have hs : Served (.new config backed) [] (.new config backed) :=
    ⟨Fleet.bounded_new config backed, fun _ => rfl, rfl, by simp⟩
  have hrun := Machine.history_induction (C := fun s e => (s.tick e.waited).PromptAction e.action)
    (served_step (.new config backed)) hs hp
  intro x hx response origin hr
  obtain ⟨hpos, hbound⟩ := (hrun.answers x hx).2 response origin hr
  rw [hrun.ttl, hrun.backed] at hbound
  rw [hrun.ttl] at hpos
  refine ⟨fun hthrottled => ?_, hpos, fun t ht => (hbound t ht).imp_right fun h hfalse => ?_⟩
  · have hzero : (Fleet.new config backed).ttl response = 0 := by rw [Fleet.ttl, hthrottled]
    omega
  · exact h (by rw [hfalse]; rfl)

/-- Another instance promotes a record at the end of its backend lifetime. -/
def twoInstances : List FleetEvent :=
  [⟨0, .start .getOrFetch 0 "a.com"⟩, ⟨0, .resume 0 (.ask (.stored 0))⟩,
    ⟨5, .resume 0 (.returned (.ok (responseWithStatus .found)))⟩, ⟨1, .resume 0 .store⟩,
    ⟨1, .resume 0 .insert⟩, ⟨fromSecs 3600 - 2, .start .getOrFetch 1 "a.com"⟩,
    ⟨0, .resume 1 (.ask (.stored 0))⟩, ⟨0, .resume 1 .promote⟩]

/-- It serves the record at the end of its own lifetime. -/
theorem fresh_of_fleet_twoInstances :
    (fleetMachine.step (fleetMachine.final (.new createTestConfig true) twoInstances)
      ⟨fromSecs 3600 - 1, .start .getOrFetch 1 "a.com"⟩).post.now < 7 + 2 * fromSecs 3600 := by
  have hmem : fleetMachine.step (fleetMachine.final (.new createTestConfig true) twoInstances)
      ⟨fromSecs 3600 - 1, .start .getOrFetch 1 "a.com"⟩ ∈
        fleetMachine.run (.new createTestConfig true)
          (twoInstances ++ [⟨fromSecs 3600 - 1, .start .getOrFetch 1 "a.com"⟩]) := by
    rw [Machine.run_concat]
    exact List.mem_append_right _ List.mem_cons_self
  have hserved := fresh_of_fleet createTestConfig true
    (twoInstances ++ [⟨fromSecs 3600 - 1, .start .getOrFetch 1 "a.com"⟩]) (by decide +kernel) _ hmem
    { responseWithStatus .found with cached := true } ⟨0, 5⟩ (by decide +kernel)
  exact (hserved.2.2 7 (by decide +kernel)).1

end RustWhois
