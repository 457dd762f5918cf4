import RustWhois.Cache.Staleness

/-!
# Leaders

Runs of a fleet in which nobody calls `get`, as those of the client.

* `Exclusive`: the calls in flight are the leaders of their slots;
* **`exclusive_act`**: a step keeps it.
-/

namespace RustWhois

open Rust

namespace Fleet

variable {s s' : Fleet} {action : FleetAction} {reply : FleetReply}

/-- The calls that `get_or_fetch` alone has in flight: each leads its slot, a slot that is led has its
leader in flight, and the in-process tier has no live entry where a call is in flight. -/
structure Exclusive (s : Fleet) : Prop where
  led : Led s
  busy : ∀ slot c, s.leading slot = some c → ∃ call, s.calls c = some call ∧ call.slot = slot
  misses : ∀ c call, s.calls c = some call →
    (s.caches call.slot.1).get s.now call.slot.2 = none

/-- The action starts no `get`. -/
def FetchAction (action : FleetAction) : Prop :=
  ∀ kind i domain, action = .start kind i domain → kind = .getOrFetch

theorem exclusive_new (config : Config) (backed : Bool) : Exclusive (new config backed) :=
  ⟨(bounded_new config backed).led, by simp [new], by simp [new]⟩

theorem Exclusive.tick (h : Exclusive s) (waited : Nat) : Exclusive (s.tick waited) := by
  refine ⟨⟨h.led.kind, h.led.leading, h.led.unfinished, h.led.unused⟩, h.busy, ?_⟩
  intro c call hc
  exact ExpiryCache.get_eq_none_of_le (Nat.le_add_right _ _) (h.misses c call hc)

theorem Exclusive.proceed (h : Exclusive s) {c : Nat} {call : FleetCall}
    (hc : s.calls c = some call) (phase : Phase) : Exclusive (s.proceed c call phase) := by
  refine ⟨h.led.proceed hc phase, ?_, ?_⟩
  · intro slot c' hlead
    obtain ⟨call', hc', hslot⟩ := h.busy slot c' hlead
    by_cases heq : c' = c
    · subst heq
      rw [hc, Option.some.injEq] at hc'
      subst hc'
      exact ⟨_, Function.update_self _ _ _, hslot⟩
    · exact ⟨call', (Function.update_of_ne heq _ _).trans hc', hslot⟩
  · intro c' call' h'
    rcases of_update_some h' with ⟨rfl, rfl⟩ | ⟨-, h'⟩
    · exact h.misses c' call hc
    · exact h.misses c' call' h'

theorem Exclusive.busy_release (h : Exclusive s) {c : Nat} {call : FleetCall}
    (hc : s.calls c = some call) {slot : Slot} {c' : Nat}
    (hlead : (s.release c call).leading slot = some c') :
    ∃ call', (s.release c call).calls c' = some call' ∧ call'.slot = slot := by
  change (if call.kind = .getOrFetch then Function.update s.leading call.slot none
    else s.leading) slot = some c' at hlead
  rw [if_pos (h.led.kind c call hc)] at hlead
  obtain ⟨hne, hlead⟩ := of_update_none hlead
  obtain ⟨call', hc', hslot⟩ := h.busy slot c' hlead
  have hcc : c' ≠ c := by
    rintro rfl
    rw [hc, Option.some.injEq] at hc'
    exact hne (hc' ▸ hslot.symm)
  exact ⟨call', (Function.update_of_ne hcc _ _).trans hc', hslot⟩

theorem Exclusive.release (h : Exclusive s) {c : Nat} {call : FleetCall}
    (hc : s.calls c = some call) : Exclusive (s.release c call) := by
  refine ⟨h.led.release hc, fun slot c' => h.busy_release hc, ?_⟩
  intro c' call' h'
  exact h.misses c' call' (of_update_none h').2

theorem Exclusive.conclude (h : Exclusive s) {c : Nat} {call : FleetCall}
    (hc : s.calls c = some call) {response : WhoisResponse} {origin : Origin}
    {completed : Nat → Option Nat} (hled : Led (s.conclude c call response origin completed)) :
    Exclusive (s.conclude c call response origin completed) := by
  refine ⟨hled, fun slot c' hlead => h.busy_release hc hlead, ?_⟩
  intro c' call' h'
  obtain ⟨hne, h'⟩ := of_update_none h'
  have hsame : ((s.enter call.slot response origin).caches call'.slot.1).entries call'.slot.2 =
      (s.caches call'.slot.1).entries call'.slot.2 :=
    entries_enter_of_ne (h.led.slot_ne hc h' hne)
  have hmiss := h.misses c' call' h'
  simp only [ExpiryCache.get, ExpiryCache.entry] at hmiss ⊢
  rw [← hsame] at hmiss
  exact hmiss

theorem Exclusive.evicted (h : Exclusive s) (slot : Slot) : Exclusive
    { s with caches := Function.update s.caches slot.1 ((s.caches slot.1).evict slot.2) } := by
  refine ⟨⟨h.led.kind, h.led.leading, h.led.unfinished, h.led.unused⟩, h.busy, ?_⟩
  intro c call hc
  have hmiss := h.misses c call hc
  dsimp only
  by_cases hi : call.slot.1 = slot.1
  · rw [hi, Function.update_self, ExpiryCache.get_evict, ← hi, hmiss, ite_self]
  · rwa [Function.update_of_ne hi]

theorem Led.inserted (h : Led s) {c : Nat} {call : FleetCall} (hc : s.calls c = some call)
    (response : WhoisResponse) (origin : Origin) (t : Nat) :
    Led (s.conclude c call response origin (Function.update s.completed c (some t))) := by
  have hled := h.release hc
  refine ⟨hled.kind, hled.leading, ?_, ?_⟩
  · intro c' call' h'
    change Function.update s.completed c _ c' = none
    rw [Function.update_of_ne (of_update_none h').1]
    exact hled.unfinished c' call' h'
  · intro c' hle
    have hlt := h.lt_next hc
    have hne : c' ≠ c := by
      change s.next ≤ c' at hle
      omega
    change (s.release c call).calls c' = none ∧ Function.update s.completed c _ c' = none
    rw [Function.update_of_ne hne]
    exact hled.unused c' hle

/-- **A step of `get_or_fetch` keeps one call in flight on a slot.** -/
theorem exclusive_act (h : Exclusive s) (hf : FetchAction action) (ha : Acts s action reply s') :
    Exclusive s' := by
  cases ha with
  | idle => exact h
  | hit live => exact h
  | @opened kind i domain miss free =>
    obtain rfl := hf kind i domain rfl
    refine ⟨h.led.opened _ (free rfl), ?_, ?_⟩
    · intro slot c hlead
      change Function.update s.leading _ (some s.next) slot = some c at hlead
      rcases of_update_some hlead with ⟨rfl, rfl⟩ | ⟨-, hlead⟩
      · exact ⟨_, Function.update_self _ _ _, rfl⟩
      · obtain ⟨call, hc, hslot⟩ := h.busy slot c hlead
        have hne : c ≠ s.next := by
          have hlt := h.led.lt_next hc
          omega
        exact ⟨call, (Function.update_of_ne hne _ _).trans hc, hslot⟩
    · intro c call hc
      rcases of_update_some hc with ⟨rfl, rfl⟩ | ⟨-, hc⟩
      · exact miss
      · exact h.misses c call hc
  | evicted slot => exact h.evicted slot
  | asked running phase stored => exact h.proceed running _
  | fetching running phase kind => exact h.proceed running _
  | released running => exact h.release running
  | promoted running phase =>
    have hled := h.led.release running
    exact h.conclude running ⟨hled.kind, hled.leading, hled.unfinished, hled.unused⟩
  | returned running phase => exact h.proceed running _
  | @stored c call response fetchedAt running phase =>
    have hp := h.proceed running (.inserting response fetchedAt)
    exact ⟨⟨hp.led.kind, hp.led.leading, hp.led.unfinished, hp.led.unused⟩, hp.busy, hp.misses⟩
  | inserted running phase => exact h.conclude running (h.led.inserted running _ _ _)

end Fleet

end RustWhois
