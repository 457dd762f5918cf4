import Mathlib.Logic.Function.Basic
import Mathlib.Tactic.SplitIfs

/-!
# Caches with an expiry of their own for each entry

An `Expiry` gives an entry its lifetime: `afterCreate` when its key has no live entry, `afterUpdate`
when it replaces one, which keeps the remaining lifetime unless it is overridden. Times and
durations are in nanoseconds.

* `ExpiryCache.get`, `ExpiryCache.insert`, `ExpiryCache.evict`;
* `ExpiryCache.Avoids`: no value of a kind is served from now on;
* **`avoids_insert_iff`**: a kind of value with a zero lifetime is avoided until one replaces a live
  entry;
* `Coalescing`: what is assumed of the callers that initialise a key together.
-/

namespace Rust

/-- The lifetimes of entries; `none` never expires. -/
structure Expiry (κ ν : Type) where
  afterCreate : κ → ν → Option Nat
  afterUpdate : κ → ν → Option Nat → Option Nat := fun _ _ remaining => remaining

structure ExpiryEntry (ν : Type) where
  value : ν
  expiresAt : Option Nat
  deriving DecidableEq

namespace ExpiryEntry

variable {ν : Type} (e : ExpiryEntry ν)

/-- The entry expires when its time is reached. -/
def live (now : Nat) : Bool := e.expiresAt.all (now < ·)

/-- The remaining lifetime. -/
def remaining (now : Nat) : Option Nat := e.expiresAt.map (· - now)

theorem add_remaining {e : ExpiryEntry ν} {now : Nat} (h : e.live now = true) :
    (e.remaining now).map (now + ·) = e.expiresAt := by
  unfold live at h
  unfold remaining
  cases he : e.expiresAt with
  | none => rfl
  | some t =>
    rw [he] at h
    have hlt : now < t := by simpa using h
    simp only [Option.map_some, Option.some.injEq]
    omega

end ExpiryEntry

structure ExpiryCache (κ ν : Type) where
  entries : κ → Option (ExpiryEntry ν)

namespace ExpiryCache

variable {κ ν : Type} [DecidableEq κ] (c : ExpiryCache κ ν)

def empty : ExpiryCache κ ν := ⟨fun _ => none⟩

/-- The entry of a key, unless it has expired. -/
def entry (now : Nat) (k : κ) : Option (ExpiryEntry ν) := (c.entries k).filter (·.live now)

def get (now : Nat) (k : κ) : Option ν := (c.entry now k).map (·.value)

/-- The entry that an inserted value becomes. -/
def inserted (expiry : Expiry κ ν) (now : Nat) (k : κ) (v : ν) : ExpiryEntry ν :=
  let lifetime := match c.entry now k with
    | some old => expiry.afterUpdate k v (old.remaining now)
    | none => expiry.afterCreate k v
  ⟨v, lifetime.map (now + ·)⟩

def insert (expiry : Expiry κ ν) (now : Nat) (k : κ) (v : ν) : ExpiryCache κ ν :=
  ⟨Function.update c.entries k (some (c.inserted expiry now k v))⟩

/-- The cache drops an entry, for its capacity say. -/
def evict (k : κ) : ExpiryCache κ ν := ⟨Function.update c.entries k none⟩

variable {c} {expiry : Expiry κ ν} {now now' : Nat} {k k' : κ} {v : ν}

omit [DecidableEq κ] in
@[simp] theorem get_empty : (empty : ExpiryCache κ ν).get now k = none := rfl

omit [DecidableEq κ] in
theorem get_eq_none_of_le (hle : now ≤ now') (h : c.get now k = none) : c.get now' k = none := by
  simp only [get, entry, Option.map_eq_none_iff, Option.filter_eq_none_iff, ExpiryEntry.live,
    Option.all_eq_true, decide_eq_true_eq, not_forall] at h ⊢
  intro e he
  obtain ⟨t, ht, hlt⟩ := h e he
  exact ⟨t, ht, by omega⟩

theorem get_evict : (c.evict k).get now k' = if k' = k then none else c.get now k' := by
  by_cases hk : k' = k <;> simp [get, entry, evict, hk]

theorem get_insert_of_ne (h : k' ≠ k) (t : Nat) :
    (c.insert expiry now k v).get t k' = c.get t k' := by
  simp [get, entry, insert, h]

theorem get_insert_self (t : Nat) : (c.insert expiry now k v).get t k =
    if (c.inserted expiry now k v).live t then some v else none := by
  simp only [get, entry, insert, Function.update_self, Option.filter_some]
  split_ifs <;> rfl

/-- A value that replaces a live entry is served, and lives as long as that would have. -/
theorem get_insert_of_live (hkeep : ∀ r, expiry.afterUpdate k v r = r) (h : c.get now k ≠ none) :
    (c.insert expiry now k v).get now k = some v := by
  obtain ⟨w, hw⟩ := Option.ne_none_iff_exists'.mp h
  obtain ⟨old, hold, -⟩ := Option.map_eq_some_iff.mp hw
  have hlive : old.live now = true := (Option.filter_eq_some_iff.mp hold).2
  have hins : c.inserted expiry now k v = ⟨v, old.expiresAt⟩ := by
    simp only [inserted, hold, hkeep, old.add_remaining hlive]
  rw [get_insert_self, hins]
  exact if_pos hlive

omit [DecidableEq κ] in
/-- A value with a zero lifetime that replaces no live entry is never served. -/
theorem live_inserted_of_zero (hzero : expiry.afterCreate k v = some 0) (h : c.get now k = none)
    {t : Nat} (ht : now ≤ t) : (c.inserted expiry now k v).live t = false := by
  have hnone : c.entry now k = none := by simpa [get] using h
  simp only [inserted, hnone, hzero, ExpiryEntry.live, Option.map_some]
  simpa using ht

/-! ## Values that are never served -/

/-- From `now` on, no value of the kind `P` is served. -/
def Avoids (P : ν → Prop) (now : Nat) (c : ExpiryCache κ ν) : Prop :=
  ∀ t, now ≤ t → ∀ k v, c.get t k = some v → ¬ P v

variable {P : ν → Prop}

omit [DecidableEq κ] in
theorem avoids_empty : Avoids P now (empty : ExpiryCache κ ν) := by
  intro t _ k v h
  simp at h

omit [DecidableEq κ] in
theorem Avoids.mono (h : Avoids P now c) (hle : now ≤ now') : Avoids P now' c :=
  fun t ht => h t (Nat.le_trans hle ht)

theorem Avoids.evict (h : Avoids P now c) (k : κ) : Avoids P now (c.evict k) := by
  intro t ht k' v hv
  rw [get_evict] at hv
  split_ifs at hv
  exact h t ht k' v hv

/-- **After an insert, a kind of value with a zero lifetime is avoided exactly if the value is of
another kind or replaces no live entry.** -/
theorem avoids_insert_iff (hc : Avoids P now c) (hzero : P v → expiry.afterCreate k v = some 0)
    (hkeep : ∀ r, expiry.afterUpdate k v r = r) :
    Avoids P now (c.insert expiry now k v) ↔ (P v → c.get now k = none) := by
  constructor
  · intro h hv
    by_contra hlive
    exact h now (Nat.le_refl now) k v (get_insert_of_live hkeep hlive) hv
  · intro h t ht k' v' hv'
    by_cases hk : k' = k
    · subst hk
      rw [get_insert_self] at hv'
      split_ifs at hv' with hlive
      cases hv'
      intro hP
      rw [live_inserted_of_zero (hzero hP) (h hP) ht] at hlive
      cases hlive
    · rw [get_insert_of_ne hk] at hv'
      exact hc t ht k' v' hv'

end ExpiryCache

/-! ## Callers that initialise a key -/

/-- What a caller finds at its key. -/
inductive Entering (ι ν : Type)
  | serves (value : ν)
  /-- Another caller initialises the key. -/
  | waits (leader : ι)
  | leads

/-- What becomes of a caller that waits for another one. -/
inductive Waking (ρ : Type)
  | shares (outcome : ρ)
  | waits
  | restarts

/-- The callers of `or_try_insert_with` at one key: one of them initialises it, and the others wait for
that one. -/
structure Coalescing (ι ν ρ : Type) where
  /-- A caller comes, where there are a live value and a caller that initialises the key, or not. -/
  enter : Option ν → Option ι → Entering ι ν
  /-- A caller looks at the one it waits for: its outcome, and whether it still runs. -/
  wake : Option ρ → Bool → Waking ρ
  enter_live : ∀ value leader, enter (some value) leader = .serves value
  enter_busy : ∀ leader, enter none (some leader) = .waits leader
  enter_free : enter none none = .leads
  wake_ended : ∀ outcome running, wake (some outcome) running = .shares outcome
  wake_running : wake none true = .waits
  /-- The caller that is waited for was dropped before it had an outcome. -/
  wake_dropped : wake none false = .restarts

namespace Coalescing

variable {ι ν ρ : Type}

/-- Callers as they are assumed to be. -/
def documented : Coalescing ι ν ρ where
  enter
    | some value, _ => .serves value
    | none, some leader => .waits leader
    | none, none => .leads
  wake
    | some outcome, _ => .shares outcome
    | none, running => if running then .waits else .restarts
  enter_live _ _ := rfl
  enter_busy _ := rfl
  enter_free := rfl
  wake_ended _ _ := rfl
  wake_running := rfl
  wake_dropped := rfl

end Coalescing

end Rust
