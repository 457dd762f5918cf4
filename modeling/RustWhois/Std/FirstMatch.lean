import Mathlib.Data.List.Basic

/-!
# First matches

The first match of a list, seen through a function that all matches agree on, is any match.

* **`find?_map_eq_some_iff`**: it is the value of a match;
* **`find?_map_of_perm`**: the order of the list does not matter.
-/

namespace Rust

variable {α β : Type} {l l' : List α} {p : α → Bool} {f : α → β}

/-- **The first match has the value of every match.** -/
theorem find?_map_eq_some_iff
    (hagree : ∀ a ∈ l, ∀ a' ∈ l, p a = true → p a' = true → f a = f a') {b : β} :
    (l.find? p).map f = some b ↔ ∃ a ∈ l, p a = true ∧ f a = b := by
  constructor
  · intro h
    obtain ⟨a, hfind, rfl⟩ := Option.map_eq_some_iff.mp h
    exact ⟨a, List.mem_of_find?_eq_some hfind, List.find?_some hfind, rfl⟩
  · rintro ⟨a, ha, hp, rfl⟩
    cases hfind : l.find? p with
    | none => exact absurd hp (List.find?_eq_none.mp hfind a ha)
    | some a' =>
      have hf := hagree a' (List.mem_of_find?_eq_some hfind) a ha (List.find?_some hfind) hp
      exact congrArg some hf

/-- **The order does not matter** where all matches have one value. -/
theorem find?_map_of_perm (hperm : l.Perm l')
    (hagree : ∀ a ∈ l, ∀ a' ∈ l, p a = true → p a' = true → f a = f a') :
    (l.find? p).map f = (l'.find? p).map f := by
  have hagree' : ∀ a ∈ l', ∀ a' ∈ l', p a = true → p a' = true → f a = f a' :=
    fun a ha a' ha' => hagree a (hperm.mem_iff.mpr ha) a' (hperm.mem_iff.mpr ha')
  refine Option.ext fun b => ?_
  rw [find?_map_eq_some_iff hagree, find?_map_eq_some_iff hagree']
  simp only [hperm.mem_iff]

end Rust
