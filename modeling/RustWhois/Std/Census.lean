import Mathlib.Data.List.Count
import Mathlib.Data.List.Nodup
import Mathlib.Data.List.Perm.Subperm
import Mathlib.Data.List.Range
import Mathlib.Logic.Function.Basic

/-!
# Counting the values of a partial map

A partial map from numbers, as of calls by their numbers, all below some `n`.

* `census p f n`: how many numbers below `n` have a value of the kind `p`;
* `census_succ`, **`census_update`**: the count after a number is added, and after one value changed;
* `census_le_length`: the numbers in a list.
-/

namespace Rust

variable {α : Type} {p : α → Bool} {f g : Nat → Option α}

/-- How many numbers below `n` have a value of the kind `p`. -/
def census (p : α → Bool) (f : Nat → Option α) (n : Nat) : Nat :=
  (List.range n).countP fun k => (f k).any p

@[simp] theorem census_zero : census p f 0 = 0 := rfl

theorem census_succ (n : Nat) :
    census p f (n + 1) = census p f n + if (f n).any p then 1 else 0 := by
  simp [census, List.range_succ]

theorem census_congr {n : Nat} (h : ∀ k < n, (f k).any p = (g k).any p) :
    census p f n = census p g n := by
  induction n with
  | zero => rfl
  | succ n ih =>
    rw [census_succ, census_succ, ih fun k hk => h k (by omega), h n (Nat.lt_succ_self n)]

/-- **One value more and the old one less.** -/
theorem census_update {n k : Nat} (hk : k < n) (v : Option α) :
    census p (Function.update f k v) n + (if (f k).any p then 1 else 0) =
      census p f n + if v.any p then 1 else 0 := by
  induction n with
  | zero => omega
  | succ n ih =>
    rw [census_succ, census_succ]
    rcases eq_or_ne k n with rfl | hne
    · have hsame : census p (Function.update f k v) k = census p f k :=
        census_congr fun j hj => by rw [Function.update_of_ne (by omega)]
      rw [Function.update_self, hsame]
      omega
    · have hold := ih (by omega)
      rw [Function.update_of_ne (by omega)]
      omega

theorem census_le_length {l : List Nat} (hl : ∀ k, (f k).any p → k ∈ l) (n : Nat) :
    census p f n ≤ l.length := by
  rw [census, List.countP_eq_length_filter]
  refine (List.Nodup.subperm (List.nodup_range.filter _) fun k hk => ?_).length_le
  exact hl k (List.mem_filter.mp hk).2

end Rust
