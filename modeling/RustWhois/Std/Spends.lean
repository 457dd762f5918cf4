import RustWhois.Std.Effect
import Mathlib.Tactic.Ring

/-!
# What computations spend

`Eff.Spends μ n x`: every run of `x`, failed ones included, raises the measure `μ` of the state by at
most `n`.

* `Spends.bind`, `Spends.attempt`, `Spends.within`: the combinators;
* **`Spends.retry`**: a computation that is retried `k` times spends at most `k + 1` times as much;
* `countP_concat`: a measure that counts the entries of a log.
-/

namespace Rust

namespace Eff

variable {σ ε α β : Type}

def Spends (μ : σ → Nat) (n : Nat) (x : Eff σ ε α) : Prop := ∀ s, μ (x s).2 ≤ μ s + n

namespace Spends

variable {μ : σ → Nat} {m n : Nat} {x : Eff σ ε α} {f : α → Eff σ ε β}

theorem of_eq (hx : Spends μ n x) {s s' : σ} {r : Except ε α} (h : x s = (r, s')) :
    μ s' ≤ μ s + n := by
  have hs := hx s
  rwa [h] at hs

theorem mono (hx : Spends μ n x) (hle : n ≤ m) : Spends μ m x := fun s => by
  have hs := hx s
  omega

theorem pure (a : α) : Spends μ 0 (pure a : Eff σ ε α) := fun _ => Nat.le_refl _

theorem throw (e : ε) : Spends μ 0 (throw e : Eff σ ε α) := fun _ => Nat.le_refl _

theorem lift (r : Except ε α) : Spends μ 0 (lift r : Eff σ ε α) := fun _ => Nat.le_refl _

theorem reads (g : σ → α) : Spends μ 0 (reads g : Eff σ ε α) := fun _ => Nat.le_refl _

theorem modify {g : σ → σ} (h : ∀ s, μ (g s) ≤ μ s + n) : Spends μ n (modify g : Eff σ ε Unit) := h

theorem attempt (hx : Spends μ n x) : Spends μ n (attempt x) := hx

theorem bind (hx : Spends μ m x) (hf : ∀ a, Spends μ n (f a)) : Spends μ (m + n) (x >>= f) := by
  intro s
  rcases h : x s with ⟨e | a, s'⟩
  · rw [bind_of_error h]
    have hs' := hx.of_eq h
    show μ s' ≤ μ s + (m + n)
    omega
  · rw [bind_of_ok h]
    have hs' := hx.of_eq h
    have hfs := hf a s'
    omega

/-- **A retried computation spends as much in each of its attempts.** -/
theorem retry (hx : Spends μ n x) (when : ε → Bool) : ∀ k, Spends μ ((k + 1) * n) (retry x when k)
  | 0 => hx.mono (by omega)
  | k + 1 => by
    intro s
    have hsum : (k + 1 + 1) * n = n + (k + 1) * n := by ring
    rcases h : x s with ⟨e | a, s'⟩
    · have hs' := hx.of_eq h
      rw [retry_of_error h, hsum]
      split_ifs
      · have hrest := retry hx when k s'
        omega
      · show μ s' ≤ μ s + (n + (k + 1) * n)
        omega
    · have hs' := hx.of_eq h
      rw [retry_of_ok h, hsum]
      show μ s' ≤ μ s + (n + (k + 1) * n)
      omega

theorem within {τ : Type} {get : τ → σ} {set : σ → τ → τ} {ν : τ → Nat} (hx : Spends μ n x)
    (hν : ∀ t s, μ s ≤ μ (get t) + n → ν (set s t) ≤ ν t + n) : Spends ν n (within get set x) :=
  fun t => hν t _ (hx (get t))

end Spends

end Eff

theorem countP_concat {α : Type} (p : α → Bool) (l : List α) (a : α) :
    (l ++ [a]).countP p = l.countP p + if p a then 1 else 0 := by
  rw [List.countP_append, List.countP_singleton]

end Rust
