import Mathlib.Order.Defs.Unbundled
import Mathlib.Tactic.SplitIfs

/-!
# Fallible computations over a state

`Eff σ ε α` runs from a state to an outcome and a state; the state survives a failure, as the fields
behind a `&self` do when a `?` returns early.

* `bind_eq_ok`, `attempt_eq_ok`: how a run that returned splits into the runs of its steps;
* `mapError_bind`, `mapError_retry`: other errors in place of those of the steps;
* `Eff.Keeps`: a relation between the states before and after every run, closed under the
  combinators (`Keeps.bind`, `Keeps.attempt`, `Keeps.retry`);
* **`retry_eq_ok`**: a retried computation that returned did so in one of its attempts.
-/

namespace Rust

/-- A fallible computation over a state. -/
def Eff (σ ε α : Type) : Type := σ → Except ε α × σ

namespace Eff

variable {σ ε α β : Type}

instance : Monad (Eff σ ε) where
  pure a := fun s => (.ok a, s)
  bind x f := fun s => match x s with
    | (.ok a, s') => f a s'
    | (.error e, s') => (.error e, s')

/-- `Err(e)?`. -/
def throw (e : ε) : Eff σ ε α := fun s => (.error e, s)

/-- The outcome as a value, for a `match` on the `Result`. -/
def attempt (x : Eff σ ε α) : Eff σ ε (Except ε α) := fun s => (.ok (x s).1, (x s).2)

/-- A pure `Result` under `?`. -/
def lift (r : Except ε α) : Eff σ ε α := fun s => (r, s)

/-- A value read off the state. -/
def reads (f : σ → α) : Eff σ ε α := fun s => (.ok (f s), s)

def modify (f : σ → σ) : Eff σ ε Unit := fun s => (.ok (), f s)

/-- `x` is run again while it fails with an error that `when` accepts, at most `n` more times. -/
def retry (x : Eff σ ε α) (when : ε → Bool) : Nat → Eff σ ε α
  | 0 => x
  | n + 1 => fun s => match x s with
    | (.ok a, s') => (.ok a, s')
    | (.error e, s') => if when e then retry x when n s' else (.error e, s')

/-- A computation over a part of the state, read by `get` and written back by `set`. -/
def within {τ : Type} (get : τ → σ) (set : σ → τ → τ) (x : Eff σ ε α) : Eff τ ε α :=
  fun t => ((x (get t)).1, set (x (get t)).2 t)

/-- `map_err` on the outcome. -/
def mapError {ε' : Type} (g : ε → ε') (x : Eff σ ε α) : Eff σ ε' α :=
  fun s => ((x s).1.mapError g, (x s).2)

/-! ## Runs of the combinators -/

@[simp] theorem pure_apply (a : α) (s : σ) : (pure a : Eff σ ε α) s = (.ok a, s) := rfl

@[simp] theorem throw_apply (e : ε) (s : σ) : (throw e : Eff σ ε α) s = (.error e, s) := rfl

@[simp] theorem attempt_apply (x : Eff σ ε α) (s : σ) : attempt x s = (.ok (x s).1, (x s).2) := rfl

@[simp] theorem lift_apply (r : Except ε α) (s : σ) : (lift r : Eff σ ε α) s = (r, s) := rfl

@[simp] theorem reads_apply (f : σ → α) (s : σ) : (reads f : Eff σ ε α) s = (.ok (f s), s) := rfl

@[simp] theorem modify_apply (f : σ → σ) (s : σ) :
    (modify f : Eff σ ε Unit) s = (.ok (), f s) := rfl

theorem run_of_fst {x : Eff σ ε α} {s : σ} {r : Except ε α} (h : (x s).1 = r) :
    x s = (r, (x s).2) := Prod.ext h rfl

theorem bind_of_ok {x : Eff σ ε α} {f : α → Eff σ ε β} {s s' : σ} {a : α} (h : x s = (.ok a, s')) :
    (x >>= f) s = f a s' := by
  change (match x s with | (.ok a, s') => f a s' | (.error e, s') => (.error e, s')) = _
  rw [h]

theorem bind_of_error {x : Eff σ ε α} {f : α → Eff σ ε β} {s s' : σ} {e : ε}
    (h : x s = (.error e, s')) : (x >>= f) s = (.error e, s') := by
  change (match x s with | (.ok a, s') => f a s' | (.error e, s') => (.error e, s')) = _
  rw [h]

/-- **A sequence that returned is a first step that returned and a second one that did.** -/
theorem bind_eq_ok {x : Eff σ ε α} {f : α → Eff σ ε β} {s s'' : σ} {b : β} :
    (x >>= f) s = (.ok b, s'') ↔ ∃ a s', x s = (.ok a, s') ∧ f a s' = (.ok b, s'') := by
  constructor
  · intro h
    rcases hx : x s with ⟨e | a, s'⟩
    · rw [bind_of_error hx] at h
      cases h
    · rw [bind_of_ok hx] at h
      exact ⟨a, s', rfl, h⟩
  · rintro ⟨a, s', hx, hf⟩
    rw [bind_of_ok hx, hf]

theorem attempt_eq_ok {x : Eff σ ε α} {s s' : σ} {r : Except ε α} :
    attempt x s = (.ok r, s') ↔ x s = (r, s') := by
  simp [Prod.ext_iff]

theorem lift_eq_ok {r : Except ε α} {s s' : σ} {a : α} :
    lift r s = (.ok a, s') ↔ r = .ok a ∧ s = s' := by
  simp

theorem within_eq {τ : Type} {get : τ → σ} {set : σ → τ → τ} {x : Eff σ ε α} {t t' : τ}
    {r : Except ε α} (h : within get set x t = (r, t')) :
    ∃ s', x (get t) = (r, s') ∧ t' = set s' t := by
  obtain ⟨hr, ht⟩ := Prod.ext_iff.mp h
  exact ⟨(x (get t)).2, run_of_fst hr, ht.symm⟩

theorem retry_succ (x : Eff σ ε α) (when : ε → Bool) (n : Nat) (s : σ) :
    retry x when (n + 1) s = match x s with
      | (.ok a, s') => (.ok a, s')
      | (.error e, s') => if when e then retry x when n s' else (.error e, s') := rfl

theorem retry_of_ok {x : Eff σ ε α} {when : ε → Bool} {n : Nat} {s s' : σ} {a : α}
    (h : x s = (.ok a, s')) : retry x when n s = (.ok a, s') := by
  cases n with
  | zero => exact h
  | succ n => rw [retry_succ, h]

theorem retry_of_error {x : Eff σ ε α} {when : ε → Bool} {n : Nat} {s s' : σ} {e : ε}
    (h : x s = (.error e, s')) :
    retry x when (n + 1) s = if when e then retry x when n s' else (.error e, s') := by
  rw [retry_succ, h]

/-- **A retried run that returned ends in a run of the computation that did.** -/
theorem retry_eq_ok {x : Eff σ ε α} {when : ε → Bool} : ∀ {n : Nat} {s s' : σ} {a : α},
    retry x when n s = (.ok a, s') → ∃ s₀, x s₀ = (.ok a, s')
  | 0, s, _, _, h => ⟨s, h⟩
  | n + 1, s, s', a, h => by
    rcases hx : x s with ⟨e | b, s₁⟩
    · rw [retry_of_error hx] at h
      split_ifs at h
      · exact retry_eq_ok h
      · cases h
    · rw [retry_of_ok hx] at h
      exact ⟨s, hx.trans h⟩

section MapError

variable {ε' : Type} {g : ε → ε'}

theorem mapError_of_ok {x : Eff σ ε α} {s s' : σ} {a : α} (h : x s = (.ok a, s')) :
    mapError g x s = (.ok a, s') := by
  rw [mapError, h]
  rfl

theorem mapError_of_error {x : Eff σ ε α} {s s' : σ} {e : ε} (h : x s = (.error e, s')) :
    mapError g x s = (.error (g e), s') := by
  rw [mapError, h]
  rfl

theorem mapError_bind (x : Eff σ ε α) (f : α → Eff σ ε β) :
    mapError g (x >>= f) = mapError g x >>= fun a => mapError g (f a) := by
  funext s
  rcases h : x s with ⟨e | a, s'⟩
  · rw [bind_of_error (mapError_of_error h), mapError_of_error (bind_of_error h)]
  · rw [bind_of_ok (mapError_of_ok h), mapError, bind_of_ok h]
    rfl

/-- Errors are mapped before or after the attempts, if the new errors are retried as the old. -/
theorem mapError_retry {x : Eff σ ε α} {when : ε → Bool} {when' : ε' → Bool}
    (hwhen : ∀ e, when' (g e) = when e) (n : Nat) :
    mapError g (retry x when n) = retry (mapError g x) when' n := by
  induction n with
  | zero => rfl
  | succ n ih =>
    funext s
    rcases h : x s with ⟨e | a, s'⟩
    · rw [retry_of_error (mapError_of_error h), hwhen, mapError, retry_of_error h, ← ih]
      split_ifs <;> rfl
    · rw [retry_of_ok (mapError_of_ok h), mapError_of_ok (retry_of_ok h)]

end MapError

/-! ## Relations kept by every run -/

/-- Every run of `x`, failed ones included, relates its first and last state by `R`. -/
def Keeps (R : σ → σ → Prop) (x : Eff σ ε α) : Prop := ∀ s, R s (x s).2

namespace Keeps

variable {R : σ → σ → Prop} {x : Eff σ ε α} {f : α → Eff σ ε β}

theorem of_eq (hx : Keeps R x) {s s' : σ} {r : Except ε α} (h : x s = (r, s')) : R s s' := by
  have := hx s
  rwa [h] at this

theorem modify {g : σ → σ} (hg : ∀ s, R s (g s)) : Keeps R (modify g : Eff σ ε Unit) := hg

theorem attempt (hx : Keeps R x) : Keeps R (attempt x) := hx

section Refl

variable [Std.Refl R]

theorem pure (a : α) : Keeps R (pure a : Eff σ ε α) := fun s => refl_of R s

theorem throw (e : ε) : Keeps R (throw e : Eff σ ε α) := fun s => refl_of R s

theorem lift (r : Except ε α) : Keeps R (lift r : Eff σ ε α) := fun s => refl_of R s

theorem reads (g : σ → α) : Keeps R (reads g : Eff σ ε α) := fun s => refl_of R s

end Refl

section Trans

variable [IsTrans σ R]

theorem bind (hx : Keeps R x) (hf : ∀ a, Keeps R (f a)) : Keeps R (x >>= f) := by
  intro s
  rcases h : x s with ⟨e | a, s'⟩
  · rw [bind_of_error h]
    exact hx.of_eq h
  · rw [bind_of_ok h]
    exact trans_of R (hx.of_eq h) (hf a s')

theorem retry (hx : Keeps R x) (when : ε → Bool) : ∀ n, Keeps R (retry x when n)
  | 0 => hx
  | n + 1 => by
    intro s
    rcases h : x s with ⟨e | a, s'⟩
    · rw [retry_of_error h]
      split_ifs
      · exact trans_of R (hx.of_eq h) (retry hx when n s')
      · exact hx.of_eq h
    · rw [retry_of_ok h]
      exact hx.of_eq h

end Trans

end Keeps

end Eff

end Rust
