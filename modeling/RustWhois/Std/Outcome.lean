import RustWhois.Std.Effect

/-!
# What computations end with

`Eff.Ends P Q x`: from every state, a run of `x` fails with an error in `P` or returns a value in
`Q`.

* `Outcome P Q`: a result of that kind;
* `Ends.bind`, `Ends.retry`, `Ends.within`: the combinators;
* **`Ends.attempt`**: a result that is caught is a value, and nothing is raised;
* `replay`: a computation that has the results of a script;
* **`retry_replay`**: what a retried computation ends with, from the results of its attempts.
-/

namespace Rust

/-- An error in `P`, or a value in `Q`. -/
def Outcome {ε α : Type} (P : ε → Prop) (Q : α → Prop) : Except ε α → Prop
  | .error e => P e
  | .ok a => Q a

namespace Eff

variable {σ ε α β : Type}

def Ends (P : ε → Prop) (Q : α → Prop) (x : Eff σ ε α) : Prop := ∀ s, Outcome P Q (x s).1

namespace Ends

variable {P P' : ε → Prop} {Q Q' : α → Prop} {R : β → Prop} {x : Eff σ ε α} {f : α → Eff σ ε β}

theorem of_error (hx : Ends P Q x) {s s' : σ} {e : ε} (h : x s = (.error e, s')) : P e := by
  have hs := hx s
  rwa [h] at hs

theorem of_ok (hx : Ends P Q x) {s s' : σ} {a : α} (h : x s = (.ok a, s')) : Q a := by
  have hs := hx s
  rwa [h] at hs

theorem mono (hx : Ends P Q x) (hP : ∀ e, P e → P' e) (hQ : ∀ a, Q a → Q' a) : Ends P' Q' x := by
  intro s
  have hs := hx s
  cases hr : (x s).1 with
  | error e =>
    rw [hr] at hs
    exact hP e hs
  | ok a =>
    rw [hr] at hs
    exact hQ a hs

theorem pure {a : α} (h : Q a) : Ends P Q (pure a : Eff σ ε α) := fun _ => h

theorem throw {e : ε} (h : P e) : Ends P Q (throw e : Eff σ ε α) := fun _ => h

theorem lift {r : Except ε α} (h : Outcome P Q r) : Ends P Q (lift r : Eff σ ε α) := fun _ => h

theorem reads {g : σ → α} (h : ∀ s, Q (g s)) : Ends P Q (reads g : Eff σ ε α) := h

theorem modify {Q : Unit → Prop} (g : σ → σ) (h : Q ()) : Ends P Q (modify g : Eff σ ε Unit) :=
  fun _ => h

/-- **What is caught is not raised.** -/
theorem attempt (hx : Ends P Q x) : Ends P' (Outcome P Q) (attempt x) := hx

theorem bind (hx : Ends P Q x) (hf : ∀ a, Q a → Ends P R (f a)) : Ends P R (x >>= f) := by
  intro s
  rcases h : x s with ⟨e | a, s'⟩
  · rw [bind_of_error h]
    exact hx.of_error h
  · rw [bind_of_ok h]
    exact hf a (hx.of_ok h) s'

theorem retry (hx : Ends P Q x) (when : ε → Bool) : ∀ n, Ends P Q (retry x when n)
  | 0 => hx
  | n + 1 => by
    intro s
    rcases h : x s with ⟨e | a, s'⟩
    · rw [retry_of_error h]
      split_ifs
      · exact retry hx when n s'
      · exact hx.of_error h
    · rw [retry_of_ok h]
      exact hx.of_ok h

theorem within {τ : Type} {get : τ → σ} {set : σ → τ → τ} (hx : Ends P Q x) :
    Ends P Q (within get set x) := fun t => hx (get t)

end Ends

/-- The next result of a script, or the error `e` after the last one. -/
def replay (e : ε) : Eff (List (Except ε α)) ε α
  | [] => (.error e, [])
  | r :: rs => (r, rs)

/-- **Retries pass over the errors that they retry, and end with the first other result**, or with the
last result if there are no more of them. -/
theorem retry_replay {e : ε} {when : ε → Bool} {errors : List ε} (herrors : ∀ e ∈ errors, when e)
    {n : Nat} {r : Except ε α} (hr : ∀ e, r = .error e → when e → n = 0) :
    retry (replay e) when (errors.length + n) (errors.map .error ++ [r]) = (r, []) := by
  induction errors with
  | nil =>
    have hreplay : replay e [r] = (r, []) := rfl
    rw [List.length_nil, Nat.zero_add, List.map_nil, List.nil_append]
    cases r with
    | ok a => exact retry_of_ok hreplay
    | error e' =>
      cases n with
      | zero => exact hreplay
      | succ n =>
        rw [retry_of_error hreplay, if_neg]
        intro hwhen
        cases hr e' rfl hwhen
  | cons e' errors ih =>
    obtain ⟨hwhen, herrors⟩ := List.forall_mem_cons.mp herrors
    have hreplay : replay e (.error e' :: (errors.map .error ++ [r])) =
        (.error e', errors.map .error ++ [r]) := rfl
    rw [List.length_cons, Nat.add_right_comm, List.map_cons, List.cons_append,
      retry_of_error hreplay, if_pos hwhen]
    exact ih herrors

end Eff

end Rust
