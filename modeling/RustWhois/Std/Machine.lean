import Mathlib.Data.List.Induction
import Mathlib.Logic.Function.Basic

/-!
# Machines and their runs

A machine takes its state, on an event, to the next state and answers with an output. A run is the
list of its steps, from a given state and for a given list of events.

* `Machine.run`, `Machine.final`: the steps of a run, the state it ends in;
* `Machine.run_eq_append_cons`: a step, with the steps before it;
* **`Machine.run_induction`**: what every step preserves and yields, a whole run does, under a
  condition `C` on the steps taken;
* **`Machine.history_induction`**: a relation between the steps taken and the state they lead to;
* `Machine.history_of_step`, `Machine.final_of_step`: the same for all runs, and for the state alone;
* **`Machine.lockstep`**: related states of two machines;
* `Since`: what holds of all steps behind those of a kind;
* `of_update_none`, `of_update_some`: the values of a partial map, as of calls by their numbers, after
  one of them changed.
-/

namespace Rust

/-- A state machine with outputs. -/
structure Machine (σ ε ο : Type) where
  next : σ → ε → ο × σ

/-- One step of a run. -/
structure Machine.Step (σ ε ο : Type) where
  pre : σ
  event : ε
  out : ο
  post : σ

namespace Machine

variable {σ ε ο : Type} (m : Machine σ ε ο)

/-- The step of the machine from `s` on `e`. -/
def step (s : σ) (e : ε) : Step σ ε ο := ⟨s, e, (m.next s e).1, (m.next s e).2⟩

@[simp] theorem step_pre (s : σ) (e : ε) : (m.step s e).pre = s := rfl

@[simp] theorem step_event (s : σ) (e : ε) : (m.step s e).event = e := rfl

@[simp] theorem step_out (s : σ) (e : ε) : (m.step s e).out = (m.next s e).1 := rfl

@[simp] theorem step_post (s : σ) (e : ε) : (m.step s e).post = (m.next s e).2 := rfl

/-- The steps from `s` on the events. -/
def run (s : σ) : List ε → List (Step σ ε ο)
  | [] => []
  | e :: es => m.step s e :: run (m.next s e).2 es

/-- The state after the events. -/
def final (s : σ) : List ε → σ
  | [] => s
  | e :: es => final (m.next s e).2 es

@[simp] theorem run_nil (s : σ) : m.run s [] = [] := rfl

theorem run_cons (s : σ) (e : ε) (es : List ε) :
    m.run s (e :: es) = m.step s e :: m.run (m.next s e).2 es := rfl

theorem run_append (s : σ) (es es' : List ε) :
    m.run s (es ++ es') = m.run s es ++ m.run (m.final s es) es' := by
  induction es generalizing s with
  | nil => rfl
  | cons e es ih =>
    rw [List.cons_append, run_cons, run_cons, List.cons_append, ih]
    rfl

theorem final_append (s : σ) (es es' : List ε) :
    m.final s (es ++ es') = m.final (m.final s es) es' := by
  induction es generalizing s with
  | nil => rfl
  | cons e es ih => exact ih _

theorem run_concat (s : σ) (es : List ε) (e : ε) :
    m.run s (es ++ [e]) = m.run s es ++ [m.step (m.final s es) e] := m.run_append s es [e]

/-- **Every step of a run is taken from the state that the steps before it lead to.** -/
theorem run_eq_append_cons {s : σ} {es : List ε} {past rest : List (Step σ ε ο)}
    {x : Step σ ε ο} (h : m.run s es = past ++ x :: rest) :
    ∃ es' e, past = m.run s es' ∧ x = m.step (m.final s es') e := by
  induction past generalizing s es with
  | nil =>
    cases es with
    | nil => cases h
    | cons e es =>
      rw [run_cons, List.nil_append] at h
      exact ⟨[], e, rfl, (List.cons.inj h).1.symm⟩
  | cons y past ih =>
    cases es with
    | nil => cases h
    | cons e es =>
      rw [run_cons, List.cons_append] at h
      obtain ⟨hy, hrest⟩ := List.cons.inj h
      obtain ⟨es', e', hpast, hx⟩ := ih hrest
      exact ⟨e :: es', e', by rw [run_cons, hy, hpast], hx⟩

/-- A run, split at any place, is a run and another one from where that ends. -/
theorem run_eq_append {s : σ} {es : List ε} {past rest : List (Step σ ε ο)}
    (h : m.run s es = past ++ rest) : ∃ es₁ es₂, es = es₁ ++ es₂ ∧ past = m.run s es₁ ∧
      rest = m.run (m.final s es₁) es₂ := by
  induction past generalizing s es with
  | nil => exact ⟨[], es, rfl, rfl, h.symm⟩
  | cons y past ih =>
    cases es with
    | nil => cases h
    | cons e es =>
      rw [run_cons, List.cons_append] at h
      obtain ⟨hy, hrest⟩ := List.cons.inj h
      obtain ⟨es₁, es₂, rfl, hpast, htail⟩ := ih hrest
      exact ⟨e :: es₁, es₂, rfl, by rw [run_cons, hy, hpast], htail⟩

theorem forall_split {α : Type} {l : List α} {P : List α → α → Prop}
    (h : ∀ n : Fin l.length, P (l.take n) (l.get n)) (past : List α) (x : α) (rest : List α)
    (hl : l = past ++ x :: rest) : P past x := by
  subst hl
  have hx := h ⟨past.length, by simp⟩
  simpa using hx

theorem event_mem_of_mem_run {s : σ} {es : List ε} {x : Step σ ε ο} (hx : x ∈ m.run s es) :
    x.event ∈ es := by
  induction es generalizing s with
  | nil => cases hx
  | cons e es ih =>
    rcases List.mem_cons.mp hx with rfl | hx
    · exact List.mem_cons_self
    · exact List.mem_cons_of_mem _ (ih hx)

/-! ## The rules -/

variable {m} {I : σ → Prop} {C : σ → ε → Prop}

/-- **What every step preserves and yields, a run does.** -/
theorem run_induction {Q : Step σ ε ο → Prop}
    (hstep : ∀ s e, I s → C s e → I (m.next s e).2 ∧ Q (m.step s e)) {s : σ} {es : List ε}
    (hs : I s) (hC : ∀ x ∈ m.run s es, C x.pre x.event) : ∀ x ∈ m.run s es, Q x := by
  induction es generalizing s with
  | nil => simp
  | cons e es ih =>
    rw [run_cons] at hC ⊢
    obtain ⟨hi, hq⟩ := hstep s e hs (hC _ List.mem_cons_self)
    intro x hx
    rcases List.mem_cons.mp hx with rfl | hx
    · exact hq
    · exact ih hi (fun y hy => hC y (List.mem_cons_of_mem _ hy)) x hx

/-- **What a state remembers of its history.** `H` relates the steps taken to the state they lead
to. -/
theorem history_induction {H : List (Step σ ε ο) → σ → Prop}
    (hstep : ∀ past s e, H past s → C s e → H (past ++ [m.step s e]) (m.next s e).2) {s : σ}
    (hs : H [] s) {es : List ε} (hC : ∀ x ∈ m.run s es, C x.pre x.event) :
    H (m.run s es) (m.final s es) := by
  induction es using List.reverseRecOn with
  | nil => exact hs
  | append_singleton es e ih =>
    rw [run_concat] at hC ⊢
    rw [final_append]
    have hpast : H (m.run s es) (m.final s es) :=
      ih fun x hx => hC x (List.mem_append_left _ hx)
    exact hstep _ _ e hpast (hC _ (List.mem_append_right _ List.mem_cons_self))

theorem history_of_step {H : List (Step σ ε ο) → σ → Prop}
    (hstep : ∀ past s e, H past s → H (past ++ [m.step s e]) (m.next s e).2) {s : σ} (hs : H [] s)
    (es : List ε) : H (m.run s es) (m.final s es) :=
  m.history_induction (C := fun _ _ => True) (fun past s e h _ => hstep past s e h) hs
    fun _ _ => trivial

theorem final_of_step {I : σ → Prop} (hstep : ∀ s e, I s → I (m.next s e).2) {s : σ} (hs : I s)
    (es : List ε) : I (m.final s es) :=
  m.history_of_step (H := fun _ s => I s) (fun _ => hstep) hs es

/-- **Two machines in step.** If, on the events with `P`, related states go to related states with one
output, so do runs. -/
theorem lockstep {τ : Type} {m' : Machine τ ε ο} {R : σ → τ → Prop} {P : ε → Prop}
    (hstep : ∀ s t e, R s t → P e →
      (m.next s e).1 = (m'.next t e).1 ∧ R (m.next s e).2 (m'.next t e).2) {s : σ} {t : τ}
    (h : R s t) {es : List ε} (hP : ∀ e ∈ es, P e) :
    (m.run s es).map Step.out = (m'.run t es).map Step.out ∧ R (m.final s es) (m'.final t es) := by
  induction es generalizing s t with
  | nil => exact ⟨rfl, h⟩
  | cons e es ih =>
    obtain ⟨hout, hnext⟩ := hstep s t e h (hP e List.mem_cons_self)
    obtain ⟨houts, hfinal⟩ := ih hnext fun e' he' => hP e' (List.mem_cons_of_mem _ he')
    refine ⟨?_, hfinal⟩
    rw [run_cons, run_cons, List.map_cons, List.map_cons, houts, step_out, step_out, hout]

end Machine

/-! ## Since -/

section Since

variable {α : Type} {P P' Q : α → Prop} {l : List α}

/-- Behind every member of the kind `P`, all are of the kind `Q`. -/
def Since (P Q : α → Prop) (l : List α) : Prop := l.Pairwise fun y z => P y → Q z

instance [DecidablePred P] [DecidablePred Q] : Decidable (Since P Q l) :=
  inferInstanceAs (Decidable (l.Pairwise _))

theorem since_of_none (h : ∀ y ∈ l, ¬ P y) : Since P Q l :=
  List.pairwise_of_forall_mem_list fun y hy _ _ hP => absurd hP (h y hy)

theorem Since.mono (h : Since P Q l) (himp : ∀ y, P' y → P y) : Since P' Q l :=
  List.Pairwise.imp (fun hyz hy => hyz (himp _ hy)) h

theorem since_concat {x : α} :
    Since P Q (l ++ [x]) ↔ Since P Q l ∧ ((∃ y ∈ l, P y) → Q x) := by
  unfold Since
  rw [List.pairwise_append]
  simp only [List.pairwise_singleton, List.mem_singleton, forall_eq, true_and, forall_exists_index,
    and_imp]

end Since

/-! ## Partial maps -/

theorem of_update_none {α β : Type} [DecidableEq α] {f : α → Option β} {a b : α} {y : β}
    (h : Function.update f a none b = some y) : b ≠ a ∧ f b = some y := by
  by_cases hb : b = a
  · subst hb
    rw [Function.update_self] at h
    cases h
  · rw [Function.update_of_ne hb] at h
    exact ⟨hb, h⟩

theorem of_update_some {α β : Type} [DecidableEq α] {f : α → Option β} {a b : α} {x y : β}
    (h : Function.update f a (some x) b = some y) : b = a ∧ y = x ∨ b ≠ a ∧ f b = some y := by
  by_cases hb : b = a
  · subst hb
    rw [Function.update_self] at h
    cases h
    exact .inl ⟨rfl, rfl⟩
  · rw [Function.update_of_ne hb] at h
    exact .inr ⟨hb, h⟩

end Rust
