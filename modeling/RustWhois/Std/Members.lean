import Mathlib.Data.List.Count

/-!
# Members of a record

A record read from a list of named members, in any order, that may have others among them.

* `Distinct`: the names that are known are given at most once;
* `member`: what is read of a member, or what stands for a missing one;
* `Gives`: a list gives the members of a record;
* **`Gives.member_eq`**: what is read of such a list is in the record.
-/

namespace Rust

variable {α β γ : Type} [DecidableEq α] {names : List α} {members fields : List (α × β)}
  {omittable : α × β → Prop} {name : α} {v : β}

/-- The names that are known are given at most once. -/
def Distinct (names given : List α) : Prop := ∀ name ∈ names, given.count name ≤ 1

instance (names given : List α) : Decidable (Distinct names given) := by
  unfold Distinct; infer_instance

theorem Distinct.of_perm {given given' kept newer : List α} (h : Distinct names given)
    (hkept : kept.Sublist given) (hnewer : ∀ k ∈ newer, k ∉ names)
    (hperm : given'.Perm (kept ++ newer)) : Distinct names given' := by
  intro name hname
  have hnone : newer.count name = 0 := by
    rw [List.count_eq_zero]
    exact fun hmem => hnewer name hmem hname
  rw [hperm.count_eq, List.count_append, hnone, Nat.add_zero]
  exact Nat.le_trans (hkept.count_le name) (h name hname)

/-- The value read of the member `name`, or what stands for a missing one. -/
def member (read : β → Option γ) (missing : Option γ) (fields : List (α × β)) (name : α) :
    Option γ :=
  match fields.lookup name with
  | some v => read v
  | none => missing

theorem lookup_eq_some_iff_mem (h : Distinct names (fields.map Prod.fst)) (hname : name ∈ names) :
    fields.lookup name = some v ↔ (name, v) ∈ fields := by
  have hcount := h name hname
  clear h
  induction fields with
  | nil => simp
  | cons field fields ih =>
    obtain ⟨k, w⟩ := field
    rw [List.map_cons, List.count_cons] at hcount
    rw [List.lookup_cons, List.mem_cons]
    by_cases hk : name = k
    · subst hk
      -- no other member has the name
      have hnone : (name, v) ∉ fields := by
        intro hmem
        have hpos : 0 < (fields.map Prod.fst).count name :=
          List.count_pos_iff.mpr (List.mem_map_of_mem (f := Prod.fst) hmem)
        simp only [beq_self_eq_true, if_true] at hcount
        omega
      simp [hnone, eq_comm]
    · have hbeq : (name == k) = false := beq_false_of_ne hk
      rw [hbeq]
      simp only [Prod.mk.injEq, hk, false_and, false_or]
      exact ih (by omega)

/-- The list gives the members of a record, among others, but for some that may be left out. -/
structure Gives (names : List α) (members : List (α × β)) (omittable : α × β → Prop)
    (fields : List (α × β)) : Prop where
  distinct : Distinct names (fields.map Prod.fst)
  known : ∀ m ∈ fields, m.1 ∈ names → m ∈ members
  given : ∀ m ∈ members, m ∈ fields ∨ omittable m

theorem Gives.refl (h : Distinct names (members.map Prod.fst)) (omittable : α × β → Prop) :
    Gives names members omittable members :=
  ⟨h, fun _ hm _ => hm, fun _ hm => .inl hm⟩

/-- **A member is read as it is in the record.** -/
theorem Gives.member_eq (h : Gives names members omittable fields)
    (hmembers : Distinct names (members.map Prod.fst)) (hname : name ∈ names)
    (hv : (name, v) ∈ members) {read : β → Option γ} {missing : Option γ} {c : γ}
    (hread : read v = some c) (hmissing : omittable (name, v) → missing = some c) :
    member read missing fields name = some c := by
  rw [member]
  cases hlookup : fields.lookup name with
  | none =>
    refine hmissing ((h.given _ hv).resolve_left fun hmem => ?_)
    rw [(lookup_eq_some_iff_mem h.distinct hname).mpr hmem] at hlookup
    cases hlookup
  | some w =>
    have hw := h.known _ ((lookup_eq_some_iff_mem h.distinct hname).mp hlookup) hname
    rw [← lookup_eq_some_iff_mem hmembers hname] at hv hw
    rw [← Option.some.inj (hv.symm.trans hw)]
    exact hread

theorem Gives.member_eq_missing (h : Gives names members omittable fields) (hname : name ∈ names)
    (hno : name ∉ members.map Prod.fst) (read : β → Option γ) (missing : Option γ) :
    member read missing fields name = missing := by
  rw [member]
  cases hlookup : fields.lookup name with
  | none => rfl
  | some w =>
    have hw := h.known _ ((lookup_eq_some_iff_mem h.distinct hname).mp hlookup) hname
    exact absurd (List.mem_map_of_mem (f := Prod.fst) hw) hno

end Rust
