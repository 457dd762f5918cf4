import RustWhois.Arms

/-!
# Date lines

Where the domain parser stores the value of a line whose key is that of a date. The guard of a date
arm asks for an empty field, so the second date line of a kind goes on to the arms behind.

* `DatesOnly`: nothing but the dates of a record has changed;
* `Misrouted`: no date arm has room for a line, and an arm behind takes it;
* `datesOnly_parseLine_iff`: what one line does;
* **`dated_iff`**: the responses whose date lines are only ever dates.
-/

namespace RustWhois

open Rust

def RecordField.IsDate (f : RecordField) : Prop :=
  f ∈ [expirationDate, creationDate, updatedDate]

namespace WhoisParser

/-! ## One line -/

/-- The arms of the dates. -/
def Field.dateArms : List Field := [expirationDate, creationDate, updatedDate]

/-- The arms behind them. -/
def Field.otherArms : List Field :=
  [registrar, nameServer, status, registrantName, registrantEmail, adminEmail, techEmail]

/-- The key matches the pattern of a date. -/
def IsDateKey (k : Text) : Prop := ∃ arm ∈ Field.dateArms, arm.keyed k = true

/-- Nothing but the dates has changed. -/
def DatesOnly (p q : ParsedWhoisData) : Prop :=
  ∀ f : RecordField, ¬ f.IsDate → f.value q = f.value p

/-- No date arm has room for the line, and the first of the other arms whose guard passes stores
it; a name server that is listed already is not stored again. -/
def Misrouted (p : ParsedWhoisData) (k value : Text) : Prop :=
  (∀ arm ∈ Field.dateArms, arm.keyed k = true → arm.admits p value = false) ∧
    ∃ arm ∈ Field.otherArms.find? (Field.guard p k value),
      arm = .nameServer → value.firstWord.getD value ∉ p.nameServers

theorem stored_ne_iff {p : ParsedWhoisData} {value : Text} {arm : Field}
    (h : arm.admits p value = true) : arm.stored p value ≠ arm.slot.value p ↔
      (arm = .nameServer → value.firstWord.getD value ∉ p.nameServers) := by
  cases arm with
  | nameServer =>
    by_cases hk : value.firstWord.getD value ∈ p.nameServers <;>
      simp [Field.stored, Field.slot, RecordField.value, hk]
  | status => simp [Field.stored, Field.slot, RecordField.value]
  | _ =>
    simp only [Field.admits, Bool.and_eq_true, Option.isNone_iff_eq_none] at h
    simp [Field.stored, Field.slot, RecordField.value, h]

theorem not_isDate_slot {arm : Field} (h : arm ∈ Field.otherArms) : ¬ arm.slot.IsDate := by
  cases arm <;> simp [Field.otherArms] at h <;> simp [Field.slot, RecordField.IsDate]

theorem isDate_slot {arm : Field} (h : arm ∈ Field.dateArms) : arm.slot.IsDate := by
  cases arm <;> simp [Field.dateArms] at h <;> simp [Field.slot, RecordField.IsDate]

theorem datesOnly_store_iff {p : ParsedWhoisData} {value : Text} {arm : Field} :
    DatesOnly p (store p value arm) ↔
      arm.slot.IsDate ∨ arm.stored p value = arm.slot.value p := by
  constructor
  · intro h
    by_contra hcon
    rw [not_or] at hcon
    have hslot := h arm.slot hcon.1
    rw [value_store, if_pos rfl] at hslot
    exact hcon.2 hslot
  · intro h f hf
    rw [value_store]
    split_ifs with heq
    · subst heq
      exact h.resolve_left hf
    · rfl

theorem matchField_eq_or (p : ParsedWhoisData) (k value : Text) :
    matchField p k value = (Field.dateArms.find? (Field.guard p k value)).or
      (Field.otherArms.find? (Field.guard p k value)) := by
  rw [matchField_eq_find, ← List.find?_append]
  rfl

/-- No date arm takes the line exactly if those of its key have no room. -/
theorem find?_dateArms_eq_none_iff {p : ParsedWhoisData} {k value : Text} :
    Field.dateArms.find? (Field.guard p k value) = none ↔
      ∀ arm ∈ Field.dateArms, arm.keyed k = true → arm.admits p value = false := by
  rw [List.find?_eq_none]
  refine forall₂_congr fun arm _ => ?_
  rw [Field.guard, Bool.and_eq_true, not_and, Bool.not_eq_true]

/-- **A date line changes only dates unless it is misrouted.** -/
theorem datesOnly_parseLine_iff {p : ParsedWhoisData} {line k value : Text}
    (h : keyValue line = some (k, value)) :
    DatesOnly p (parseLine p line) ↔ ¬ Misrouted p k value := by
  rw [parseLine, h, Misrouted, ← find?_dateArms_eq_none_iff]
  dsimp only
  rw [matchField_eq_or]
  cases hdate : Field.dateArms.find? (Field.guard p k value) with
  | some arm =>
    rw [Option.some_or]
    dsimp only
    refine iff_of_true (datesOnly_store_iff.mpr (.inl ?_)) fun hmis => ?_
    · exact isDate_slot (List.mem_of_find?_eq_some hdate)
    · cases hmis.1
  | none =>
    -- the line goes on to the other arms
    rw [Option.none_or, and_iff_right rfl]
    cases hother : Field.otherArms.find? (Field.guard p k value) with
    | none =>
      refine iff_of_true (fun _ _ => rfl) ?_
      rintro ⟨arm, harm, -⟩
      cases harm
    | some arm =>
      have hnot := not_isDate_slot (List.mem_of_find?_eq_some hother)
      have hstored := stored_ne_iff (guard_of_find? hother).2
      dsimp only
      rw [datesOnly_store_iff, or_iff_right hnot, ← not_iff_not, not_not, ← ne_eq, hstored]
      simp

/-! ## Whole responses -/

/-- The property holds of every date line, with the record of the lines before it. -/
def EachDateLine (data : Text) (P : ParsedWhoisData → Text → Text → Text → Prop) : Prop :=
  ∀ pre line post, substantive ["%", "#", ">>>"] data = pre ++ line :: post →
    ∀ k value, keyValue line = some (k, value) → IsDateKey k →
      P (pre.foldl parseLine {}) line k value

/-- Every date line changes only dates. -/
def Dated (data : Text) : Prop := EachDateLine data fun p line _ _ => DatesOnly p (parseLine p line)

/-- **A date line is only ever a date exactly if no date line is misrouted.** -/
theorem dated_iff (data : Text) :
    Dated data ↔ EachDateLine data fun p _ k value => ¬ Misrouted p k value := by
  constructor
  · intro h pre line post heq k value hkv hkey
    exact (datesOnly_parseLine_iff hkv).mp (h pre line post heq k value hkv hkey)
  · intro h pre line post heq k value hkv hkey
    exact (datesOnly_parseLine_iff hkv).mpr (h pre line post heq k value hkv hkey)

/-- The second date of a change becomes the registrar. -/
theorem dated_secondUpdate :
    ¬ Dated "Updated Date: 2024-01-01\nLast updated by registrar: 2025-01-01" := by
  intro h
  have hchange := h ["Updated Date: 2024-01-01"] "Last updated by registrar: 2025-01-01" []
    (by decide +kernel) "last updated by registrar" "2025-01-01" (by decide +kernel)
    ⟨.updatedDate, by decide, by decide +kernel⟩ .registrar (by simp [RecordField.IsDate])
  revert hchange
  decide +kernel

end WhoisParser

end RustWhois
