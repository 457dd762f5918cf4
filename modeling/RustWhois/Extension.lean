import Mathlib.Data.List.Nodup
import RustWhois.Arms

/-!
# A record only grows

What the domain parser makes of a response that goes on, and where the values of a record come from.

* `Extends`: a record keeps the fields of another and may have more;
* `Sound`: every value comes from a line, the lists have no duplicates, and emails look like emails;
* `extends_parseLine`, `sound_parseLine`: a line extends the record and keeps it sound;
* **`extends_parseWhoisData`**: more lines extend the record, and it is sound.
-/

namespace RustWhois

open Rust

/-! ## Extension -/

/-- A value that was set is the same, and a list goes on. -/
def FieldValue.IsKept : FieldValue → FieldValue → Prop
  | text t, text t' => ∀ v ∈ t, v ∈ t'
  | texts ts, texts ts' => ts <+: ts'
  | days n, days n' => ∀ d ∈ n, d ∈ n'
  | _, _ => False

theorem FieldValue.IsKept.refl (v : FieldValue) : v.IsKept v := by
  cases v with
  | text t | days t => exact fun _ h => h
  | texts ts => exact List.prefix_rfl

theorem FieldValue.IsKept.trans {u v w : FieldValue} (h : u.IsKept v) (h' : v.IsKept w) :
    u.IsKept w := by
  cases u <;> cases v <;> cases w <;> first
    | exact h.elim
    | exact h'.elim
    | exact fun x hx => h' x (h x hx)
    | exact List.IsPrefix.trans h h'

theorem FieldValue.isKept_text (v : Text) : (text none).IsKept (text (some v)) :=
  fun _ h => nomatch h

/-- `q` keeps the fields of `p`. -/
def Extends (p q : ParsedWhoisData) : Prop := ∀ f : RecordField, (f.value p).IsKept (f.value q)

instance : Std.Refl Extends := ⟨fun _ _ => .refl _⟩

instance : IsTrans ParsedWhoisData Extends := ⟨fun _ _ _ h h' f => (h f).trans (h' f)⟩

theorem extends_foldl {α : Type} {f : ParsedWhoisData → α → ParsedWhoisData}
    (h : ∀ p a, Extends p (f p a)) (l : List α) (p : ParsedWhoisData) : Extends p (l.foldl f p) :=
  List.foldlRecOn l f (refl_of Extends p) fun q hq a _ => trans_of Extends hq (h q a)

theorem Clock.age_of_mem (clock : Clock) {days : DateTime → Int} {date date' : Option Text}
    (h : ∀ v ∈ date, v ∈ date') : ∀ n ∈ clock.age days date, n ∈ clock.age days date' := by
  intro n hn
  cases date with
  | none => cases hn
  | some v =>
    rw [h v rfl]
    exact hn

theorem Extends.calculateAgeFields (clock : Clock) {p q : ParsedWhoisData} (h : Extends p q) :
    Extends (p.calculateAgeFields clock) (q.calculateAgeFields clock) := by
  intro f
  cases f with
  | createdAgo => exact clock.age_of_mem (h .creationDate)
  | updatedAgo => exact clock.age_of_mem (h .updatedDate)
  | expiresIn => exact clock.age_of_mem (h .expirationDate)
  | registrar => exact h .registrar
  | creationDate => exact h .creationDate
  | expirationDate => exact h .expirationDate
  | updatedDate => exact h .updatedDate
  | nameServers => exact h .nameServers
  | status => exact h .status
  | registrantName => exact h .registrantName
  | registrantEmail => exact h .registrantEmail
  | adminEmail => exact h .adminEmail
  | techEmail => exact h .techEmail

namespace WhoisParser

theorem isKept_stored {p : ParsedWhoisData} {value : Text} {arm : Field}
    (h : arm.admits p value = true) : (arm.slot.value p).IsKept (arm.stored p value) := by
  cases arm with
  | nameServer =>
    show p.nameServers <+: _
    split_ifs
    · exact List.prefix_rfl
    · exact List.prefix_append _ _
  | status => exact List.prefix_append _ _
  | _ =>
    simp only [Field.admits, Bool.and_eq_true, Option.isNone_iff_eq_none] at h
    simp only [Field.slot, RecordField.value, h]
    exact FieldValue.isKept_text value

/-- **A line extends the record.** -/
theorem extends_parseLine (p : ParsedWhoisData) (line : Text) : Extends p (parseLine p line) := by
  rcases parseLine_cases p line with h | ⟨k, value, arm, -, hm, h⟩
  · rw [h]
    exact refl_of Extends p
  · rw [h]
    intro f
    rw [value_store]
    split_ifs with hf
    · rw [hf]
      exact isKept_stored (guard_of_matchField hm).2
    · exact .refl _

theorem substantive_append {marks : List Text} (d e : Text) :
    substantive marks (d ++ "\n" ++ e) = substantive marks d ++ substantive marks e := by
  rw [substantive, List.append_assoc]
  exact Text.trim_lines_append rfl d e

/-! ## Sound values -/

/-- The trimmed value, not empty, of a `key: value` line that is no comment. -/
def IsLineValue (data value : Text) : Prop :=
  ∃ line ∈ data.lines, (∀ mark ∈ (["%", "#", ">>>"] : List Text), ¬ mark <+: line.trim) ∧
    ∃ k v, line.trim.splitOnce ':' = some (k, v) ∧ value = v.trim ∧ value ≠ []

/-- An address, and no redaction notice. -/
def LooksLikeEmail (value : Text) : Prop :=
  '@' ∈ value ∧ ¬ "select request".toList <:+: toLowercase value

theorem emailLike_iff {value : Text} : emailLike value = true ↔ LooksLikeEmail value := by
  rw [emailLike, Bool.and_eq_true, List.contains_iff_mem, Bool.not_eq_true', Bool.eq_false_iff,
    ne_eq, Text.contains_iff, LooksLikeEmail]

/-- **Where the values of a record come from**, and what they are like. -/
structure Sound (data : Text) (p : ParsedWhoisData) : Prop where
  values : ∀ (f : RecordField) (v : Text), f.value p = .text (some v) → IsLineValue data v
  nameServers : p.nameServers.Nodup
  status : p.status.Nodup
  emails : ∀ f ∈ [RecordField.registrantEmail, .adminEmail, .techEmail], ∀ v : Text,
    f.value p = .text (some v) → LooksLikeEmail v

theorem sound_empty (data : Text) : Sound data {} where
  values f v h := by cases f <;> cases h
  nameServers := List.nodup_nil
  status := List.nodup_nil
  emails f _ v h := by cases f <;> cases h

theorem isLineValue_of_keyValue {data line k value : Text}
    (hl : line ∈ substantive ["%", "#", ">>>"] data) (h : keyValue line = some (k, value)) :
    IsLineValue data value := by
  obtain ⟨hmem, hkeep⟩ := List.mem_filter.mp hl
  obtain ⟨raw, hraw, rfl⟩ := List.mem_map.mp hmem
  rw [Bool.and_eq_true] at hkeep
  rw [keyValue] at h
  split at h
  next key v hsplit =>
    split_ifs at h with hempty
    cases h
    refine ⟨raw, hraw, fun mark hm hpre => ?_, key, v, hsplit, rfl, ?_⟩
    · have hany := List.any_eq_true.mpr ⟨mark, hm, Text.startsWith_iff.mpr hpre⟩
      rw [hany] at hkeep
      cases hkeep.2
    · exact fun hnil => hempty (List.isEmpty_iff.mpr hnil)
  next => cases h

theorem nodup_append_singleton {l : List Text} {v : Text} (h : l.Nodup) (hv : v ∉ l) :
    (l ++ [v]).Nodup := by
  rw [← List.concat_eq_append]
  exact List.Nodup.concat hv h

theorem sound_store {data value k : Text} {p : ParsedWhoisData} (h : Sound data p)
    (hv : IsLineValue data value) {arm : Field} (hm : matchField p k value = some arm) :
    Sound data (store p value arm) := by
  obtain ⟨-, hadmits⟩ := guard_of_matchField hm
  refine ⟨fun f v hf => ?_, ?_, ?_, fun f hfe v hf => ?_⟩
  · rw [value_store] at hf
    split_ifs at hf
    · cases arm <;> cases hf <;> exact hv
    · exact h.values f v hf
  · cases arm with
    | nameServer =>
      rw [store]
      split_ifs with hk
      · exact h.nameServers
      · exact nodup_append_singleton h.nameServers (by simpa using hk)
    | _ => exact h.nameServers
  · cases arm with
    | status => exact nodup_append_singleton h.status (by simpa [Field.admits] using hadmits)
    | nameServer =>
      rw [store]
      split_ifs <;> exact h.status
    | _ => exact h.status
  · rw [value_store] at hf
    split_ifs at hf with hslot
    · subst hslot
      cases arm <;> cases hf <;> first
        | exact emailLike_iff.mp (Bool.and_eq_true_iff.mp hadmits).2
        | simp [Field.slot] at hfe
    · exact h.emails f hfe v hf

theorem sound_parseLine {data line : Text} {p : ParsedWhoisData} (h : Sound data p)
    (hl : line ∈ substantive ["%", "#", ">>>"] data) : Sound data (parseLine p line) := by
  rcases parseLine_cases p line with heq | ⟨k, value, arm, hkv, hm, heq⟩
  · rw [heq]
    exact h
  · rw [heq]
    exact sound_store h (isLineValue_of_keyValue hl hkv) hm

/-! ## Whole responses -/

section Responses

variable (clock : Clock)

theorem value_of_calculateAgeFields {p : ParsedWhoisData} {f : RecordField} {t : Option Text}
    (h : f.value (p.calculateAgeFields clock) = .text t) : f.value p = .text t := by
  cases f <;> first
    | exact h
    | cases h

theorem Sound.calculateAgeFields {data : Text} {p : ParsedWhoisData} (h : Sound data p) :
    Sound data (p.calculateAgeFields clock) where
  values f v hf := h.values f v (value_of_calculateAgeFields clock hf)
  nameServers := h.nameServers
  status := h.status
  emails f hfe v hf := h.emails f hfe v (value_of_calculateAgeFields clock hf)

theorem sound_parseWhoisData (data : Text) : Sound data (parseWhoisData clock data) := by
  refine Sound.calculateAgeFields clock ?_
  exact List.foldlRecOn _ _ (sound_empty data) fun p hp line hl => sound_parseLine hp hl

/-- **The parser only ever extends its record, with sound values**: more lines after a response
change nothing that it set, and whatever it set is the value of one of its lines. -/
theorem extends_parseWhoisData (d e : Text) :
    Extends (parseWhoisData clock d) (parseWhoisData clock (d ++ "\n" ++ e)) ∧
      Sound d (parseWhoisData clock d) := by
  refine ⟨?_, sound_parseWhoisData clock d⟩
  rw [parseWhoisData, parseWhoisData, substantive_append, List.foldl_append]
  exact Extends.calculateAgeFields clock (extends_foldl extends_parseLine _ _)

end Responses

end WhoisParser

end RustWhois
