import RustWhois.Std.Slices

/-!
# Lines with their ends

A text is its lines with their terminators, so lines can be deleted from it.

* `Text.splitInclusive`, `Text.chomp`: the lines with and without their terminators;
* `Text.line_induction`: induction over the lines of a text;
* **`Text.lines_eq_map_chomp`**: `lines` takes off the terminators;
* `Text.retainLines`: the text with only the lines that pass a test;
* **`Text.lines_retainLines`**: its lines are those lines.
-/

namespace Rust

namespace Text

/-- `splitInclusive` of a text after the start `acc` (reversed) of the current line. -/
def splitInclusiveFrom (acc : Text) : Text → List Text
  | [] => if acc.isEmpty then [] else [acc.reverse]
  | c :: s =>
    if c = '\n' then (c :: acc).reverse :: splitInclusiveFrom [] s
    else splitInclusiveFrom (c :: acc) s

/-- `str::split_inclusive` at line feeds. -/
def splitInclusive (s : Text) : List Text := splitInclusiveFrom [] s

/-- A line without its terminator, `\n` or `\r\n`. -/
def chomp (line : Text) : Text :=
  match line.stripSuffix "\n" with
  | some t => (t.stripSuffix "\r").getD t
  | none => line

/-- The text with only the lines that pass the test. -/
def retainLines (s : Text) (p : Text → Bool) : Text :=
  (s.splitInclusive.filter fun line => p line.chomp).flatten

/-! ## Line by line -/

/-- **Induction over the lines of a text.** -/
theorem line_induction {P : Text → Prop} (hlast : ∀ l : Text, '\n' ∉ l → P l)
    (hline : ∀ l s : Text, '\n' ∉ l → P s → P (l ++ '\n' :: s)) (s : Text) : P s := by
  suffices h : ∀ l : Text, '\n' ∉ l → P (l ++ s) from h [] (by simp)
  induction s with
  | nil =>
    intro l hl
    rw [List.append_nil]
    exact hlast l hl
  | cons c s ih =>
    intro l hl
    by_cases hc : c = '\n'
    · subst hc
      exact hline l s hl (ih [] (by simp))
    · have h := ih (l ++ [c]) (by simp [hl, Ne.symm hc])
      rwa [List.append_assoc] at h

variable {l s : Text}

theorem splitInclusiveFrom_append (hl : '\n' ∉ l) (acc t : Text) :
    splitInclusiveFrom acc (l ++ t) = splitInclusiveFrom (l.reverse ++ acc) t := by
  induction l generalizing acc with
  | nil => rfl
  | cons c l ih =>
    rw [List.mem_cons, not_or] at hl
    rw [List.cons_append, splitInclusiveFrom, if_neg (Ne.symm hl.1), ih hl.2, List.reverse_cons,
      List.append_assoc, List.singleton_append]

theorem linesFrom_append (hl : '\n' ∉ l) (acc t : Text) :
    linesFrom acc (l ++ t) = linesFrom (l.reverse ++ acc) t := by
  induction l generalizing acc with
  | nil => rfl
  | cons c l ih =>
    rw [List.mem_cons, not_or] at hl
    rw [List.cons_append, linesFrom, if_neg (Ne.symm hl.1), ih hl.2, List.reverse_cons,
      List.append_assoc, List.singleton_append]

theorem splitInclusive_last (hl : '\n' ∉ l) :
    splitInclusive l = if l.isEmpty then [] else [l] := by
  have h := splitInclusiveFrom_append hl [] []
  rw [List.append_nil, List.append_nil] at h
  rw [splitInclusive, h, splitInclusiveFrom, List.isEmpty_reverse, List.reverse_reverse]

theorem splitInclusive_line (hl : '\n' ∉ l) (s : Text) :
    splitInclusive (l ++ '\n' :: s) = (l ++ ['\n']) :: splitInclusive s := by
  rw [splitInclusive, splitInclusiveFrom_append hl, splitInclusiveFrom, if_pos rfl,
    List.reverse_cons, List.append_nil, List.reverse_reverse, splitInclusive]

theorem lines_last (hl : '\n' ∉ l) : lines l = if l.isEmpty then [] else [l] := by
  have h := linesFrom_append hl [] []
  rw [List.append_nil, List.append_nil] at h
  rw [lines, h, linesFrom, List.isEmpty_reverse, List.reverse_reverse]

theorem chomp_last (hl : '\n' ∉ l) : chomp l = l := by
  have h : ¬ ("\n" : Text) <:+ l := fun hs => hl (hs.subset (List.mem_singleton.mpr rfl))
  rw [chomp, stripSuffix_eq_none h]

/-- A carriage return before the line feed belongs to the terminator. -/
theorem chomp_line (l : Text) : chomp (l ++ ['\n']) = (stripCr l.reverse).reverse := by
  have h : stripSuffix (l ++ ['\n']) "\n" = some l := stripSuffix_append l ['\n']
  rw [chomp, h]
  dsimp only
  induction l using List.reverseRecOn with
  | nil => rfl
  | append_singleton t c _ =>
    rw [List.reverse_concat]
    by_cases hc : c = '\r'
    · subst hc
      have ht : stripSuffix (t ++ ['\r']) "\r" = some t := stripSuffix_append t ['\r']
      rw [ht, stripCr, List.reverse_reverse, Option.getD_some]
    · have ht : ¬ ("\r" : Text) <:+ t ++ [c] := by
        rintro ⟨u, hu⟩
        exact hc (List.singleton_inj.mp (List.append_inj_right' hu rfl)).symm
      rw [stripSuffix_eq_none ht, Option.getD_none, stripCr.eq_def]
      split
      · rename_i heq
        exact absurd (List.cons.inj heq).1 hc
      · rw [List.reverse_cons, List.reverse_reverse]

theorem lines_line (hl : '\n' ∉ l) (s : Text) :
    lines (l ++ '\n' :: s) = chomp (l ++ ['\n']) :: lines s := by
  rw [lines, linesFrom_append hl, linesFrom, if_pos rfl, List.append_nil, chomp_line, lines]

/-- **`lines` takes the terminators off the lines.** -/
theorem lines_eq_map_chomp (s : Text) : s.lines = s.splitInclusive.map chomp := by
  induction s using line_induction with
  | hlast l hl =>
    rw [lines_last hl, splitInclusive_last hl]
    split_ifs
    · rfl
    · rw [List.map_singleton, chomp_last hl]
  | hline l s hl ih => rw [lines_line hl, splitInclusive_line hl, List.map_cons, ih]

theorem splitInclusive_retainLines (s : Text) (p : Text → Bool) :
    (s.retainLines p).splitInclusive = s.splitInclusive.filter fun line => p line.chomp := by
  induction s using line_induction with
  | hlast l hl =>
    rw [retainLines, splitInclusive_last hl]
    by_cases hempty : l.isEmpty = true
    · rw [if_pos hempty]
      rfl
    rw [if_neg hempty, List.filter_cons]
    by_cases hp : p l.chomp = true
    · rw [if_pos hp, List.filter_nil, List.flatten_singleton, splitInclusive_last hl,
        if_neg hempty]
    · rw [if_neg hp]
      rfl
  | hline l s hl ih =>
    rw [retainLines] at ih
    rw [retainLines, splitInclusive_line hl, List.filter_cons]
    by_cases hp : p (chomp (l ++ ['\n'])) = true
    · rw [if_pos hp, List.flatten_cons, List.append_assoc, List.singleton_append,
        splitInclusive_line hl, ih]
    · rw [if_neg hp, ih]

/-- **The lines that are left are those that pass the test.** -/
theorem lines_retainLines (s : Text) (p : Text → Bool) :
    (s.retainLines p).lines = s.lines.filter p := by
  rw [lines_eq_map_chomp, splitInclusive_retainLines, lines_eq_map_chomp, List.filter_map]
  rfl

end Text

end Rust
