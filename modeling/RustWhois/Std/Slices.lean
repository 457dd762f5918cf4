import RustWhois.Std.Text
import Mathlib.Data.List.Infix

/-!
# Parts of texts

What the methods on slices find and leave, beside concatenation.

* `Text.contains_iff`, `Text.startsWith_iff`: contiguous parts and prefixes;
* `Text.notMem_of_mem_split`, `Text.split_append_cons`: the pieces of a text;
* `Text.stripSuffix_eq_some_iff`, `Text.sliceFrom_append`: what is left of a text;
* `Text.getFrom`, `Text.isCharBoundary`: the slices that do not panic;
* `Text.trim_append`, `Text.append_trim`: white space around a text;
* **`Text.trim_lines_append`**: the trimmed lines of a text with more lines after it.
-/

namespace Rust

namespace Text

/-! ## Search -/

theorem contains_iff {s p : Text} : s.contains p = true ↔ p <:+: s := by
  induction s with
  | nil => rw [contains, List.isEmpty_iff, List.infix_nil]
  | cons c s ih =>
    rw [contains, Bool.or_eq_true, ih, List.isPrefixOf_iff_prefix, List.infix_cons_iff]

theorem startsWith_iff {s p : Text} : s.startsWith p = true ↔ p <+: s :=
  List.isPrefixOf_iff_prefix

/-! ## Pieces -/

theorem notMem_of_mem_split {s t : Text} {d : Char} (h : t ∈ s.split d) : d ∉ t := by
  induction s generalizing t with
  | nil =>
    rw [split, List.mem_singleton] at h
    simp [h]
  | cons c s ih =>
    rw [split] at h
    split_ifs at h with hc
    · rcases List.mem_cons.mp h with rfl | h
      · simp
      · exact ih h
    · rcases hs : split s d with _ | ⟨u, us⟩
      · rw [hs, List.mem_singleton] at h
        simp [h, Ne.symm hc]
      · rw [hs, List.mem_cons] at h
        rcases h with rfl | h
        · have hu : d ∉ u := ih (by rw [hs]; exact List.mem_cons_self)
          simp [hu, Ne.symm hc]
        · exact ih (by rw [hs]; exact List.mem_cons_of_mem _ h)

theorem split_of_notMem {s : Text} {d : Char} (h : d ∉ s) : s.split d = [s] := by
  induction s with
  | nil => rfl
  | cons c s ih =>
    rw [List.mem_cons, not_or] at h
    rw [split, if_neg (Ne.symm h.1), ih h.2]

theorem split_append_cons {s : Text} {d : Char} (h : d ∉ s) (t : Text) :
    (s ++ d :: t).split d = s :: t.split d := by
  induction s with
  | nil => exact if_pos rfl
  | cons c s ih =>
    rw [List.mem_cons, not_or] at h
    rw [List.cons_append, split, if_neg (Ne.symm h.1), ih h.2]

/-! ## Ends -/

theorem stripSuffix_eq_some_iff {s p t : Text} : s.stripSuffix p = some t ↔ s = t ++ p := by
  unfold stripSuffix
  split_ifs with h
  · obtain ⟨u, rfl⟩ := List.isSuffixOf_iff_suffix.mp h
    simp
  · refine iff_of_false (fun hs => nomatch hs) fun hs => h ?_
    rw [hs]
    exact List.isSuffixOf_iff_suffix.mpr (List.suffix_append t p)

theorem stripSuffix_append (t p : Text) : (t ++ p).stripSuffix p = some t :=
  stripSuffix_eq_some_iff.mpr rfl

theorem stripSuffix_eq_none {s p : Text} (h : ¬ p <:+ s) : s.stripSuffix p = none :=
  if_neg fun hs => h (List.isSuffixOf_iff_suffix.mp hs)

theorem sliceFrom_append (s t : Text) : (s ++ t).sliceFrom s.len = t := by
  induction s with
  | nil => cases t <;> rfl
  | cons c s ih =>
    have hpos := c.utf8Size_pos
    obtain ⟨n, hn⟩ := Nat.exists_eq_add_of_le' hpos
    have hlen : len (c :: s) = len s + n + 1 := by
      change c.utf8Size + len s = _
      omega
    rw [hlen, List.cons_append, sliceFrom]
    have hrest : len s + n + 1 - c.utf8Size = len s := by omega
    rw [hrest, ih]

theorem len_of_ascii {s : Text} (h : ∀ c ∈ s, c.toNat < 128) : s.len = s.length := by
  induction s with
  | nil => rfl
  | cons c s ih =>
    have hc : c.utf8Size = 1 := by
      have := h c List.mem_cons_self
      rw [Char.utf8Size_eq_one_iff, UInt32.le_iff_toNat_le]
      exact Nat.le_of_lt_succ this
    change c.utf8Size + len s = s.length + 1
    rw [ih fun d hd => h d (List.mem_cons_of_mem _ hd), hc, Nat.add_comm]

/-! ## Character boundaries -/

/-- `str::get` of `n..`: nothing where `&s[n..]` panics. -/
def getFrom : Text → Nat → Option Text
  | s, 0 => some s
  | [], _ + 1 => none
  | c :: s, n + 1 => if c.utf8Size ≤ n + 1 then getFrom s (n + 1 - c.utf8Size) else none

/-- `str::is_char_boundary`: a character begins at the byte, or the text ends there. -/
def isCharBoundary (s : Text) (n : Nat) : Bool := (s.inits.map len).contains n

theorem isCharBoundary_iff {s : Text} {n : Nat} :
    s.isCharBoundary n = true ↔ ∃ q t, s = q ++ t ∧ q.len = n := by
  rw [isCharBoundary, List.contains_iff_mem, List.mem_map]
  constructor
  · rintro ⟨q, hq, hn⟩
    obtain ⟨t, ht⟩ := (List.mem_inits _ _).mp hq
    exact ⟨q, t, ht.symm, hn⟩
  · rintro ⟨q, t, rfl, hn⟩
    exact ⟨q, (List.mem_inits _ _).mpr (List.prefix_append q t), hn⟩

theorem len_cons (c : Char) (s : Text) : len (c :: s) = c.utf8Size + s.len := rfl

theorem len_append (s t : Text) : (s ++ t).len = s.len + t.len := by
  rw [len, List.map_append, List.sum_append]
  rfl

theorem getFrom_eq_some_iff {s t : Text} {n : Nat} :
    s.getFrom n = some t ↔ ∃ q, s = q ++ t ∧ q.len = n := by
  induction s, n using getFrom.induct with
  | case1 s =>
    rw [getFrom, Option.some_inj]
    constructor
    · rintro rfl
      exact ⟨[], rfl, rfl⟩
    · rintro ⟨q, rfl, hq⟩
      cases q with
      | nil => rfl
      | cons c q =>
        have hpos := c.utf8Size_pos
        rw [len_cons] at hq
        omega
  | case2 n =>
    refine iff_of_false (fun h => ?_) fun ⟨q, hq, hn⟩ => ?_
    · rw [getFrom] at h
      cases h
    · rw [(List.nil_eq_append_iff.mp hq).1] at hn
      cases hn
  | case3 c s n hle ih =>
    rw [getFrom, if_pos hle, ih]
    clear ih
    constructor
    · rintro ⟨q, rfl, hq⟩
      refine ⟨c :: q, rfl, ?_⟩
      rw [len_cons]
      omega
    · rintro ⟨q, hq, hn⟩
      cases q with
      | nil => cases hn
      | cons d q =>
        obtain ⟨rfl, rfl⟩ := List.cons.inj hq
        refine ⟨q, rfl, ?_⟩
        rw [len_cons] at hn
        omega
  | case4 c s n hle =>
    rw [getFrom, if_neg hle]
    refine iff_of_false (fun h => by cases h) fun ⟨q, hq, hn⟩ => ?_
    cases q with
    | nil => cases hn
    | cons d q =>
      obtain ⟨rfl, rfl⟩ := List.cons.inj hq
      rw [len_cons] at hn
      omega

theorem getFrom_append (s t : Text) : (s ++ t).getFrom s.len = some t :=
  getFrom_eq_some_iff.mpr ⟨s, rfl, rfl⟩

/-! ## White space around a text -/

theorem rdropWhile_append {p : Char → Bool} {s t : Text} (h : ∀ c ∈ t, p c = true) :
    (s ++ t).rdropWhile p = s.rdropWhile p := by
  induction t using List.reverseRecOn with
  | nil => rw [List.append_nil]
  | append_singleton t c ih =>
    rw [← List.append_assoc, List.rdropWhile_concat, if_pos (h c (by simp))]
    exact ih fun d hd => h d (List.mem_append_left _ hd)

theorem trim_append {s t : Text} (h : ∀ c ∈ t, isWhitespace c = true) :
    (s ++ t).trim = s.trim := by
  rw [trim, List.dropWhile_append]
  split_ifs with hs
  · rw [List.dropWhile_eq_nil_iff.mpr h, trim, List.isEmpty_iff.mp hs]
  · exact rdropWhile_append h

theorem append_trim {s t : Text} (h : ∀ c ∈ t, isWhitespace c = true) :
    (t ++ s).trim = s.trim := by
  rw [trim, List.dropWhile_append_of_pos h, trim]

/-! ## Lines -/

theorem trim_stripCr (acc : Text) : trim (stripCr acc).reverse = trim acc.reverse := by
  rw [stripCr.eq_def]
  split
  · rw [List.reverse_cons, trim_append (List.all_eq_true.mp rfl)]
  · rfl

/-- **The trimmed lines of a text with more lines after it**, but for the empty ones. -/
theorem trim_lines_append {p : Text → Bool} (hp : p [] = false) (s t : Text) :
    ((s ++ '\n' :: t).lines.map trim).filter p =
      (s.lines.map trim).filter p ++ (t.lines.map trim).filter p := by
  suffices h : ∀ acc : Text, ((linesFrom acc (s ++ '\n' :: t)).map trim).filter p =
      ((linesFrom acc s).map trim).filter p ++ (t.lines.map trim).filter p from h []
  induction s with
  | nil =>
    intro acc
    have hend : linesFrom acc ('\n' :: t) = (stripCr acc).reverse :: t.lines := by
      rw [linesFrom, if_pos rfl, lines]
    rw [List.nil_append, hend, List.map_cons, List.filter_cons, trim_stripCr, linesFrom]
    cases acc with
    | nil => simp [trim, hp]
    | cons c acc =>
      simp only [List.isEmpty_cons, Bool.false_eq_true, if_false, List.map_cons, List.map_nil,
        List.filter_cons, List.filter_nil]
      split_ifs <;> rfl
  | cons c s ih =>
    intro acc
    rw [List.cons_append, linesFrom, linesFrom]
    split_ifs
    · rw [List.map_cons, List.map_cons, List.filter_cons, List.filter_cons, ih]
      split_ifs <;> rfl
    · exact ih _

end Text

end Rust
