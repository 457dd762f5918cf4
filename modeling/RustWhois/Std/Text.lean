import Mathlib.Algebra.GroupWithZero.Nat
import Mathlib.Data.List.DropRight
import RustWhois.Std.UnicodeData

/-!
# Rust strings

A `str` is the list of its characters (`Text`): a Lean `Char` is a Unicode scalar value, as a
Rust `char` is. The functions below are the `str` and `char` methods of the standard library, under
their own names.

* `isWhitespace`, `toLowercase`: `char::is_whitespace`, `str::to_lowercase`;
* `Text.trim`, `Text.splitOnce`, `Text.lines`, …: the methods on slices of text;
* **`Text.trim_eq_self_iff`**: the texts that `trim` leaves as they are.
-/

namespace Rust

/-- The characters of a `str`. -/
abbrev Text : Type := List Char

instance : Coe String Text := ⟨String.toList⟩

/-! ## Characters -/

/-- `char::is_whitespace`: the property `White_Space`. -/
def isWhitespace (c : Char) : Bool :=
  (9 ≤ c.toNat && c.toNat ≤ 13) || c.toNat == 0x20 || c.toNat == 0x85 || c.toNat == 0xa0 ||
    c.toNat == 0x1680 || (0x2000 ≤ c.toNat && c.toNat ≤ 0x200a) || c.toNat == 0x2028 ||
    c.toNat == 0x2029 || c.toNat == 0x202f || c.toNat == 0x205f || c.toNat == 0x3000

/-- `char::is_ascii_digit`. -/
def isAsciiDigit (c : Char) : Bool := '0' ≤ c && c ≤ '9'

/-- `char::is_ascii_hexdigit`. -/
def isAsciiHexdigit (c : Char) : Bool :=
  isAsciiDigit c || ('a' ≤ c && c ≤ 'f') || ('A' ≤ c && c ≤ 'F')

/-- `char::to_ascii_lowercase`. -/
def toAsciiLowercase (c : Char) : Char :=
  if 'A' ≤ c && c ≤ 'Z' then Char.ofNat (c.toNat + 32) else c

/-- The run maps the code point `n`. -/
def CaseRun.covers (r : CaseRun) (n : Nat) : Bool :=
  r.lo ≤ n && n ≤ r.hi && (n - r.lo) % r.step == 0

/-- `char::to_lowercase`: one character, except for `İ`. -/
def lowerChar (c : Char) : Text :=
  if c.toNat < 128 then [toAsciiLowercase c]
  else if c.toNat = 0x130 then ['i', '\u0307']
  else match lowerTable.find? (·.covers c.toNat) with
    | some r => [Char.ofNat (c.toNat + r.delta).toNat]
    | none => [c]

/-- The code point lies in one of the ranges. -/
def inRanges (rs : List (Nat × Nat)) (c : Char) : Bool :=
  rs.any fun r => r.1 ≤ c.toNat && c.toNat ≤ r.2

/-- After the case-ignorable characters comes a cased one. -/
def caseIgnorableThenCased (s : Text) : Bool :=
  match s.dropWhile (inRanges caseIgnorableTable) with
  | c :: _ => inRanges casedTable c
  | [] => false

/-- The lowercase of `Σ` between `before` (reversed) and `after`: `ς` at the end of a word. -/
def lowerSigma (before after : Text) : Char :=
  if caseIgnorableThenCased before && !caseIgnorableThenCased after then 'ς' else 'σ'

/-- `toLowercase` of `s` after the characters `before` (reversed). -/
def toLowercaseFrom (before : Text) : Text → Text
  | [] => []
  | c :: s =>
    (if c.toNat = 0x3a3 then [lowerSigma before s] else lowerChar c) ++
      toLowercaseFrom (c :: before) s

/-- `str::to_lowercase`. -/
def toLowercase (s : Text) : Text := toLowercaseFrom [] s

namespace Text

/-! ## Slices of text -/

/-- `str::trim`. -/
def trim (s : Text) : Text := (s.dropWhile isWhitespace).rdropWhile isWhitespace

/-- `str::trim_end_matches` of one character. -/
def trimEndMatches (s : Text) (c : Char) : Text := s.rdropWhile (· == c)

/-- `str::starts_with`. -/
def startsWith (s p : Text) : Bool := p.isPrefixOf s

/-- `str::strip_suffix`. -/
def stripSuffix (s p : Text) : Option Text :=
  if p.isSuffixOf s then some (s.take (s.length - p.length)) else none

/-- `&s[n..]` by bytes; `str` indexing panics where `n` is no character boundary. -/
def sliceFrom : Text → Nat → Text
  | s, 0 => s
  | [], _ + 1 => []
  | c :: s, n + 1 => sliceFrom s (n + 1 - c.utf8Size)

/-- `str::contains` of a text. -/
def contains : Text → Text → Bool
  | [], p => p.isEmpty
  | c :: s, p => p.isPrefixOf (c :: s) || contains s p

/-- `str::split_once` at a character. -/
def splitOnce : Text → Char → Option (Text × Text)
  | [], _ => none
  | c :: s, d => if c = d then some ([], s) else (splitOnce s d).map fun p => (c :: p.1, p.2)

/-- `str::split` at a character. -/
def split : Text → Char → List Text
  | [], _ => [[]]
  | c :: s, d =>
    if c = d then [] :: split s d
    else match split s d with
      | [] => [[c]]
      | t :: ts => (c :: t) :: ts

/-- `str::split_whitespace().next()`. -/
def firstWord (s : Text) : Option Text :=
  match s.dropWhile isWhitespace with
  | [] => none
  | c :: t => some ((c :: t).takeWhile fun d => !isWhitespace d)

/-- A line ends before `\r\n`. The line is given reversed. -/
def stripCr : Text → Text
  | '\r' :: acc => acc
  | acc => acc

/-- `lines` of a text after the start `acc` (reversed) of the current line. -/
def linesFrom (acc : Text) : Text → List Text
  | [] => if acc.isEmpty then [] else [acc.reverse]
  | c :: s => if c = '\n' then (stripCr acc).reverse :: linesFrom [] s else linesFrom (c :: acc) s

/-- `str::lines`. -/
def lines (s : Text) : List Text := linesFrom [] s

/-- `[str]::join`. -/
def join : List Text → Text → Text
  | [], _ => []
  | [t], _ => t
  | t :: u :: ts, sep => t ++ sep ++ join (u :: ts) sep

/-- `str::len`: the number of bytes. -/
def len (s : Text) : Nat := (s.map Char.utf8Size).sum

end Text

/-- The decimal digits of a number, as `Display` writes it. -/
def natText (n : Nat) : Text := Nat.toDigits 10 n

/-! ## Trimming -/

theorem Text.trim_trim (s : Text) : s.trim.trim = s.trim := by
  have hpre : s.trim <+: s.dropWhile isWhitespace := List.rdropWhile_prefix _ _
  -- the first character that is left is no whitespace
  have hdrop : s.trim.dropWhile isWhitespace = s.trim := by
    rcases ht : s.trim with _ | ⟨c, t⟩
    · rfl
    · rw [ht] at hpre
      obtain ⟨u, hu⟩ := hpre
      have hc : isWhitespace c = false := by
        have := List.head?_dropWhile_not isWhitespace s
        rw [← hu] at this
        simpa using this
      rw [List.dropWhile_cons_of_neg (by simp [hc])]
  change (s.trim.dropWhile isWhitespace).rdropWhile isWhitespace = s.trim
  rw [hdrop]
  exact List.rdropWhile_idempotent _ _

theorem Text.trim_sublist (s : Text) : s.trim.Sublist s :=
  (List.rdropWhile_prefix _ _).sublist.trans (List.dropWhile_suffix _).sublist

theorem rdropWhile_eq_self_iff_any {p : Char → Bool} {s : Text} :
    s.rdropWhile p = s ↔ s.getLast?.any p = false := by
  induction s using List.reverseRecOn with
  | nil => simp
  | append_singleton s c ih =>
    rw [List.getLast?_concat, Option.any_some, List.rdropWhile_concat]
    by_cases hp : p c
    · rw [if_pos hp, hp]
      refine iff_of_false (fun h => ?_) (by simp)
      have hle := (List.rdropWhile_prefix p s).length_le
      rw [h, List.length_append, List.length_singleton] at hle
      omega
    · simp [hp]

theorem dropWhile_eq_self_iff_any {p : Char → Bool} {s : Text} :
    s.dropWhile p = s ↔ s.head?.any p = false := by
  cases s with
  | nil => simp
  | cons c s =>
    rw [List.head?_cons, Option.any_some, List.dropWhile_cons]
    by_cases hp : p c
    · rw [if_pos hp, hp]
      refine iff_of_false (fun h => ?_) (by simp)
      have hle := (List.dropWhile_suffix (l := s) p).length_le
      rw [h, List.length_cons] at hle
      omega
    · simp [hp]

theorem Text.trim_eq_self_iff {s : Text} : s.trim = s ↔
    s.head?.any isWhitespace = false ∧ s.getLast?.any isWhitespace = false := by
  rw [← dropWhile_eq_self_iff_any, ← rdropWhile_eq_self_iff_any]
  constructor
  · intro h
    have hsuffix := List.dropWhile_suffix (l := s) isWhitespace
    have hprefix : s.trim.length ≤ (s.dropWhile isWhitespace).length :=
      (List.rdropWhile_prefix isWhitespace (s.dropWhile isWhitespace)).length_le
    rw [h] at hprefix
    have hdrop := hsuffix.eq_of_length_le hprefix
    refine ⟨hdrop, ?_⟩
    unfold trim at h
    rwa [hdrop] at h
  · rintro ⟨hdrop, hrdrop⟩
    unfold trim
    rw [hdrop, hrdrop]

theorem Text.mem_trimEndMatches {c d : Char} (h : c ≠ d) {s : Text} :
    c ∈ s.trimEndMatches d ↔ c ∈ s := by
  induction s using List.reverseRecOn with
  | nil => rfl
  | append_singleton s e ih =>
    rw [trimEndMatches, List.rdropWhile_concat]
    split_ifs with he
    · have hce : c ≠ e := fun hce => h (hce.trans (by simpa using he))
      rw [List.mem_append, List.mem_singleton, or_iff_left hce]
      exact ih
    · rfl

end Rust
