import RustWhois.Std.Text

/-!
# What lowercasing keeps

`str::to_lowercase` beside the other methods on texts.

* `lowerTable_apart`: no run maps what another one maps to;
* `Lowers`: what a character becomes;
* **`toLowercase_toLowercase`**: lowercasing twice is lowercasing once;
* `isWhitespace_of_lowers`: white space stays white space, and nothing becomes it;
* **`trim_toLowercase_iff`**: a lowercased text is trimmed exactly if the text was;
* `Asciiwise.prefix_toLowercaseFrom_iff`: the ASCII prefixes of a lowercased text.
-/

namespace Rust

/-! ## The runs -/

/-- A run keeps off ASCII and the surrogates. -/
def CaseRun.tame (r : CaseRun) : Bool :=
  0x61 ≤ r.lo + r.delta &&
    (r.hi + r.delta < 0xd800 || (0xdfff < r.lo + r.delta && r.hi + r.delta < 0x110000))

theorem lowerTable_tame : lowerTable.all CaseRun.tame = true := by decide +kernel

theorem toNat_ofNat {n : Nat} (h : n.isValidChar) : (Char.ofNat n).toNat = n := by
  rw [Char.ofNat, dif_pos h]
  rfl

/-- The runs have nothing in common: they lie apart, or take turns. -/
def CaseRun.apart (r r' : CaseRun) : Bool :=
  Nat.blt r.hi r'.lo || Nat.blt r'.hi r.lo ||
    (Nat.beq r'.step 2 && (Nat.beq r.step 2 || Nat.beq r.lo r.hi) &&
      Nat.beq ((r.lo + r'.lo) % 2) 1)

theorem CaseRun.not_covers {r r' : CaseRun} (h : r.apart r' = true) {n : Nat}
    (hn : r.covers n = true) : r'.covers n = false := by
  simp only [apart, Bool.or_eq_true, Bool.and_eq_true, Nat.blt_eq, Nat.beq_eq] at h
  simp only [covers, Bool.and_eq_true, decide_eq_true_eq, beq_iff_eq] at hn
  by_contra hcov
  simp only [covers, Bool.not_eq_false, Bool.and_eq_true, decide_eq_true_eq, beq_iff_eq] at hcov
  obtain ⟨⟨hlo, hhi⟩, hmod⟩ := hn
  obtain ⟨⟨hlo', hhi'⟩, hmod'⟩ := hcov
  rcases h with (hlow | hhigh) | ⟨⟨hstep', hstep⟩, hodd⟩
  · omega
  · omega
  · rw [hstep'] at hmod'
    rcases hstep with hstep | hsingle
    · rw [hstep] at hmod
      omega
    · omega

/-- What the characters of a run are mapped to. -/
def CaseRun.image (r : CaseRun) : CaseRun :=
  ⟨(r.lo + r.delta).toNat, (r.hi + r.delta).toNat, r.step, 0⟩

theorem CaseRun.image_covers {r : CaseRun} (hr : r ∈ lowerTable) {n m : Nat}
    (hn : r.covers n = true) (hm : (m : Int) = n + r.delta) : r.image.covers m = true := by
  have htame := List.all_eq_true.mp lowerTable_tame r hr
  simp only [CaseRun.tame, Bool.and_eq_true, decide_eq_true_eq] at htame
  simp only [covers, image, Bool.and_eq_true, decide_eq_true_eq, beq_iff_eq] at hn ⊢
  obtain ⟨⟨hlo, hhi⟩, hmod⟩ := hn
  have hplace : m - (r.lo + r.delta).toNat = n - r.lo := by omega
  rw [hplace]
  exact ⟨⟨decide_eq_true (by omega), decide_eq_true (by omega)⟩, hmod⟩

theorem lowerTable_apart : (lowerTable.all fun r => lowerTable.all r.image.apart) = true := by
  decide +kernel

/-- The white space, as runs that map nothing. -/
def whitespaceRuns : List CaseRun :=
  [⟨9, 13, 1, 0⟩, ⟨0x20, 0x20, 1, 0⟩, ⟨0x85, 0x85, 1, 0⟩, ⟨0xa0, 0xa0, 1, 0⟩,
    ⟨0x1680, 0x1680, 1, 0⟩, ⟨0x2000, 0x200a, 1, 0⟩, ⟨0x2028, 0x2028, 1, 0⟩, ⟨0x2029, 0x2029, 1, 0⟩,
    ⟨0x202f, 0x202f, 1, 0⟩, ⟨0x205f, 0x205f, 1, 0⟩, ⟨0x3000, 0x3000, 1, 0⟩]

theorem isWhitespace_eq (c : Char) :
    isWhitespace c = whitespaceRuns.any (·.covers c.toNat) := by
  rw [Bool.eq_iff_iff]
  simp [isWhitespace, whitespaceRuns, CaseRun.covers, Nat.mod_one]
  omega

theorem whitespaceRuns_apart :
    (whitespaceRuns.all fun r => lowerTable.all r.apart) = true ∧
      (lowerTable.all fun r => whitespaceRuns.all r.image.apart) = true := by
  decide +kernel

/-- `İ`, which the runs do not map to. -/
def dottedRun : CaseRun := ⟨0x130, 0x130, 1, 0⟩

theorem dottedRun_apart : (lowerTable.all (·.image.apart dottedRun)) = true := by decide +kernel

theorem sigma_covered : (lowerTable.any (·.covers 0x3a3)) = true := by decide +kernel

theorem toNat_image {r : CaseRun} (hr : r ∈ lowerTable) {n : Nat} (hn : r.covers n = true) :
    ((Char.ofNat (n + r.delta).toNat).toNat : Int) = n + r.delta := by
  have htame := List.all_eq_true.mp lowerTable_tame r hr
  simp only [CaseRun.tame, Bool.and_eq_true, Bool.or_eq_true, decide_eq_true_eq] at htame
  simp only [CaseRun.covers, Bool.and_eq_true, decide_eq_true_eq] at hn
  have hv : (n + r.delta).toNat.isValidChar := by unfold Nat.isValidChar; omega
  rw [toNat_ofNat hv]
  omega

/-! ## What a character becomes -/

/-- The character becomes the other one, in some text. -/
inductive Lowers (c : Char) : Char → Prop
  | ascii (low : c.toNat < 128) : Lowers c (toAsciiLowercase c)
  | dotted {d : Char} (code : c.toNat = 0x130) (image : d = 'i' ∨ d = '\u0307') : Lowers c d
  | mapped {d : Char} {r : CaseRun} (high : 128 ≤ c.toNat) (run : r ∈ lowerTable)
    (covered : r.covers c.toNat = true) (image : (d.toNat : Int) = c.toNat + r.delta) : Lowers c d
  | sigma {d : Char} (code : c.toNat = 0x3a3) (image : d = 'ς' ∨ d = 'σ') : Lowers c d
  | same (high : 128 ≤ c.toNat) (undotted : c.toNat ≠ 0x130)
    (free : ∀ r ∈ lowerTable, r.covers c.toNat = false) : Lowers c c

theorem lowers_of_mem_lowerChar {c d : Char} (h : d ∈ lowerChar c) : Lowers c d := by
  unfold lowerChar at h
  by_cases hascii : c.toNat < 128
  · rw [if_pos hascii, List.mem_singleton] at h
    rw [h]
    exact .ascii hascii
  rw [if_neg hascii] at h
  by_cases hdotted : c.toNat = 0x130
  · rw [if_pos hdotted] at h
    exact .dotted hdotted (by simpa using h)
  rw [if_neg hdotted] at h
  cases hfind : lowerTable.find? (·.covers c.toNat) with
  | some r =>
    rw [hfind, List.mem_singleton] at h
    have hr := List.mem_of_find?_eq_some hfind
    have hcov : r.covers c.toNat = true := by simpa using List.find?_some hfind
    refine .mapped (by omega) hr hcov ?_
    rw [h]
    exact toNat_image hr hcov
  | none =>
    rw [hfind, List.mem_singleton] at h
    rw [h]
    exact .same (by omega) hdotted fun r hr => by simpa using List.find?_eq_none.mp hfind r hr

/-- The place of one character in a lowercased text. -/
def lowerAt (before : Text) (c : Char) (s : Text) : Text :=
  if c.toNat = 0x3a3 then [lowerSigma before s] else lowerChar c

theorem toLowercaseFrom_cons (before : Text) (c : Char) (s : Text) :
    toLowercaseFrom before (c :: s) = lowerAt before c s ++ toLowercaseFrom (c :: before) s := rfl

theorem lowers_of_mem_lowerAt {before s : Text} {c d : Char} (h : d ∈ lowerAt before c s) :
    Lowers c d := by
  unfold lowerAt at h
  by_cases hsigma : c.toNat = 0x3a3
  · rw [if_pos hsigma, List.mem_singleton] at h
    refine .sigma hsigma ?_
    rw [h]
    unfold lowerSigma
    split_ifs
    · exact .inl rfl
    · exact .inr rfl
  · rw [if_neg hsigma] at h
    exact lowers_of_mem_lowerChar h

theorem lowerChar_ne_nil (c : Char) : lowerChar c ≠ [] := by
  unfold lowerChar
  split_ifs
  · simp
  · simp
  · cases lowerTable.find? (·.covers c.toNat) <;> simp

theorem lowerAt_ne_nil (before : Text) (c : Char) (s : Text) : lowerAt before c s ≠ [] := by
  unfold lowerAt
  split_ifs
  · simp
  · exact lowerChar_ne_nil c

/-! ## Lowercasing twice -/

/-- The character is its own lowercase, in every text. -/
def Lowered (c : Char) : Prop := lowerChar c = [c] ∧ c.toNat ≠ 0x3a3

theorem lowered_ascii {c : Char} (hc : c.toNat < 128) (h : toAsciiLowercase c = c) : Lowered c := by
  refine ⟨?_, by omega⟩
  rw [lowerChar, if_pos hc, h]

theorem toAsciiLowercase_spec (c : Char) : toAsciiLowercase c = c ∨
    0x41 ≤ c.toNat ∧ c.toNat ≤ 0x5a ∧ (toAsciiLowercase c).toNat = c.toNat + 32 := by
  unfold toAsciiLowercase
  split_ifs with hcap
  · right
    simp only [Bool.and_eq_true, decide_eq_true_eq] at hcap
    have hlo : 0x41 ≤ c.toNat := hcap.1
    have hhi : c.toNat ≤ 0x5a := hcap.2
    have hv : (c.toNat + 32).isValidChar := by unfold Nat.isValidChar; omega
    exact ⟨hlo, hhi, toNat_ofNat hv⟩
  · exact .inl rfl

theorem toAsciiLowercase_of_le {c : Char} (h : 0x5b ≤ c.toNat) : toAsciiLowercase c = c := by
  cases toAsciiLowercase_spec c with
  | inl heq => exact heq
  | inr hcap => omega

theorem toAsciiLowercase_idem (c : Char) :
    toAsciiLowercase (toAsciiLowercase c) = toAsciiLowercase c := by
  cases toAsciiLowercase_spec c with
  | inl heq => rw [heq, heq]
  | inr hcap => exact toAsciiLowercase_of_le (by omega)

theorem toNat_asciiLower_lt {c : Char} (hc : c.toNat < 128) : (toAsciiLowercase c).toNat < 128 := by
  cases toAsciiLowercase_spec c with
  | inl heq => rw [heq]; exact hc
  | inr hcap => omega

theorem lowered_high {c : Char} (hhigh : 128 ≤ c.toNat) (hdotted : c.toNat ≠ 0x130)
    (hfree : ∀ r ∈ lowerTable, r.covers c.toNat = false) : Lowered c := by
  constructor
  · have hfind : lowerTable.find? (·.covers c.toNat) = none :=
      List.find?_eq_none.mpr fun r hr => by simp [hfree r hr]
    rw [lowerChar, if_neg (by omega), if_neg hdotted, hfind]
  · intro hsigma
    obtain ⟨r, hr, hcov⟩ := List.any_eq_true.mp sigma_covered
    have hno := hfree r hr
    rw [hsigma, hcov] at hno
    cases hno

/-- **What a character becomes stays as it is.** -/
theorem lowered_of_lowers {c d : Char} (h : Lowers c d) : Lowered d := by
  cases h with
  | ascii low => exact lowered_ascii (toNat_asciiLower_lt low) (toAsciiLowercase_idem c)
  | dotted code image =>
    rcases image with rfl | rfl
    · exact lowered_ascii (by decide) (by decide)
    · exact ⟨by decide +kernel, by decide⟩
  | @mapped d r high run covered image =>
    have himage := CaseRun.image_covers run covered image
    have hfree : ∀ r' ∈ lowerTable, r'.covers d.toNat = false := by
      intro r' hr'
      have hpair := List.all_eq_true.mp (List.all_eq_true.mp lowerTable_apart r run) r' hr'
      exact CaseRun.not_covers hpair himage
    have hdotted : d.toNat ≠ 0x130 := by
      intro hd
      have hno := CaseRun.not_covers (List.all_eq_true.mp dottedRun_apart r run) himage
      rw [hd] at hno
      revert hno
      decide
    by_cases hascii : d.toNat < 128
    · have htame := List.all_eq_true.mp lowerTable_tame r run
      simp only [CaseRun.tame, Bool.and_eq_true, decide_eq_true_eq] at htame
      simp only [CaseRun.covers, Bool.and_eq_true, decide_eq_true_eq] at covered
      exact lowered_ascii hascii (toAsciiLowercase_of_le (by omega))
    · exact lowered_high (by omega) hdotted hfree
  | sigma code image =>
    rcases image with rfl | rfl
    · exact ⟨by decide +kernel, by decide⟩
    · exact ⟨by decide +kernel, by decide⟩
  | same high undotted free => exact lowered_high high undotted free

theorem lowers_of_mem_toLowercaseFrom {s : Text} : ∀ {before : Text} {d : Char},
    d ∈ toLowercaseFrom before s → ∃ c ∈ s, Lowers c d := by
  induction s with
  | nil =>
    intro before d h
    cases h
  | cons c s ih =>
    intro before d h
    rw [toLowercaseFrom_cons, List.mem_append] at h
    cases h with
    | inl h => exact ⟨c, List.mem_cons_self, lowers_of_mem_lowerAt h⟩
    | inr h =>
      obtain ⟨c', hc', hlow⟩ := ih h
      exact ⟨c', List.mem_cons_of_mem _ hc', hlow⟩

theorem exists_mem_toLowercaseFrom {s : Text} {c : Char} (h : c ∈ s) : ∀ before : Text,
    ∃ d ∈ toLowercaseFrom before s, Lowers c d := by
  induction s with
  | nil => cases h
  | cons c' s ih =>
    intro before
    rw [toLowercaseFrom_cons]
    cases List.mem_cons.mp h with
    | inl heq =>
      rw [← heq]
      obtain ⟨d, hd⟩ := List.exists_mem_of_ne_nil _ (lowerAt_ne_nil before c s)
      exact ⟨d, List.mem_append_left _ hd, lowers_of_mem_lowerAt hd⟩
    | inr hmem =>
      obtain ⟨d, hd, hlow⟩ := ih hmem (c' :: before)
      exact ⟨d, List.mem_append_right _ hd, hlow⟩

theorem toLowercaseFrom_of_lowered {s : Text} : ∀ (before : Text), (∀ c ∈ s, Lowered c) →
    toLowercaseFrom before s = s := by
  induction s with
  | nil =>
    intro before _
    rfl
  | cons c s ih =>
    intro before h
    obtain ⟨hc, hsigma⟩ := h c List.mem_cons_self
    rw [toLowercaseFrom_cons, ih _ fun d hd => h d (List.mem_cons_of_mem _ hd), lowerAt,
      if_neg hsigma, hc]
    rfl

theorem lowered_of_mem_toLowercase {s : Text} : ∀ c ∈ toLowercase s, Lowered c := by
  intro d hd
  obtain ⟨c, -, h⟩ := lowers_of_mem_toLowercaseFrom hd
  exact lowered_of_lowers h

theorem toLowercase_of_subset {s t : Text} (h : t ⊆ toLowercase s) : toLowercase t = t :=
  toLowercaseFrom_of_lowered [] fun c hc => lowered_of_mem_toLowercase c (h hc)

/-- **Lowercasing twice is lowercasing once.** -/
theorem toLowercase_toLowercase (s : Text) : toLowercase (toLowercase s) = toLowercase s :=
  toLowercase_of_subset (List.Subset.refl _)

/-! ## White space and dots -/

theorem isWhitespace_of_letter {c : Char} (hlo : 0x41 ≤ c.toNat) (hhi : c.toNat < 0x80) :
    isWhitespace c = false := by
  simp [isWhitespace]
  omega

/-- **White space stays white space, and nothing becomes it.** -/
theorem isWhitespace_of_lowers {c d : Char} (h : Lowers c d) : isWhitespace d = isWhitespace c := by
  have hno : ∀ {e : Char}, (whitespaceRuns.any (·.covers e.toNat)) = false →
      isWhitespace e = false := fun h => (isWhitespace_eq _).trans h
  cases h with
  | ascii low =>
    cases toAsciiLowercase_spec c with
    | inl heq => rw [heq]
    | inr hcap =>
      rw [isWhitespace_of_letter (by omega) (by omega), isWhitespace_of_letter (by omega) low]
  | dotted code image =>
    have hc : isWhitespace c = false := hno (by rw [code]; decide)
    rw [hc]
    rcases image with rfl | rfl <;> decide
  | @mapped d r high run covered image =>
    have hd : isWhitespace d = false := by
      refine hno (List.any_eq_false.mpr fun w hw => ?_)
      have hpair := List.all_eq_true.mp (List.all_eq_true.mp whitespaceRuns_apart.2 r run) w hw
      simp [CaseRun.not_covers hpair (CaseRun.image_covers run covered image)]
    have hc : isWhitespace c = false := by
      refine hno (List.any_eq_false.mpr fun w hw hcov => ?_)
      have hpair := List.all_eq_true.mp (List.all_eq_true.mp whitespaceRuns_apart.1 w hw) r run
      have hfree := CaseRun.not_covers hpair hcov
      rw [covered] at hfree
      cases hfree
    rw [hd, hc]
  | sigma code image =>
    have hc : isWhitespace c = false := hno (by rw [code]; decide)
    rw [hc]
    rcases image with rfl | rfl <;> decide
  | same => rfl

/-- **Below `a`, a character comes from itself only.** -/
theorem eq_of_lowers {c d : Char} (h : Lowers c d) (hd : d.toNat < 0x61) : d = c := by
  cases h with
  | ascii low =>
    cases toAsciiLowercase_spec c with
    | inl heq => exact heq
    | inr hcap => omega
  | dotted code image => rcases image with rfl | rfl <;> exact absurd hd (by decide)
  | @mapped d r high run covered image =>
    have htame := List.all_eq_true.mp lowerTable_tame r run
    simp only [CaseRun.tame, Bool.and_eq_true, decide_eq_true_eq] at htame
    simp only [CaseRun.covers, Bool.and_eq_true, decide_eq_true_eq] at covered
    omega
  | sigma code image => rcases image with rfl | rfl <;> exact absurd hd (by decide)
  | same => rfl

theorem lowers_eq {c d : Char} (h : Lowers c d) (hc : c.toNat < 0x41) : d = c := by
  cases h with
  | ascii low =>
    cases toAsciiLowercase_spec c with
    | inl heq => exact heq
    | inr hcap => omega
  | dotted code image => omega
  | mapped high run covered image => omega
  | sigma code image => omega
  | same => rfl

/-- **Lowercasing neither adds nor drops a character below `A`.** -/
theorem mem_toLowercase_iff {c : Char} (hc : c.toNat < 0x41) {s : Text} :
    c ∈ toLowercase s ↔ c ∈ s := by
  constructor
  · intro h
    obtain ⟨d, hd, hlow⟩ := lowers_of_mem_toLowercaseFrom h
    rwa [eq_of_lowers hlow (by omega)]
  · intro h
    obtain ⟨d, hd, hlow⟩ := exists_mem_toLowercaseFrom h []
    rwa [← lowers_eq hlow hc]

/-! ## Both ends of a text -/

variable {p : Char → Bool}

/-- A property that lowercasing neither gives nor takes. -/
def Steady (p : Char → Bool) : Prop := ∀ {c d : Char}, Lowers c d → p d = p c

theorem head?_toLowercaseFrom (hp : Steady p) (before s : Text) :
    (toLowercaseFrom before s).head?.any p = s.head?.any p := by
  cases s with
  | nil => rfl
  | cons c s =>
    rw [toLowercaseFrom_cons]
    cases hat : lowerAt before c s with
    | nil => exact absurd hat (lowerAt_ne_nil before c s)
    | cons d ds =>
      have hmem : d ∈ lowerAt before c s := by simp [hat]
      exact hp (lowers_of_mem_lowerAt hmem)

theorem getLast?_toLowercaseFrom (hp : Steady p) (s : Text) : ∀ before,
    (toLowercaseFrom before s).getLast?.any p = s.getLast?.any p := by
  induction s with
  | nil => intro before; rfl
  | cons c s ih =>
    intro before
    rw [toLowercaseFrom_cons]
    cases s with
    | nil =>
      have hne := lowerAt_ne_nil before c []
      have hmem := List.getLast_mem hne
      rw [toLowercaseFrom, List.append_nil, List.getLast?_eq_some_getLast hne]
      exact hp (lowers_of_mem_lowerAt hmem)
    | cons c' s =>
      have hne : toLowercaseFrom (c :: before) (c' :: s) ≠ [] := by
        rw [toLowercaseFrom_cons]
        exact List.append_ne_nil_of_left_ne_nil (lowerAt_ne_nil _ _ _) _
      rw [List.getLast?_append_of_ne_nil _ hne, ih, List.getLast?_cons_cons]

/-- **A lowercased text is trimmed exactly if the text was.** -/
theorem trim_toLowercase_iff {s : Text} :
    (toLowercase s).trim = toLowercase s ↔ s.trim = s := by
  rw [Text.trim_eq_self_iff, Text.trim_eq_self_iff, toLowercase,
    head?_toLowercaseFrom isWhitespace_of_lowers, getLast?_toLowercaseFrom isWhitespace_of_lowers]

theorem steady_of_lt {a : Char} (ha : a.toNat < 0x41) : Steady (· == a) := by
  intro c d h
  rw [Bool.eq_iff_iff, beq_iff_eq, beq_iff_eq]
  constructor
  · intro hd
    have hlt : d.toNat < 0x61 := by rw [hd]; omega
    rw [← eq_of_lowers h hlt, hd]
  · intro hc
    have hlt : c.toNat < 0x41 := by rw [hc]; exact ha
    rw [lowers_eq h hlt, hc]

theorem trimEndMatches_toLowercase_iff {a : Char} (ha : a.toNat < 0x41) {s : Text} :
    (toLowercase s).trimEndMatches a = toLowercase s ↔ s.trimEndMatches a = s := by
  unfold Text.trimEndMatches
  rw [rdropWhile_eq_self_iff_any, rdropWhile_eq_self_iff_any, toLowercase,
    getLast?_toLowercaseFrom (steady_of_lt ha)]

/-! ## ASCII prefixes -/

/-- Only the Kelvin sign comes down to ASCII by a run. -/
theorem lowerTable_high : (lowerTable.all fun r =>
    decide (128 ≤ r.lo + r.delta) || decide (r.lo + r.delta = 0x6b ∧ r.hi = r.lo)) = true := by
  decide +kernel

theorem toNat_lt_of_toAsciiLowercase {c : Char} (h : (toAsciiLowercase c).toNat < 128) :
    c.toNat < 128 := by
  cases toAsciiLowercase_spec c with
  | inl heq => rwa [heq] at h
  | inr hcap => omega

/-- But for `k` and the beginning of `İ`, an ASCII character comes from ASCII only. -/
theorem ascii_of_lowers {c d : Char} (h : Lowers c d) (hd : d.toNat < 128) (hk : d ≠ 'k') :
    c.toNat < 128 ∨ c.toNat = 0x130 ∧ d = 'i' := by
  cases h with
  | ascii low => exact .inl low
  | dotted code image =>
    rcases image with rfl | rfl
    · exact .inr ⟨code, rfl⟩
    · exact absurd hd (by decide)
  | @mapped d r high run covered image =>
    have hrun := List.all_eq_true.mp lowerTable_high r run
    simp only [CaseRun.covers, Bool.and_eq_true, decide_eq_true_eq] at covered
    simp only [Bool.or_eq_true, decide_eq_true_eq] at hrun
    rcases hrun with hrun | hrun
    · omega
    · refine absurd (Char.toNat_inj.mp ?_) hk
      change d.toNat = 0x6b
      omega
  | sigma code image => rcases image with rfl | rfl <;> exact absurd hd (by decide)
  | same high => omega

theorem toAsciiLowercase_eq_iff {c d : Char} (hd : d.toNat < 0x41) :
    toAsciiLowercase c = d ↔ c = d := by
  cases toAsciiLowercase_spec c with
  | inl heq => rw [heq]
  | inr hcap =>
    refine iff_of_false (fun h => ?_) (fun h => ?_)
    · rw [h] at hcap
      omega
    · rw [h] at hcap
      omega

theorem lowerAt_ascii {c : Char} (hc : c.toNat < 128) (before s : Text) :
    lowerAt before c s = [toAsciiLowercase c] := by
  rw [lowerAt, if_neg (by omega), lowerChar, if_pos hc]

/-- An ASCII text that is the lowercase of ASCII only. -/
def Asciiwise (p : Text) : Prop := (∀ d ∈ p, d.toNat < 128 ∧ d ≠ 'k') ∧ p.getLast? ≠ some 'i'

theorem asciiwise_of_all {p : Text} (h : (p.all fun d => d.toNat < 128 && d != 'k') = true)
    (hlast : p.getLast? ≠ some 'i') : Asciiwise p :=
  ⟨fun d hd => by simpa using List.all_eq_true.mp h d hd, hlast⟩

theorem Asciiwise.tail {d : Char} {p : Text} (h : Asciiwise (d :: p)) : Asciiwise p := by
  refine ⟨fun e he => h.1 e (List.mem_cons_of_mem _ he), ?_⟩
  cases p with
  | nil => simp
  | cons e p => simpa using h.2

/-- Above ASCII, only `İ` has an image that begins in ASCII, and the next character is above it. -/
theorem Asciiwise.not_prefix_lowerAt {d c : Char} {p : Text} (h : Asciiwise (d :: p))
    (hc : ¬ c.toNat < 128) (before s t : Text) : ¬ d :: p <+: lowerAt before c s ++ t := by
  intro hpre
  obtain ⟨hd, hk⟩ := h.1 d List.mem_cons_self
  cases hat : lowerAt before c s with
  | nil => exact lowerAt_ne_nil before c s hat
  | cons e es =>
    rw [hat, List.cons_append, List.cons_prefix_cons] at hpre
    obtain ⟨rfl, hpre⟩ := hpre
    have hlow : Lowers c d := lowers_of_mem_lowerAt (by rw [hat]; exact List.mem_cons_self)
    obtain ⟨hcode, rfl⟩ := (ascii_of_lowers hlow hd hk).resolve_left hc
    have himage : lowerAt before c s = ['i', '\u0307'] := by
      rw [lowerAt, if_neg (by omega), lowerChar, if_neg hc, if_pos hcode]
    rw [himage] at hat
    cases hat
    cases p with
    | nil => exact h.2 rfl
    | cons e p =>
      rw [List.singleton_append, List.cons_prefix_cons] at hpre
      have hascii := (h.1 e (by simp)).1
      rw [hpre.1] at hascii
      exact absurd hascii (by decide)

/-- **An ASCII prefix of a lowercased text comes from a prefix that differs in ASCII case only**,
unless it holds a `k`, which the Kelvin sign becomes, or ends in an `i`, as `İ` begins. -/
theorem Asciiwise.prefix_toLowercaseFrom_iff {p : Text} (h : Asciiwise p) (before s : Text) :
    p <+: toLowercaseFrom before s ↔ ∃ q t, s = q ++ t ∧ q.map toAsciiLowercase = p := by
  induction p generalizing before s with
  | nil => exact iff_of_true List.nil_prefix ⟨[], s, rfl, rfl⟩
  | cons d p ih =>
    -- the first characters, one from the other
    have hcons : ∀ {c s}, (∃ q t, c :: s = q ++ t ∧ q.map toAsciiLowercase = d :: p) ↔
        toAsciiLowercase c = d ∧ ∃ q t, s = q ++ t ∧ q.map toAsciiLowercase = p := by
      intro c s
      constructor
      · rintro ⟨_ | ⟨c', q⟩, t, hs, hq⟩
        · cases hq
        · cases hs
          cases hq
          exact ⟨rfl, q, t, rfl, rfl⟩
      · rintro ⟨rfl, q, t, rfl, rfl⟩
        exact ⟨c :: q, t, rfl, rfl⟩
    cases s with
    | nil =>
      refine iff_of_false (fun hpre => by simp [toLowercaseFrom] at hpre) ?_
      rintro ⟨q, t, hs, hq⟩
      rw [(List.append_eq_nil_iff.mp hs.symm).1] at hq
      cases hq
    | cons c s =>
      rw [toLowercaseFrom_cons, hcons]
      by_cases hc : c.toNat < 128
      · rw [lowerAt_ascii hc, List.singleton_append, List.cons_prefix_cons, ih h.tail, eq_comm]
      · refine iff_of_false (h.not_prefix_lowerAt hc before s _) fun hlow => hc ?_
        exact toNat_lt_of_toAsciiLowercase (hlow.1 ▸ (h.1 d List.mem_cons_self).1)

theorem Asciiwise.startsWith_toLowercase_iff {p : Text} (h : Asciiwise p) {s : Text} :
    (toLowercase s).startsWith p = true ↔ ∃ q t, s = q ++ t ∧ q.map toAsciiLowercase = p :=
  List.isPrefixOf_iff_prefix.trans (h.prefix_toLowercaseFrom_iff [] s)

end Rust
