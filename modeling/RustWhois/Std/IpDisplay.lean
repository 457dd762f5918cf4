import RustWhois.Std.IpAddr

/-!
# Addresses read back

`FromStr` of an IP address inverts its `Display`.

* `readNumber_toDigits`: a number is read back from its digits;
* `readGroups_groupsText`: groups are read back up to a `::` or the end;
* `zeroRun_spec`: what `Display` leaves out of an IPv6 address is zero;
* **`parse_toText`**: every address is read back from its text;
* `IpAddr.bounds_of_mem_toText`: the text is printable ASCII;
* **`numeric_or_colon`**: a text that is read as an address holds a `:`, or digits and dots only.
-/

namespace Rust

/-! ## Numbers -/

/-- What the digits of a base are read as. -/
def ReadsDigits (b : Nat) : Prop := 1 < b ∧ ∀ d < b, toDigit b (Nat.digitChar d) = some d

theorem readsDigits_ten : ReadsDigits 10 := ⟨by omega, by decide⟩

theorem readsDigits_sixteen : ReadsDigits 16 := ⟨by omega, by decide⟩

/-- The number that digits denote. -/
def digitsValue (b : Nat) (ds : Text) : Nat :=
  (ds.filterMap (toDigit b)).foldl (fun n d => n * b + d) 0

section Digits

variable {b : Nat} (hb : ReadsDigits b)
include hb

theorem isSome_of_mem_toDigits (n : Nat) : ∀ c ∈ Nat.toDigits b n, (toDigit b c).isSome := by
  induction n using Nat.strongRecOn with
  | ind n ih =>
    obtain ⟨hone, hread⟩ := hb
    intro c hc
    by_cases hlt : n < b
    · rw [Nat.toDigits_of_lt_base hlt, List.mem_singleton] at hc
      rw [hc, hread n hlt]
      rfl
    · rw [Nat.toDigits_of_base_le hone (by omega), List.mem_append, List.mem_singleton] at hc
      cases hc with
      | inl hc => exact ih (n / b) (Nat.div_lt_self (by omega) hone) c hc
      | inr hc =>
        rw [hc, hread _ (Nat.mod_lt n (by omega))]
        rfl

theorem digitsValue_toDigits (n : Nat) : digitsValue b (Nat.toDigits b n) = n := by
  induction n using Nat.strongRecOn with
  | ind n ih =>
    obtain ⟨hone, hread⟩ := hb
    unfold digitsValue at ih ⊢
    by_cases hlt : n < b
    · simp [Nat.toDigits_of_lt_base hlt, hread n hlt]
    · have hmod := hread _ (Nat.mod_lt n (show 0 < b by omega))
      rw [Nat.toDigits_of_base_le hone (by omega), List.filterMap_append, List.foldl_append,
        ih (n / b) (Nat.div_lt_self (by omega) hone)]
      simp only [List.filterMap_cons, hmod, List.filterMap_nil, List.foldl_cons, List.foldl_nil]
      rw [Nat.mul_comm]
      exact Nat.div_add_mod n b

theorem head_toDigits_ne {n : Nat} (hn : 0 < n) : (Nat.toDigits b n).head? ≠ some '0' := by
  induction n using Nat.strongRecOn with
  | ind n ih =>
    have hone := hb.1
    by_cases hlt : n < b
    · rw [Nat.toDigits_of_lt_base hlt]
      simp
      omega
    · rw [Nat.toDigits_of_base_le hone (by omega), List.head?_append_of_ne_nil _ Nat.toDigits_ne_nil]
      exact ih (n / b) (Nat.div_lt_self (by omega) hone) (Nat.div_pos (by omega) (by omega))

/-- **A number is read back from its digits.** -/
theorem readNumber_toDigits {n maxDigits bound : Nat} {allowZeroPrefix : Bool} {rest : Text}
    (hdigits : 0 < maxDigits) (hlen : n < b ^ maxDigits) (hbound : n ≤ bound)
    (hrest : ∀ c ∈ rest.head?, toDigit b c = none) :
    readNumber b maxDigits allowZeroPrefix bound (Nat.toDigits b n ++ rest) = some (n, rest) := by
  have hall := isSome_of_mem_toDigits hb n
  have htake : (Nat.toDigits b n ++ rest).takeWhile (fun c => (toDigit b c).isSome) =
      Nat.toDigits b n := by
    rw [List.takeWhile_append_of_pos hall]
    cases rest with
    | nil => simp
    | cons c rest => simp [hrest c rfl]
  have hle : ¬ maxDigits < (Nat.toDigits b n).length :=
    Nat.not_lt.mpr ((Nat.length_toDigits_le_iff hb.1 hdigits).mpr hlen)
  have hvalue := digitsValue_toDigits hb n
  unfold digitsValue at hvalue
  have hprefix : (!allowZeroPrefix && (Nat.toDigits b n).head? == some '0' &&
      decide (1 < (Nat.toDigits b n).length)) = false := by
    cases n with
    | zero => simp
    | succ n => simp [head_toDigits_ne hb (Nat.succ_pos n)]
  simp only [readNumber, htake]
  rw [if_neg hle, if_neg (by simp [Nat.toDigits_ne_nil]), hprefix, hvalue,
    if_neg (by simp), if_neg (by omega), List.drop_left]

end Digits

theorem readNumber_eq_some {b maxDigits bound n : Nat} {allowZeroPrefix : Bool} {s r : Text}
    (h : readNumber b maxDigits allowZeroPrefix bound s = some (n, r)) :
    s.takeWhile (fun c => (toDigit b c).isSome) ++ r = s ∧
      r = s.dropWhile fun c => (toDigit b c).isSome := by
  simp only [readNumber] at h
  split_ifs at h
  cases h
  set digits := s.takeWhile fun c => (toDigit b c).isSome
  set others := s.dropWhile fun c => (toDigit b c).isSome
  have hsplit : digits ++ others = s := List.takeWhile_append_dropWhile
  have hdrop : s.drop digits.length = others := by
    rw [← hsplit]
    exact List.drop_left
  rw [hdrop]
  exact ⟨hsplit, rfl⟩

/-! ## IPv4 -/

theorem readOctet_natText (o : UInt8) {rest : Text} (hrest : ∀ c ∈ rest.head?, toDigit 10 c = none) :
    readOctet (natText o.toNat ++ rest) = some (o, rest) := by
  have ho := o.toNat_lt
  unfold readOctet natText
  rw [readNumber_toDigits readsDigits_ten (by omega) (by omega) (by omega) hrest]
  simp

theorem readIpv4Addr_toText (a : Ipv4Addr) : readIpv4Addr a.toText = some (a, []) := by
  have hdot : ∀ s : Text, ∀ c ∈ ('.' :: s).head?, toDigit 10 c = none := by
    intro s c hc
    cases hc
    decide
  have htext : a.toText = natText a.o0.toNat ++ '.' :: (natText a.o1.toNat ++
      '.' :: (natText a.o2.toNat ++ '.' :: (natText a.o3.toNat ++ []))) := by
    simp [Ipv4Addr.toText, Ipv4Addr.octets, Text.join]
  rw [htext]
  unfold readIpv4Addr
  simp only [readOctet_natText _ (hdot _), readGivenChar, if_true, Option.bind_eq_bind,
    Option.bind_some]
  rw [readOctet_natText _ (by simp)]
  rfl

/-- The end of a text, or a colon. -/
def AtColon (s : Text) : Prop := ∀ c ∈ s.head?, c = ':'

theorem atColon_nil : AtColon [] := by
  intro c hc
  cases hc

theorem atColon_cons (s : Text) : AtColon (':' :: s) := by
  intro c hc
  cases hc
  rfl

theorem AtColon.toDigit_eq_none {s : Text} (h : AtColon s) (b : Nat) :
    ∀ c ∈ s.head?, toDigit b c = none := by
  intro c hc
  rw [h c hc]
  have hval : toDigit b ':' = if b < b then some b else none := rfl
  rw [hval, if_neg (by omega)]

theorem readOctet_eq_some {s r : Text} {o : UInt8} (h : readOctet s = some (o, r)) :
    s.takeWhile (fun c => (toDigit 10 c).isSome) ++ r = s ∧
      r = s.dropWhile fun c => (toDigit 10 c).isSome := by
  obtain ⟨⟨n, r'⟩, hread, heq⟩ := Option.map_eq_some_iff.mp h
  cases heq
  exact readNumber_eq_some hread

theorem readGivenChar_eq_some {d : Char} {s r : Text} (h : readGivenChar d s = some r) :
    s = d :: r := by
  cases s with
  | nil => cases h
  | cons c s =>
    by_cases hc : c = d
    · simpa [readGivenChar, hc] using h
    · simp [readGivenChar, hc] at h

theorem readIpv4Addr_eq_some {s r : Text} {a : Ipv4Addr} (h : readIpv4Addr s = some (a, r)) :
    ∃ o0 o1 o2 o3 r0 r1 r2, readOctet s = some (o0, '.' :: r0) ∧
      readOctet r0 = some (o1, '.' :: r1) ∧ readOctet r1 = some (o2, '.' :: r2) ∧
      readOctet r2 = some (o3, r) := by
  unfold readIpv4Addr at h
  simp only [Option.bind_eq_bind, Option.bind_eq_some_iff, Option.pure_def] at h
  obtain ⟨⟨o0, s0⟩, h0, r0, hr0, ⟨o1, s1⟩, h1, r1, hr1, ⟨o2, s2⟩, h2, r2, hr2, ⟨o3, s3⟩, h3, heq⟩ := h
  cases heq
  cases readGivenChar_eq_some hr0
  cases readGivenChar_eq_some hr1
  cases readGivenChar_eq_some hr2
  exact ⟨o0, o1, o2, o3, r0, r1, r2, h0, h1, h2, h3⟩

/-- No IPv4 address is read where a group or nothing comes before a colon or the end. -/
theorem readIpv4Addr_eq_none {t rest : Text} (ht : '.' ∉ t) (hrest : AtColon rest) :
    readIpv4Addr (t ++ rest) = none := by
  have hhead : ((t ++ rest).dropWhile fun c => (toDigit 10 c).isSome).head? ≠ some '.' := by
    induction t with
    | nil =>
      intro hc
      cases rest with
      | nil => cases hc
      | cons c rest =>
        cases hrest c rfl
        rw [List.nil_append, List.dropWhile_cons_of_neg (by decide)] at hc
        simp at hc
    | cons c t ih =>
      obtain ⟨hne, hmem⟩ := List.ne_and_not_mem_of_not_mem_cons ht
      rw [List.cons_append, List.dropWhile_cons]
      split_ifs
      · exact ih hmem
      · intro hc
        exact hne (Option.some.inj hc).symm
  rcases hread : readIpv4Addr (t ++ rest) with _ | ⟨a, r⟩
  · rfl
  · obtain ⟨o0, -, -, -, r0, -, -, h0, -⟩ := readIpv4Addr_eq_some hread
    rw [← (readOctet_eq_some h0).2] at hhead
    exact absurd rfl hhead

/-! ## Groups -/

/-- A group as it is displayed. -/
def groupText (g : UInt16) : Text := Nat.toDigits 16 g.toNat

theorem not_mem_groupText {c : Char} (hc : toDigit 16 c = none) (g : UInt16) : c ∉ groupText g := by
  intro hmem
  have hsome := isSome_of_mem_toDigits readsDigits_sixteen _ c hmem
  rw [hc] at hsome
  cases hsome

theorem readGroup_groupText (g : UInt16) {rest : Text} (hrest : AtColon rest) :
    readGroup (groupText g ++ rest) = some (g, rest) := by
  have hg := g.toNat_lt
  unfold readGroup groupText
  rw [readNumber_toDigits readsDigits_sixteen (by omega) (by omega) (by omega)
    (hrest.toDigit_eq_none 16)]
  simp

theorem readIpv4Addr_groupText (g : UInt16) {rest : Text} (hrest : AtColon rest) :
    readIpv4Addr (groupText g ++ rest) = none :=
  readIpv4Addr_eq_none (not_mem_groupText (by decide) g) hrest

/-- Groups that come after a first one. -/
def moreGroups (gs : List UInt16) : Text := gs.flatMap fun g => ':' :: groupText g

theorem moreGroups_cons (g : UInt16) (gs : List UInt16) :
    moreGroups (g :: gs) = ':' :: (groupText g ++ moreGroups gs) := rfl

theorem groupsText_cons (g : UInt16) (gs : List UInt16) :
    groupsText (g :: gs) = groupText g ++ moreGroups gs := by
  induction gs generalizing g with
  | nil => simp [groupsText, Text.join, moreGroups, groupText]
  | cons h gs ih =>
    rw [moreGroups_cons, ← ih h]
    simp [groupsText, Text.join, groupText]

/-- The end of a text, or the two colons for the groups left out. -/
def AtGap (s : Text) : Prop := s = [] ∨ ∃ t, s = ':' :: ':' :: t

theorem AtGap.atColon {s : Text} (h : AtGap s) : AtColon s := by
  rcases h with rfl | ⟨t, rfl⟩
  · exact atColon_nil
  · exact atColon_cons _

theorem atColon_moreGroups (gs : List UInt16) {rest : Text} (hrest : AtColon rest) :
    AtColon (moreGroups gs ++ rest) := by
  cases gs with
  | nil => exact hrest
  | cons g gs => exact atColon_cons _

theorem readGroup_eq_none {s : Text} (h : AtColon s) : readGroup s = none := by
  cases s with
  | nil => rfl
  | cons c s =>
    cases h c rfl
    have htake : (':' :: s).takeWhile (fun c => (toDigit 16 c).isSome) = [] :=
      List.takeWhile_cons_of_neg (by decide)
    simp [readGroup, readNumber, htake]

theorem readGroups_atGap (isFirst : Bool) (n : Nat) {s : Text} (h : AtGap s) :
    readGroups isFirst n s = ([], false, s) := by
  have hstart : ∀ {t : Text}, AtColon t → readIpv4Addr t = none :=
    fun ht => readIpv4Addr_eq_none (t := []) (by simp) ht
  cases n with
  | zero => rfl
  | succ n =>
    have hv4 : readSeparator isFirst readIpv4Addr s = none := by
      cases isFirst with
      | true => exact hstart h.atColon
      | false =>
        rcases h with rfl | ⟨t, rfl⟩
        · rfl
        · exact hstart (atColon_cons t)
    have hgroup : readSeparator isFirst readGroup s = none := by
      cases isFirst with
      | true => exact readGroup_eq_none h.atColon
      | false =>
        rcases h with rfl | ⟨t, rfl⟩
        · rfl
        · exact readGroup_eq_none (atColon_cons t)
    rw [readGroups, hv4, hgroup]
    simp

theorem readGroups_moreGroups (gs : List UInt16) {rest : Text} (hrest : AtGap rest) : ∀ n,
    gs.length ≤ n → readGroups false n (moreGroups gs ++ rest) = (gs, false, rest) := by
  induction gs with
  | nil =>
    intro n _
    exact readGroups_atGap false n hrest
  | cons g gs ih =>
    intro n hn
    rw [List.length_cons] at hn
    obtain ⟨m, rfl⟩ : ∃ m, n = m + 1 := ⟨n - 1, by omega⟩
    have hat := atColon_moreGroups gs hrest.atColon
    have hv4 : readSeparator false readIpv4Addr (moreGroups (g :: gs) ++ rest) = none := by
      rw [moreGroups_cons, List.cons_append, List.append_assoc]
      exact readIpv4Addr_groupText g hat
    have hgroup : readSeparator false readGroup (moreGroups (g :: gs) ++ rest) =
        some (g, moreGroups gs ++ rest) := by
      rw [moreGroups_cons, List.cons_append, List.append_assoc]
      exact readGroup_groupText g hat
    rw [readGroups, hv4, hgroup, ite_self]
    simp only [ih m (by omega)]

/-- **Groups are read back, up to the two colons or the end.** -/
theorem readGroups_groupsText (gs : List UInt16) {rest : Text} (hrest : AtGap rest) {n : Nat}
    (hn : gs.length ≤ n) : readGroups true n (groupsText gs ++ rest) = (gs, false, rest) := by
  cases gs with
  | nil => exact readGroups_atGap true n hrest
  | cons g gs =>
    rw [List.length_cons] at hn
    obtain ⟨m, rfl⟩ : ∃ m, n = m + 1 := ⟨n - 1, by omega⟩
    have hat := atColon_moreGroups gs hrest.atColon
    have hv4 : readSeparator true readIpv4Addr (groupsText (g :: gs) ++ rest) = none := by
      rw [groupsText_cons, List.append_assoc]
      exact readIpv4Addr_groupText g hat
    have hgroup : readSeparator true readGroup (groupsText (g :: gs) ++ rest) =
        some (g, moreGroups gs ++ rest) := by
      rw [groupsText_cons, List.append_assoc]
      exact readGroup_groupText g hat
    rw [readGroups, hv4, hgroup, ite_self]
    simp only [readGroups_moreGroups gs hrest m (by omega)]

/-! ## IPv6 -/

/-- A span of zeros, by its start and length. -/
def ZeroSpan (gs : List UInt16) (span : Nat × Nat) : Prop :=
  ∃ before after, gs = before ++ List.replicate span.2 0 ++ after ∧ before.length = span.1

theorem ZeroSpan.append {gs : List UInt16} {span : Nat × Nat} (h : ZeroSpan gs span)
    (gs' : List UInt16) : ZeroSpan (gs ++ gs') span := by
  obtain ⟨before, after, rfl, hlen⟩ := h
  exact ⟨before, after ++ gs', by simp, hlen⟩

/-- The span that ends where the groups end; an empty one starts anywhere. -/
def EndsIn (gs : List UInt16) (span : Nat × Nat) : Prop :=
  span.2 = 0 ∨ ∃ before, gs = before ++ List.replicate span.2 0 ∧ before.length = span.1

theorem EndsIn.zeroSpan {gs : List UInt16} {span : Nat × Nat} (h : EndsIn gs span)
    (hpos : 0 < span.2) : ZeroSpan gs span := by
  rcases h with h | ⟨before, rfl, hlen⟩
  · omega
  · exact ⟨before, [], by simp, hlen⟩

/-- **What `zeroRun` finds is a span of zeros**, over the groups seen so far and those to come. -/
theorem zeroRun_spec (gs : List UInt16) : ∀ (seen : List UInt16) (longest current : Nat × Nat),
    ZeroSpan seen longest → EndsIn seen current →
      ZeroSpan (seen ++ gs) (zeroRun seen.length longest current gs) := by
  induction gs with
  | nil =>
    intro seen longest current hlongest _
    rw [List.append_nil]
    exact hlongest
  | cons g gs ih =>
    intro seen longest current hlongest hcurrent
    have hsplit : seen ++ g :: gs = (seen ++ [g]) ++ gs := by simp
    have hlen : seen.length + 1 = (seen ++ [g]).length := by simp
    rw [zeroRun, hsplit, hlen]
    by_cases hg : g = 0
    · subst hg
      rw [if_pos rfl]
      dsimp only
      -- the current span, one group longer
      set next := if current.2 = 0 then (seen.length, 1) else (current.1, current.2 + 1) with hnext
      have hends : EndsIn (seen ++ [0]) next := by
        right
        by_cases hzero : current.2 = 0
        · rw [hnext, if_pos hzero]
          exact ⟨seen, rfl, rfl⟩
        · rw [hnext, if_neg hzero]
          obtain ⟨before, hseen, hstart⟩ := hcurrent.resolve_left hzero
          exact ⟨before, by rw [hseen, List.replicate_succ', List.append_assoc], hstart⟩
      refine ih _ _ _ ?_ hends
      split_ifs with hlonger
      · exact hends.zeroSpan (by omega)
      · exact hlongest.append _
    · rw [if_neg hg]
      exact ih _ _ _ (hlongest.append _) (.inl rfl)

theorem ofSegments_segments (a : Ipv6Addr) : Ipv6Addr.ofSegments a.segments = some a := rfl

theorem toIpv6Mapped_of_toIpv4Mapped {a : Ipv6Addr} {b : Ipv4Addr} (h : a.toIpv4Mapped = some b) :
    b.toIpv6Mapped = a := by
  have hgroup : ∀ s : UInt16, Ipv4Addr.group (s >>> 8).toUInt8 s.toUInt8 = s := by
    intro s
    have hs := s.toNat_lt
    apply UInt16.toNat_inj.mp
    simp only [Ipv4Addr.group, UInt16.toNat_ofNat', UInt16.toNat_toUInt8, UInt16.toNat_shiftRight]
    simp [Nat.shiftRight_eq_div_pow]
    omega
  obtain ⟨s0, s1, s2, s3, s4, s5, s6, s7⟩ := a
  unfold Ipv6Addr.toIpv4Mapped at h
  by_cases hmapped : (Ipv6Addr.segments ⟨s0, s1, s2, s3, s4, s5, s6, s7⟩).take 6 =
      [0, 0, 0, 0, 0, 0xffff]
  · rw [if_pos hmapped] at h
    cases h
    simp [Ipv6Addr.segments] at hmapped
    simp [Ipv4Addr.toIpv6Mapped, hgroup, hmapped]
  · rw [if_neg hmapped] at h
    cases h

@[simp] theorem readGivenChar_cons (c : Char) (s : Text) : readGivenChar c (c :: s) = some s := by
  simp [readGivenChar]

theorem readIpv6Addr_gap {before after : List UInt16} {tail : Text} {ipv4 : Bool}
    (hlen : before.length + after.length ≤ 7)
    (htail : readGroups true (8 - (before.length + 1)) tail = (after, ipv4, [])) :
    readIpv6Addr (groupsText before ++ ':' :: ':' :: tail) =
      (Ipv6Addr.ofSegments (before ++
        List.replicate (8 - before.length - after.length) 0 ++ after)).map fun a => (a, []) := by
  have hgap : AtGap (':' :: ':' :: tail) := .inr ⟨tail, rfl⟩
  rw [readIpv6Addr, readGroups_groupsText before hgap (show _ ≤ 8 by omega)]
  dsimp only
  rw [if_neg (by omega), if_neg (by simp)]
  simp only [readGivenChar_cons, Option.bind_eq_bind, Option.bind_some, htail]
  cases Ipv6Addr.ofSegments (before ++ List.replicate (8 - before.length - after.length) 0 ++ after)
  · rfl
  · rfl

theorem readIpv6Addr_mapped (b : Ipv4Addr) :
    readIpv6Addr ("::ffff:".toList ++ b.toText) = some (b.toIpv6Mapped, []) := by
  have htext : "::ffff:".toList ++ b.toText =
      groupsText [] ++ ':' :: ':' :: (groupText 0xffff ++ ':' :: b.toText) := rfl
  have hlast : readSeparator false readIpv4Addr (':' :: b.toText) = some (b, []) :=
    readIpv4Addr_toText b
  have htail : readGroups true 7 (groupText 0xffff ++ ':' :: b.toText) =
      (0xffff :: b.groups, true, []) := by
    have hv4 : readSeparator true readIpv4Addr (groupText 0xffff ++ ':' :: b.toText) = none :=
      readIpv4Addr_groupText 0xffff (atColon_cons _)
    have hgroup : readSeparator true readGroup (groupText 0xffff ++ ':' :: b.toText) =
        some (0xffff, ':' :: b.toText) := readGroup_groupText 0xffff (atColon_cons _)
    rw [readGroups, hv4, hgroup, ite_self]
    dsimp only
    rw [readGroups, hlast]
    rfl
  rw [htext]
  exact readIpv6Addr_gap (show [].length + (0xffff :: b.groups).length ≤ 7 by simp [Ipv4Addr.groups])
    htail

/-- **Every IPv6 address is read back.** -/
theorem readIpv6Addr_toText (a : Ipv6Addr) : readIpv6Addr a.toText = some (a, []) := by
  unfold Ipv6Addr.toText
  cases hmapped : a.toIpv4Mapped with
  | some b =>
    dsimp only
    rw [readIpv6Addr_mapped, toIpv6Mapped_of_toIpv4Mapped hmapped]
  | none =>
    dsimp only
    have hlen : a.segments.length = 8 := rfl
    have hspan := zeroRun_spec a.segments [] (0, 0) (0, 0) ⟨[], [], rfl, rfl⟩ (.inl rfl)
    rw [List.nil_append, List.length_nil] at hspan
    generalize zeroRun 0 (0, 0) (0, 0) a.segments = zeroes at hspan
    obtain ⟨before, after, hsplit, hstart⟩ := hspan
    split_ifs with hlong
    · have hbefore : a.segments.take zeroes.1 = before := by
        rw [hsplit, ← hstart, List.append_assoc, List.take_left]
      have hafter : a.segments.drop (zeroes.1 + zeroes.2) = after := by
        rw [hsplit, ← hstart]
        exact List.drop_left' (by simp)
      rw [hsplit] at hlen
      simp only [List.length_append, List.length_replicate] at hlen
      have htail := readGroups_groupsText after (show AtGap [] from .inl rfl)
        (show after.length ≤ 8 - (before.length + 1) by omega)
      rw [List.append_nil] at htail
      have hgap := readIpv6Addr_gap (by omega) htail
      have hzeros : 8 - before.length - after.length = zeroes.2 := by omega
      rw [hzeros, ← hsplit, ofSegments_segments] at hgap
      rw [hbefore, hafter, List.append_assoc]
      exact hgap
    · have hgroups := readGroups_groupsText a.segments (show AtGap [] from .inl rfl) hlen.le
      rw [List.append_nil] at hgroups
      rw [readIpv6Addr, hgroups]
      rfl

theorem readIpv4Addr_groupsText (gs : List UInt16) {rest : Text} (hrest : AtColon rest) :
    readIpv4Addr (groupsText gs ++ rest) = none := by
  cases gs with
  | nil => exact readIpv4Addr_eq_none (t := []) (by simp) hrest
  | cons g gs =>
    rw [groupsText_cons, List.append_assoc]
    exact readIpv4Addr_groupText g (atColon_moreGroups gs hrest)

theorem readIpv4Addr_toText_v6 (a : Ipv6Addr) : readIpv4Addr a.toText = none := by
  unfold Ipv6Addr.toText
  cases a.toIpv4Mapped with
  | some b => exact readIpv4Addr_groupsText [] (atColon_cons _)
  | none =>
    dsimp only
    split_ifs
    · rw [List.append_assoc]
      exact readIpv4Addr_groupsText _ (atColon_cons _)
    · have h := readIpv4Addr_groupsText a.segments atColon_nil
      rwa [List.append_nil] at h

/-- **`FromStr` inverts `Display`.** -/
theorem IpAddr.parse_toText (a : IpAddr) : IpAddr.parse a.toText = some a := by
  unfold IpAddr.parse parseWith
  cases a with
  | v4 a => simp [IpAddr.toText, readIpv4Addr_toText]
  | v6 a => simp [IpAddr.toText, readIpv4Addr_toText_v6, readIpv6Addr_toText]

/-! ## What is in the text of an address -/

theorem mem_join {sep : Text} {c : Char} : ∀ {ts : List Text}, c ∈ Text.join ts sep →
    c ∈ sep ∨ ∃ t ∈ ts, c ∈ t
  | [], h => by simp [Text.join] at h
  | [t], h => .inr ⟨t, List.mem_singleton_self t, h⟩
  | t :: u :: ts, h => by
    rw [Text.join, List.mem_append, List.mem_append] at h
    rcases h with (h | h) | h
    · exact .inr ⟨t, List.mem_cons_self, h⟩
    · exact .inl h
    · exact (mem_join h).imp_right fun ⟨v, hv, hc⟩ => ⟨v, List.mem_cons_of_mem _ hv, hc⟩

theorem bounds_of_toDigit {b : Nat} {c : Char} (h : (toDigit b c).isSome) :
    0x2a ≤ c.toNat ∧ c.toNat < 0x80 := by
  have hrange : ∀ {l u : Char}, (l ≤ c && c ≤ u) = true → l.toNat ≤ c.toNat ∧ c.toNat ≤ u.toNat := by
    intro l u hl
    simp only [Bool.and_eq_true, decide_eq_true_eq] at hl
    exact hl
  by_cases hdigit : isAsciiDigit c = true
  · have hle : 0x30 ≤ c.toNat ∧ c.toNat ≤ 0x39 := hrange hdigit
    omega
  by_cases hlow : ('a' ≤ c && c ≤ 'z') = true
  · have hle : 0x61 ≤ c.toNat ∧ c.toNat ≤ 0x7a := hrange hlow
    omega
  by_cases hcap : ('A' ≤ c && c ≤ 'Z') = true
  · have hle : 0x41 ≤ c.toNat ∧ c.toNat ≤ 0x5a := hrange hcap
    omega
  simp [toDigit, hdigit, hlow, hcap] at h

theorem bounds_of_mem_join {b : Nat} (hb : ReadsDigits b) {ns : List Nat} {sep c : Char}
    (hsep : 0x2a ≤ sep.toNat ∧ sep.toNat < 0x80)
    (h : c ∈ Text.join (ns.map (Nat.toDigits b)) [sep]) : 0x2a ≤ c.toNat ∧ c.toNat < 0x80 := by
  cases mem_join h with
  | inl h =>
    rw [List.mem_singleton.mp h]
    exact hsep
  | inr h =>
    obtain ⟨t, ht, hc⟩ := h
    obtain ⟨n, -, rfl⟩ := List.mem_map.mp ht
    exact bounds_of_toDigit (isSome_of_mem_toDigits hb n c hc)

theorem Ipv4Addr.bounds_of_mem_toText {a : Ipv4Addr} {c : Char} (h : c ∈ a.toText) :
    0x2a ≤ c.toNat ∧ c.toNat < 0x80 := by
  have hjoin : a.toText = Text.join ((a.octets.map UInt8.toNat).map (Nat.toDigits 10)) ['.'] := rfl
  rw [hjoin] at h
  exact bounds_of_mem_join readsDigits_ten (by decide) h

theorem bounds_of_mem_groupsText {gs : List UInt16} {c : Char} (h : c ∈ groupsText gs) :
    0x2a ≤ c.toNat ∧ c.toNat < 0x80 := by
  have hjoin : groupsText gs =
      Text.join ((gs.map UInt16.toNat).map (Nat.toDigits 16)) [':'] := by
    rw [List.map_map]
    rfl
  rw [hjoin] at h
  exact bounds_of_mem_join readsDigits_sixteen (by decide) h

/-- **The text of an address is printable ASCII.** -/
theorem IpAddr.bounds_of_mem_toText {a : IpAddr} {c : Char} (h : c ∈ a.toText) :
    0x2a ≤ c.toNat ∧ c.toNat < 0x80 := by
  cases a with
  | v4 a => exact Ipv4Addr.bounds_of_mem_toText h
  | v6 a =>
    have hlit : ∀ t : Text, t.all (fun c => decide (0x2a ≤ c.toNat ∧ c.toNat < 0x80)) = true →
        c ∈ t → 0x2a ≤ c.toNat ∧ c.toNat < 0x80 :=
      fun t ht hc => of_decide_eq_true (List.all_eq_true.mp ht c hc)
    simp only [toText, Ipv6Addr.toText] at h
    split at h
    · cases List.mem_append.mp h with
      | inl h => exact hlit "::ffff:" (by decide) h
      | inr h => exact Ipv4Addr.bounds_of_mem_toText h
    · split_ifs at h
      · simp only [List.mem_append] at h
        rcases h with (h | h) | h
        · exact bounds_of_mem_groupsText h
        · exact hlit "::" (by decide) h
        · exact bounds_of_mem_groupsText h
      · exact bounds_of_mem_groupsText h

theorem IpAddr.isWhitespace_of_mem_toText {a : IpAddr} {c : Char} (h : c ∈ a.toText) :
    isWhitespace c = false := by
  have hbounds := IpAddr.bounds_of_mem_toText h
  simp [isWhitespace]
  omega

theorem IpAddr.trim_toText (a : IpAddr) : a.toText.trim = a.toText := by
  rw [Text.trim_eq_self_iff]
  constructor
  · cases hhead : a.toText.head? with
    | none => rfl
    | some c => exact isWhitespace_of_mem_toText (List.mem_of_mem_head? hhead)
  · cases hlast : a.toText.getLast? with
    | none => rfl
    | some c => exact isWhitespace_of_mem_toText (List.mem_of_mem_getLast? hlast)

/-! ## What is read as an address -/

theorem isAsciiDigit_of_toDigit {c : Char} (h : (toDigit 10 c).isSome) : isAsciiDigit c = true := by
  by_contra hc
  -- a letter stands for ten or more
  have hletter : ∀ {l u : Char}, (l ≤ c && c ≤ u) = true → l.toNat ≤ c.toNat := by
    intro l u hl
    simp only [Bool.and_eq_true, decide_eq_true_eq] at hl
    exact hl.1
  unfold toDigit at h
  rw [if_neg hc] at h
  dsimp only at h
  split_ifs at h with hlow hten hhigh hten
  · have hle : 97 ≤ c.toNat := hletter hlow
    omega
  · cases h
  · have hle : 65 ≤ c.toNat := hletter hhigh
    omega
  · cases h
  · omega
  · cases h

theorem digits_of_readOctet {s r : Text} {o : UInt8} (h : readOctet s = some (o, r)) :
    ∃ ds, s = ds ++ r ∧ ∀ c ∈ ds, isAsciiDigit c = true := by
  refine ⟨_, (readOctet_eq_some h).1.symm, fun c hc => isAsciiDigit_of_toDigit ?_⟩
  exact List.mem_takeWhile_imp (p := fun c => (toDigit 10 c).isSome) hc

theorem numeric_of_readIpv4Addr {s r : Text} {a : Ipv4Addr} (h : readIpv4Addr s = some (a, r)) :
    ∃ t, s = t ++ r ∧ ∀ c ∈ t, isAsciiDigit c = true ∨ c = '.' := by
  obtain ⟨o0, o1, o2, o3, r0, r1, r2, h0, h1, h2, h3⟩ := readIpv4Addr_eq_some h
  obtain ⟨d0, rfl, hd0⟩ := digits_of_readOctet h0
  obtain ⟨d1, rfl, hd1⟩ := digits_of_readOctet h1
  obtain ⟨d2, rfl, hd2⟩ := digits_of_readOctet h2
  obtain ⟨d3, rfl, hd3⟩ := digits_of_readOctet h3
  refine ⟨d0 ++ '.' :: (d1 ++ '.' :: (d2 ++ '.' :: d3)), by simp, ?_⟩
  intro c hc
  simp only [List.mem_append, List.mem_cons] at hc
  rcases hc with hc | rfl | hc | rfl | hc | rfl | hc
  · exact .inl (hd0 c hc)
  · exact .inr rfl
  · exact .inl (hd1 c hc)
  · exact .inr rfl
  · exact .inl (hd2 c hc)
  · exact .inr rfl
  · exact .inl (hd3 c hc)

theorem suffix_of_readGroup {s r : Text} {g : UInt16} (h : readGroup s = some (g, r)) : r <:+ s := by
  obtain ⟨⟨n, r'⟩, hread, heq⟩ := Option.map_eq_some_iff.mp h
  cases heq
  exact ⟨_, (readNumber_eq_some hread).1⟩

theorem suffix_of_readIpv4Addr {s r : Text} {a : Ipv4Addr} (h : readIpv4Addr s = some (a, r)) :
    r <:+ s := by
  obtain ⟨t, rfl, -⟩ := numeric_of_readIpv4Addr h
  exact ⟨t, rfl⟩

section Separator

variable {α : Type} {read : Text → Option (α × Text)} {isFirst : Bool} {s r : Text} {a : α}

theorem suffix_of_readSeparator (hread : ∀ {s r : Text} {a : α}, read s = some (a, r) → r <:+ s)
    (h : readSeparator isFirst read s = some (a, r)) : r <:+ s := by
  cases isFirst with
  | true => exact hread h
  | false =>
    obtain ⟨t, ht, h⟩ := Option.bind_eq_some_iff.mp h
    rw [readGivenChar_eq_some ht]
    exact (hread h).trans (List.suffix_cons _ _)

theorem mem_of_readSeparator (h : readSeparator false read s = some (a, r)) : ':' ∈ s := by
  obtain ⟨t, ht, -⟩ := Option.bind_eq_some_iff.mp h
  rw [readGivenChar_eq_some ht]
  exact List.mem_cons_self

end Separator

theorem suffix_readGroups (n : Nat) : ∀ (isFirst : Bool) (s : Text),
    (readGroups isFirst n s).2.2 <:+ s := by
  induction n with
  | zero => intro isFirst s; exact List.suffix_refl s
  | succ n ih =>
    intro isFirst s
    rw [readGroups]
    split
    · next a r hv4 =>
      split_ifs at hv4
      exact suffix_of_readSeparator suffix_of_readIpv4Addr hv4
    · split
      · next g r hgroup =>
        exact (ih false r).trans (suffix_of_readSeparator suffix_of_readGroup hgroup)
      · exact List.suffix_refl s

theorem mem_of_readGroups {n : Nat} {s : Text} (h : (readGroups false n s).1 ≠ []) : ':' ∈ s := by
  cases n with
  | zero => exact absurd rfl h
  | succ n =>
    rw [readGroups] at h
    split at h
    · next a r hv4 =>
      split_ifs at hv4
      exact mem_of_readSeparator hv4
    · split at h
      · next g r hgroup => exact mem_of_readSeparator hgroup
      · exact absurd rfl h

theorem mem_of_readGroups_eight {s : Text} (h : (readGroups true 8 s).1.length = 8) : ':' ∈ s := by
  rw [readGroups] at h
  split at h
  · next a r hv4 => cases h
  · split at h
    · next g r hgroup =>
      have hne : (readGroups false 7 r).1 ≠ [] := by
        intro hnil
        dsimp only at h
        rw [hnil] at h
        cases h
      exact (suffix_of_readGroup hgroup).subset (mem_of_readGroups hne)
    · cases h

theorem mem_of_readIpv6Addr {s r : Text} {a : Ipv6Addr} (h : readIpv6Addr s = some (a, r)) :
    ':' ∈ s := by
  have hsuffix := suffix_readGroups 8 true s
  have height : (readGroups true 8 s).1.length = 8 → ':' ∈ s := mem_of_readGroups_eight
  unfold readIpv6Addr at h
  rcases hgroups : readGroups true 8 s with ⟨head, headIpv4, rest⟩
  rw [hgroups] at h hsuffix height
  dsimp only at h hsuffix height
  by_cases hlen : head.length = 8
  · exact height hlen
  · rw [if_neg hlen] at h
    cases headIpv4 with
    | true => cases h
    | false =>
      obtain ⟨t, ht, -⟩ := Option.bind_eq_some_iff.mp h
      rw [readGivenChar_eq_some ht] at hsuffix
      exact hsuffix.subset List.mem_cons_self

/-- **A text that is read as an address holds a colon, or digits and dots only.** -/
theorem IpAddr.numeric_or_colon {s : Text} {a : IpAddr} (h : IpAddr.parse s = some a) :
    ':' ∈ s ∨ ∀ c ∈ s, isAsciiDigit c = true ∨ c = '.' := by
  unfold IpAddr.parse parseWith at h
  rcases hv4 : readIpv4Addr s with _ | ⟨b, r⟩
  · rcases hv6 : readIpv6Addr s with _ | ⟨b, r⟩
    · simp [hv4, hv6] at h
    · exact .inl (mem_of_readIpv6Addr hv6)
  · obtain ⟨t, rfl, ht⟩ := numeric_of_readIpv4Addr hv4
    cases r with
    | nil =>
      rw [List.append_nil]
      exact .inr ht
    | cons c r => simp [hv4] at h

end Rust
