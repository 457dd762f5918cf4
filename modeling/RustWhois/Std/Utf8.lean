import RustWhois.Std.Text

/-!
# UTF-8

`str::as_bytes` and `String::from_utf8`, on lists of bytes.

* **`fromUtf8_asBytes`**, `asBytes_of_fromUtf8`: decoding inverts encoding, and accepts only
  encodings;
* `count_asBytes`: an ASCII byte occurs in the encoding as often as its character in the text;
* **`toList_of_isAscii`**: the text of an ASCII string from its bytes.
-/

namespace Rust

/-- `str::as_bytes`. -/
def asBytes (s : Text) : List UInt8 := s.flatMap String.utf8EncodeChar

/-- The character the bytes start with. -/
def decodeChar (bs : List UInt8) : Option Char := ByteArray.utf8DecodeChar? bs.toByteArray 0

/-- `fromUtf8` of at most `n` characters. -/
def fromUtf8Upto : Nat → List UInt8 → Option Text
  | _, [] => some []
  | 0, _ :: _ => none
  | n + 1, b :: bs =>
    (decodeChar (b :: bs)).bind fun c =>
      (fromUtf8Upto n ((b :: bs).drop c.utf8Size)).map (c :: ·)

/-- `String::from_utf8`. -/
def fromUtf8 (bs : List UInt8) : Option Text := fromUtf8Upto bs.length bs

theorem asBytes_cons (c : Char) (s : Text) :
    asBytes (c :: s) = String.utf8EncodeChar c ++ asBytes s := rfl

@[simp] theorem asBytes_append (s t : Text) : asBytes (s ++ t) = asBytes s ++ asBytes t := by
  simp [asBytes]

theorem length_asBytes (s : Text) : (asBytes s).length = s.len := by
  simp [asBytes, Text.len, List.length_flatMap]

theorem decodeChar_append (c : Char) (bs : List UInt8) :
    decodeChar (String.utf8EncodeChar c ++ bs) = some c := by
  rw [decodeChar, List.toByteArray_append]
  exact ByteArray.utf8DecodeChar?_utf8EncodeChar_append

theorem length_utf8EncodeChar_pos (c : Char) : 0 < (String.utf8EncodeChar c).length := by
  rw [String.length_utf8EncodeChar]
  exact c.utf8Size_pos

theorem fromUtf8Upto_asBytes (s : Text) : ∀ n, (asBytes s).length ≤ n →
    fromUtf8Upto n (asBytes s) = some s := by
  induction s with
  | nil => intro n _; cases n <;> rfl
  | cons c s ih =>
    intro n hn
    have hc := length_utf8EncodeChar_pos c
    rw [asBytes_cons, List.length_append] at hn
    obtain ⟨m, rfl⟩ : ∃ m, n = m + 1 := ⟨n - 1, by omega⟩
    have hd := decodeChar_append c (asBytes s)
    obtain ⟨b, bs, hb⟩ := List.exists_cons_of_length_pos hc
    rw [asBytes_cons] at *
    rw [hb, List.cons_append] at hd ⊢
    rw [fromUtf8Upto, hd, Option.bind_some, ← List.cons_append, ← hb,
      ← String.length_utf8EncodeChar c, List.drop_left, ih m (by omega)]
    rfl

/-- **Decoding inverts encoding.** -/
theorem fromUtf8_asBytes (s : Text) : fromUtf8 (asBytes s) = some s :=
  fromUtf8Upto_asBytes s _ le_rfl

theorem eq_append_of_decodeChar {bs : List UInt8} {c : Char} (h : decodeChar bs = some c) :
    bs = String.utf8EncodeChar c ++ bs.drop c.utf8Size := by
  have h' := String.toByteArray_utf8EncodeChar_of_utf8DecodeChar?_eq_some h
  have e : String.utf8EncodeChar c = bs.take c.utf8Size := by
    rw [← List.toByteArray_inj, h', ByteArray.ext_iff]
    apply Array.ext'
    simp
  rw [e, List.take_append_drop]

theorem asBytes_of_fromUtf8Upto : ∀ (n : Nat) {bs : List UInt8} {s : Text},
    fromUtf8Upto n bs = some s → asBytes s = bs
  | _, [], s, h => by simp only [fromUtf8Upto, Option.some.injEq] at h; subst h; rfl
  | n + 1, b :: bs, s, h => by
    rw [fromUtf8Upto] at h
    obtain ⟨c, hc, h⟩ := Option.bind_eq_some_iff.mp h
    obtain ⟨t, ht, rfl⟩ := Option.map_eq_some_iff.mp h
    rw [asBytes_cons, asBytes_of_fromUtf8Upto n ht]
    exact (eq_append_of_decodeChar hc).symm

/-- **Only encodings decode.** -/
theorem asBytes_of_fromUtf8 {bs : List UInt8} {s : Text} (h : fromUtf8 bs = some s) :
    asBytes s = bs := asBytes_of_fromUtf8Upto _ h

/-! ## ASCII bytes -/

theorem ofNat_beq {m n : Nat} (hm : m < 256) (hn : n < 256) :
    (UInt8.ofNat m == UInt8.ofNat n) = decide (m = n) := by
  rw [Bool.eq_iff_iff, beq_iff_eq, decide_eq_true_eq, ← UInt8.toNat_inj]
  simp only [UInt8.toNat_ofNat']
  omega

theorem count_utf8EncodeChar {a : Char} (ha : a.toNat < 128) (c : Char) :
    (String.utf8EncodeChar c).count (UInt8.ofNat a.toNat) = if c = a then 1 else 0 := by
  -- a byte of a longer encoding is at least 128
  have hge : ∀ n : Nat, 128 ≤ n → n < 256 → (UInt8.ofNat n == UInt8.ofNat a.toNat) = false :=
    fun n h1 h2 => by rw [ofNat_beq h2 (by omega)]; exact decide_eq_false (by omega)
  have hne : 0x7f < c.toNat → c ≠ a := fun h e => by subst e; omega
  have hc : c.val.toNat = c.toNat := rfl
  simp only [String.utf8EncodeChar, hc]
  split_ifs with h1 e h2 e h3 e e
  · subst e
    simp
  · have : c.toNat ≠ a.toNat := fun h => e (Char.toNat_inj.mp h)
    simp [List.count_cons, ofNat_beq (show c.toNat < 256 by omega) (show a.toNat < 256 by omega),
      this]
  · exact absurd e (hne (by omega))
  · simp only [List.count_cons, List.count_nil,
      hge _ (show 128 ≤ c.toNat / 64 % 32 + 192 by omega) (by omega),
      hge _ (show 128 ≤ c.toNat % 64 + 128 by omega) (by omega)]
    rfl
  · exact absurd e (hne (by omega))
  · simp only [List.count_cons, List.count_nil,
      hge _ (show 128 ≤ c.toNat / 4096 % 16 + 224 by omega) (by omega),
      hge _ (show 128 ≤ c.toNat / 64 % 64 + 128 by omega) (by omega),
      hge _ (show 128 ≤ c.toNat % 64 + 128 by omega) (by omega)]
    rfl
  · exact absurd e (hne (by omega))
  · simp only [List.count_cons, List.count_nil,
      hge _ (show 128 ≤ c.toNat / 262144 % 8 + 240 by omega) (by omega),
      hge _ (show 128 ≤ c.toNat / 4096 % 64 + 128 by omega) (by omega),
      hge _ (show 128 ≤ c.toNat / 64 % 64 + 128 by omega) (by omega),
      hge _ (show 128 ≤ c.toNat % 64 + 128 by omega) (by omega)]
    rfl

theorem count_asBytes {a : Char} (ha : a.toNat < 128) (s : Text) :
    (asBytes s).count (UInt8.ofNat a.toNat) = s.count a := by
  induction s with
  | nil => rfl
  | cons c s ih =>
    rw [asBytes_cons, List.count_append, count_utf8EncodeChar ha, ih, List.count_cons, Nat.add_comm]
    simp

/-! ## ASCII strings -/

/-- A character whose encoding has ASCII bytes only is one of them. -/
theorem utf8EncodeChar_of_ascii {c : Char} (h : ∀ b ∈ String.utf8EncodeChar c, b.toNat < 128) :
    (String.utf8EncodeChar c).map (fun b => Char.ofNat b.toNat) = [c] := by
  have hc : c.val.toNat = c.toNat := rfl
  have hlt : ∀ n : Nat, (UInt8.ofNat n).toNat = n % 256 := fun n => UInt8.toNat_ofNat'
  simp only [String.utf8EncodeChar, hc] at h ⊢
  split_ifs at h ⊢ with h1 h2 h3
  · rw [List.map_singleton, hlt, Nat.mod_eq_of_lt (by omega), Char.ofNat_toNat]
  -- the first byte of a longer encoding is at least 128
  · have hbyte := h _ List.mem_cons_self
    rw [hlt] at hbyte
    omega
  · have hbyte := h _ List.mem_cons_self
    rw [hlt] at hbyte
    omega
  · have hbyte := h _ List.mem_cons_self
    rw [hlt] at hbyte
    omega

theorem map_asBytes_of_ascii {s : Text} (h : ∀ b ∈ asBytes s, b.toNat < 128) :
    (asBytes s).map (fun b => Char.ofNat b.toNat) = s := by
  induction s with
  | nil => rfl
  | cons c s ih =>
    rw [asBytes_cons] at h ⊢
    rw [List.map_append, utf8EncodeChar_of_ascii fun b hb => h b (List.mem_append_left _ hb),
      ih fun b hb => h b (List.mem_append_right _ hb), List.singleton_append]

/-- The bytes of a string, as characters. -/
def asciiText (s : String) : Text := s.toByteArray.data.toList.map fun b => Char.ofNat b.toNat

def isAscii (s : String) : Bool := s.toByteArray.data.toList.all (· < 128)

/-- **The characters of an ASCII string are its bytes.** The kernel has the bytes of a literal at
hand, and not its characters. -/
theorem toList_of_isAscii {s : String} (h : isAscii s = true) : s.toList = asciiText s := by
  obtain ⟨l, rfl⟩ : ∃ l, s = String.ofList l := ⟨s.toList, String.ofList_toList.symm⟩
  have hbytes : (String.ofList l).toByteArray.data.toList = asBytes l := by
    simp [String.ofList, List.utf8Encode, asBytes]
  rw [isAscii, hbytes] at h
  rw [asciiText, hbytes, String.toList_ofList]
  refine (map_asBytes_of_ascii fun b hb => ?_).symm
  exact UInt8.lt_iff_toNat_lt.mp (of_decide_eq_true (List.all_eq_true.mp h b hb))
end Rust
