import RustWhois.Std.Lowercase
import RustWhois.Std.Slices
import RustWhois.Std.Utf8
import RustWhois.Whois.Referral

/-!
# The referral sanitizer

What `sanitize_referral_value` accepts, and what it returns.

* `Bare`, `Spelled`: the hosts it returns, and the values it returns them for;
* **`sanitizeReferralValue_eq_some_iff`**: the sanitizer, read as a grammar;
* **`sanitizeReferralValue_slice`**: it never panics, since the scheme of the lowercased copy is there
  in the value;
* `Canonical`: it yields plain host names only, and nothing for other values;
* **`canonical_iff`**: so it does unless white space other than a blank stands in the host.
-/

namespace RustWhois

open Rust

/-! ## The grammar -/

/-- A text without colon, slash and blank. -/
def Bare (host : Text) : Prop := host ≠ [] ∧ ∀ c ∈ host, c ≠ ':' ∧ c ≠ '/' ∧ c ≠ ' '

/-- The host, behind the scheme in any case and before the port and a slash, each of which may be
missing. -/
def Spelled (host value : Text) : Prop := ∃ scheme port slash : Text,
  (scheme = [] ∨ scheme.map toAsciiLowercase = "whois://") ∧ (port = [] ∨ port = ":43") ∧
    (slash = [] ∨ slash = "/") ∧ value = scheme ++ (host ++ port ++ slash)

theorem Spelled.refl (host : Text) : Spelled host host :=
  ⟨[], [], [], .inl rfl, .inl rfl, .inl rfl, by simp⟩

theorem Spelled.infix {host value : Text} (h : Spelled host value) : host <:+: value := by
  obtain ⟨scheme, port, slash, -, -, -, rfl⟩ := h
  exact ⟨scheme, port ++ slash, by simp⟩

theorem count_slash_map (s : Text) : (s.map toAsciiLowercase).count '/' = s.count '/' := by
  rw [List.count, List.countP_map]
  refine List.countP_congr fun c _ => ?_
  rw [Function.comp_apply, beq_iff_eq, beq_iff_eq]
  exact toAsciiLowercase_eq_iff (by decide)

section Suffixes

variable {s t u p : Text}

theorem getD_stripSuffix_append (s p : Text) :
    ∃ u, (u = [] ∨ u = p) ∧ s = (s.stripSuffix p).getD s ++ u := by
  cases h : s.stripSuffix p with
  | none => exact ⟨[], .inl rfl, (List.append_nil s).symm⟩
  | some t => exact ⟨p, .inr rfl, Text.stripSuffix_eq_some_iff.mp h⟩

theorem getD_stripSuffix (hu : u = [] ∨ u = p) (h : ¬ p <:+ t) :
    ((t ++ u).stripSuffix p).getD (t ++ u) = t := by
  rcases hu with rfl | rfl
  · rw [List.append_nil, Text.stripSuffix_eq_none h]
    rfl
  · rw [Text.stripSuffix_append]
    rfl

end Suffixes

theorem not_suffix_of_mem {p s : Text} {c : Char} (hc : c ∈ p) (h : c ∉ s) : ¬ p <:+ s :=
  fun hs => h (hs.subset hc)

theorem Bare.notMem {host : Text} (h : Bare host) :
    ':' ∉ host ∧ '/' ∉ host ∧ ' ' ∉ host :=
  ⟨fun hc => (h.2 _ hc).1 rfl, fun hc => (h.2 _ hc).2.1 rfl, fun hc => (h.2 _ hc).2.2 rfl⟩

/-- A host with its port and slash does not begin with a scheme: that has two slashes. -/
theorem Bare.not_scheme {host port slash s q t : Text} (h : Bare host)
    (hport : port = [] ∨ port = ":43") (hslash : slash = [] ∨ slash = "/")
    (heq : host ++ port ++ slash = q ++ t) (hq : q.map toAsciiLowercase = s)
    (hs : 2 ≤ s.count '/') : False := by
  have hcount := congrArg (List.count '/') heq
  have hhost := List.count_eq_zero.mpr h.notMem.2.1
  have hp : port.count '/' = 0 := by rcases hport with rfl | rfl <;> rfl
  have hsl : slash.count '/' ≤ 1 := by rcases hslash with rfl | rfl <;> decide
  rw [← hq, count_slash_map] at hs
  simp only [List.count_append] at hcount
  omega

theorem asciiwise_whois : Asciiwise "whois://" := asciiwise_of_all (by decide) (by decide)

theorem asciiwise_rwhois : Asciiwise "rwhois://" := asciiwise_of_all (by decide) (by decide)

theorem len_scheme {q : Text} (hq : q.map toAsciiLowercase = "whois://") :
    q.len = Text.len "whois://" := by
  have hascii : ∀ c ∈ q, c.toNat < 128 := fun c hc =>
    toNat_lt_of_toAsciiLowercase (asciiwise_whois.1 _ (hq ▸ List.mem_map_of_mem hc)).1
  have hlength := congrArg List.length hq
  rw [List.length_map] at hlength
  rw [Text.len_of_ascii hascii, hlength]
  rfl

theorem sliceFrom_scheme {q t : Text} (hq : q.map toAsciiLowercase = "whois://") :
    (q ++ t).sliceFrom (Text.len "whois://") = t := by
  rw [← len_scheme hq, Text.sliceFrom_append]

theorem getFrom_scheme {q t : Text} (hq : q.map toAsciiLowercase = "whois://") :
    (q ++ t).getFrom (Text.len "whois://") = some t := by
  rw [← len_scheme hq, Text.getFrom_append]

/-- What is left behind the scheme, with the scheme that was there. -/
theorem exists_scheme (value : Text) : ∃ scheme : Text,
    (scheme = [] ∨ scheme.map toAsciiLowercase = "whois://") ∧
      value = scheme ++ if (toLowercase value).startsWith "whois://" then
        value.sliceFrom (Text.len "whois://") else value := by
  split_ifs with h
  · obtain ⟨q, t, rfl, hq⟩ := asciiwise_whois.startsWith_toLowercase_iff.mp h
    exact ⟨q, .inr hq, by rw [sliceFrom_scheme hq]⟩
  · exact ⟨[], .inl rfl, rfl⟩

theorem bare_iff {host : Text} :
    (host.isEmpty || host.any [':', '/', ' '].contains) = false ↔ Bare host := by
  simp [Bare]

theorem spelled_of_sanitize {value host : Text} (h : sanitizeReferralValue value = some host) :
    Bare host ∧ Spelled host value := by
  unfold sanitizeReferralValue at h
  dsimp only at h
  by_cases hempty : value.isEmpty = true
  · rw [if_pos hempty] at h
    cases h
  rw [if_neg hempty] at h
  by_cases hrwhois : (toLowercase value).startsWith "rwhois://" = true
  · rw [if_pos hrwhois] at h
    cases h
  rw [if_neg hrwhois] at h
  obtain ⟨scheme, hscheme, hvalue⟩ := exists_scheme value
  generalize (if (toLowercase value).startsWith "whois://" then
    value.sliceFrom (Text.len "whois://") else value) = rest at h hvalue
  obtain ⟨slash, hslash, hrest⟩ := getD_stripSuffix_append rest "/"
  obtain ⟨port, hport, hhost⟩ := getD_stripSuffix_append ((rest.stripSuffix "/").getD rest) ":43"
  split at h
  · cases h
  · rename_i hgood
    cases h
    refine ⟨bare_iff.mp (by simpa using hgood), scheme, port, slash, hscheme, hport, hslash, ?_⟩
    rw [← hhost, ← hrest]
    exact hvalue

section Spelling

variable {host scheme port slash : Text} (hb : Bare host)
  (hscheme : scheme = [] ∨ scheme.map toAsciiLowercase = "whois://")
  (hport : port = [] ∨ port = ":43") (hslash : slash = [] ∨ slash = "/")

include hb hscheme hport hslash

theorem not_startsWith_rwhois :
    ¬ (toLowercase (scheme ++ (host ++ port ++ slash))).startsWith "rwhois://" = true := by
  intro hpre
  obtain ⟨q, t, heq, hq⟩ := asciiwise_rwhois.startsWith_toLowercase_iff.mp hpre
  rcases hscheme with rfl | hscheme
  · exact hb.not_scheme hport hslash heq hq (by decide)
  · -- the first letters differ
    have hhead := congrArg (fun s => (List.map toAsciiLowercase s).head?) heq
    simp only [List.map_append, hscheme, hq] at hhead
    exact absurd hhead (by simp)

theorem rest_eq :
    (if (toLowercase (scheme ++ (host ++ port ++ slash))).startsWith "whois://" then
      (scheme ++ (host ++ port ++ slash)).sliceFrom (Text.len "whois://")
      else scheme ++ (host ++ port ++ slash)) = host ++ port ++ slash := by
  rcases hscheme with rfl | hscheme
  · refine if_neg fun hpre => ?_
    obtain ⟨q, t, heq, hq⟩ := asciiwise_whois.startsWith_toLowercase_iff.mp hpre
    exact hb.not_scheme hport hslash heq hq (by decide)
  · rw [if_pos (asciiwise_whois.startsWith_toLowercase_iff.mpr ⟨_, _, rfl, hscheme⟩),
      sliceFrom_scheme hscheme]

omit hscheme in
theorem suffixes_eq :
    let rest := ((host ++ port ++ slash).stripSuffix "/").getD (host ++ port ++ slash)
    (rest.stripSuffix ":43").getD rest = host := by
  have hend : ¬ ("/" : Text) <:+ host ++ port := by
    refine not_suffix_of_mem (List.mem_singleton.mpr rfl) fun hm => ?_
    rcases List.mem_append.mp hm with hm | hm
    · exact hb.notMem.2.1 hm
    · rcases hport with rfl | rfl
      · cases hm
      · exact absurd hm (by decide)
  have hcolon : ¬ (":43" : Text) <:+ host :=
    not_suffix_of_mem (List.mem_cons_self) hb.notMem.1
  dsimp only
  rw [getD_stripSuffix hslash hend, getD_stripSuffix hport hcolon]

end Spelling

theorem sanitize_of_spelled {value host : Text} (hb : Bare host) (h : Spelled host value) :
    sanitizeReferralValue value = some host := by
  obtain ⟨scheme, port, slash, hscheme, hport, hslash, rfl⟩ := h
  have hne : ¬ (scheme ++ (host ++ port ++ slash)).isEmpty = true := by
    simp [hb.1]
  have hsuffixes := suffixes_eq hb hport hslash
  unfold sanitizeReferralValue
  dsimp only at hsuffixes ⊢
  rw [if_neg hne, if_neg (not_startsWith_rwhois hb hscheme hport hslash),
    rest_eq hb hscheme hport hslash, hsuffixes, if_neg (by rw [bare_iff.mpr hb]; decide)]

/-- **The sanitizer, read as a grammar.** -/
theorem sanitizeReferralValue_eq_some_iff {value host : Text} :
    sanitizeReferralValue value = some host ↔ Bare host ∧ Spelled host value :=
  ⟨spelled_of_sanitize, fun h => sanitize_of_spelled h.1 h.2⟩

/-! ## The slice -/

/-- `sanitize_referral_value`, with nothing for a panic of its slice. -/
def sanitizeReferralValueChecked (value : Text) : Option (Option Text) :=
  if value.isEmpty then some none
  else
    let lower := toLowercase value
    if lower.startsWith "rwhois://" then some none
    else do
      let host ← if lower.startsWith "whois://" then value.getFrom (Text.len "whois://")
        else some value
      let host := (host.stripSuffix "/").getD host
      let host := (host.stripSuffix ":43").getD host
      some (if host.isEmpty || host.any [':', '/', ' '].contains then none else some host)

theorem getFrom_of_startsWith {value : Text}
    (h : (toLowercase value).startsWith "whois://" = true) :
    value.getFrom (Text.len "whois://") = some (value.sliceFrom (Text.len "whois://")) := by
  obtain ⟨q, t, rfl, hq⟩ := asciiwise_whois.startsWith_toLowercase_iff.mp h
  rw [getFrom_scheme hq, sliceFrom_scheme hq]

theorem sanitizeReferralValueChecked_eq (value : Text) :
    sanitizeReferralValueChecked value = some (sanitizeReferralValue value) := by
  unfold sanitizeReferralValueChecked sanitizeReferralValue
  dsimp only
  by_cases hempty : value.isEmpty = true
  · rw [if_pos hempty, if_pos hempty]
  rw [if_neg hempty, if_neg hempty]
  by_cases hrwhois : (toLowercase value).startsWith "rwhois://" = true
  · rw [if_pos hrwhois, if_pos hrwhois]
  rw [if_neg hrwhois, if_neg hrwhois]
  by_cases hwhois : (toLowercase value).startsWith "whois://" = true
  · rw [if_pos hwhois, if_pos hwhois, getFrom_of_startsWith hwhois]
    rfl
  · rw [if_neg hwhois, if_neg hwhois]
    rfl

/-- **The slice never panics**: a value of which the lowercased copy begins with the scheme begins
with it itself, in some case and in as many bytes. -/
theorem sanitizeReferralValue_slice (value : Text) :
    ((toLowercase value).startsWith "whois://" = true →
      Text.len "whois://" = 8 ∧ 8 ≤ value.len ∧ value.isCharBoundary 8 = true ∧
        ∃ scheme : Text, (asBytes value).take 8 = asBytes scheme ∧
          scheme.map toAsciiLowercase = "whois://") ∧
    sanitizeReferralValueChecked value = some (sanitizeReferralValue value) := by
  refine ⟨fun h => ?_, sanitizeReferralValueChecked_eq value⟩
  obtain ⟨q, t, rfl, hq⟩ := asciiwise_whois.startsWith_toLowercase_iff.mp h
  have hlen : q.len = 8 := len_scheme hq
  refine ⟨rfl, ?_, Text.isCharBoundary_iff.mpr ⟨q, t, rfl, hlen⟩, q, ?_, hq⟩
  · rw [Text.len_append]
    omega
  · rw [asBytes_append, ← hlen, ← length_asBytes, List.take_left]

/-- Behind the capitals, two letters that change their length when lowercased. -/
theorem sanitizeReferralValue_slice_capitals :
    let value : Text := "WHOIS://\u0130\u212A.example"
    value.isCharBoundary 8 = true ∧ sanitizeReferralValueChecked value ≠ none := by
  have h := sanitizeReferralValue_slice "WHOIS://\u0130\u212A.example"
  refine ⟨(h.1 (by decide +kernel)).2.2.1, ?_⟩
  rw [h.2]
  exact Option.some_ne_none _

/-! ## Canonical host names -/

/-- A host name without colon, slash and white space. -/
def PlainHost (host : Text) : Prop :=
  host ≠ [] ∧ ':' ∉ host ∧ '/' ∉ host ∧ ∀ c ∈ host, isWhitespace c = false

theorem PlainHost.bare {host : Text} (h : PlainHost host) : Bare host := by
  refine ⟨h.1, fun c hc => ⟨?_, ?_, ?_⟩⟩
  · rintro rfl
    exact h.2.1 hc
  · rintro rfl
    exact h.2.2.1 hc
  · rintro rfl
    exact absurd (h.2.2.2 _ hc) (by decide)

/-- The sanitizer yields a plain host name out of the value, which it yields again for it, and
nothing for a value in which none is spelled. -/
structure Canonical (value : Text) : Prop where
  plain : ∀ host, sanitizeReferralValue value = some host →
    PlainHost host ∧ (∀ scheme : Text, ¬ scheme ++ "://".toList <+: host) ∧ host <:+: value ∧
      sanitizeReferralValue host = some host
  rejects : (∀ host, PlainHost host → ¬ Spelled host value) → sanitizeReferralValue value = none

/-- **The sanitizer is canonical exactly for the values in which no bare host with white space is
spelled**: of all white space it looks for the blank only. -/
theorem canonical_iff (value : Text) : Canonical value ↔
    ∀ host, Bare host → Spelled host value → ∀ c ∈ host, isWhitespace c = false := by
  constructor
  · intro h host hb hs
    exact (h.plain host (sanitize_of_spelled hb hs)).1.2.2.2
  · intro h
    have hplain : ∀ host, sanitizeReferralValue value = some host → PlainHost host := fun host hs =>
      have ⟨hb, hsp⟩ := spelled_of_sanitize hs
      ⟨hb.1, hb.notMem.1, hb.notMem.2.1, h host hb hsp⟩
    constructor
    · intro host hs
      obtain ⟨hb, hsp⟩ := spelled_of_sanitize hs
      refine ⟨hplain host hs, fun scheme hpre => ?_, hsp.infix, sanitize_of_spelled hb (.refl host)⟩
      exact hb.notMem.1 (hpre.subset (by simp))
    · intro hno
      rw [Option.eq_none_iff_forall_ne_some]
      exact fun host hs => hno host (hplain host hs) (spelled_of_sanitize hs).2

/-- What stands behind a tab is kept as a part of the host. -/
theorem canonical_tab :
    let value : Text := "whois.nic.fr\tport"
    Text.trim value = value ∧ sanitizeReferralValue value = some value ∧ ¬ Canonical value := by
  have hsome : sanitizeReferralValue "whois.nic.fr\tport" = some "whois.nic.fr\tport".toList := by
    decide +kernel
  refine ⟨by decide, hsome, fun h => ?_⟩
  have htab := (h.plain _ hsome).1.2.2.2 '\t' (by decide)
  exact absurd htab (by decide)

end RustWhois
