import RustWhois.Whois.Outbound

/-!
# Queries validated twice

The HTTP handlers validate a query and hand its text to a lookup, which validates it again.

* `undotted`: the trimmed input without its trailing dots;
* `new_domain_iff`: the inputs that are accepted as domain names;
* `numeric_of_toLowercase`: lowercasing makes no text look like an IPv4 address;
* **`idempotent_iff`**: an accepted query is accepted again with the same kind and text exactly if
  it is an address or no white space comes before the trailing dots.
-/

namespace RustWhois

open Rust

/-- The trimmed input without its trailing dots. -/
def undotted (s : Text) : Text := s.trim.trimEndMatches '.'

theorem normalizeName_eq (s : Text) : normalizeName s = toLowercase (undotted s) := rfl

theorem normalizeName_trim (s : Text) : normalizeName s.trim = normalizeName s := by
  rw [normalizeName, Text.trim_trim, normalizeName]

/-- Digits and dots only. -/
def Numeric (s : Text) : Prop := ∀ c ∈ s, isAsciiDigit c = true ∨ c = '.'

/-- `looks_like_ipv4` or `looks_like_ipv6`. -/
def looksLikeIp (trimmed : Text) : Bool :=
  List.contains trimmed '.' && trimmed.all (fun c => isAsciiDigit c || c == '.') ||
    List.contains trimmed ':' &&
      trimmed.all fun c => isAsciiHexdigit c || c == ':' || c == '.'

theorem looksLikeIp_of_numeric {s : Text} (h : Numeric s) (hdot : '.' ∈ s) :
    looksLikeIp s = true := by
  have hall : s.all (fun c => isAsciiDigit c || c == '.') = true := by
    rw [List.all_eq_true]
    intro c hc
    simpa using h c hc
  simp [looksLikeIp, hall, hdot]

theorem numeric_of_looksLikeIp {s : Text} (h : looksLikeIp s = true) (hcolon : ':' ∉ s) :
    Numeric s := by
  intro c hc
  simp only [looksLikeIp, Bool.or_eq_true, Bool.and_eq_true] at h
  cases h with
  | inl h => simpa using List.all_eq_true.mp h.2 c hc
  | inr h => exact absurd (by simpa using h.1) hcolon

/-! ## What is accepted -/

namespace ValidatedQuery

variable {parseDnsName : DnsNameParser} {s : Text}

theorem new_of_parse {a : IpAddr} (h : IpAddr.parse s.trim = some a) :
    new parseDnsName s = .ok ⟨.ipAddress (.ofAddr a)⟩ := by
  have hip : ValidatedIpAddress.new s.trim = .ok (.ofAddr a) := by
    rw [ValidatedIpAddress.new_eq_ok, Text.trim_trim]
    exact h
  unfold new
  simp only [hip]

theorem new_of_parse_none (h : IpAddr.parse s.trim = none) :
    new parseDnsName s = if looksLikeIp s.trim then .error (.invalidIpAddress s.trim)
      else match ValidatedDomain.new parseDnsName s.trim with
        | .ok d => .ok ⟨.domain d⟩
        | .error e => .error e := by
  have hip : ValidatedIpAddress.new s.trim = .error (.invalidIpAddress s.trim) := by
    rw [ValidatedIpAddress.new, Text.trim_trim, h]
  unfold new
  simp only [hip]
  rfl

theorem new_domain_iff {d : ValidatedDomain} : new parseDnsName s = .ok ⟨.domain d⟩ ↔
    IpAddr.parse s.trim = none ∧ looksLikeIp s.trim = false ∧
      ValidatedDomain.new parseDnsName s.trim = .ok d := by
  cases hparse : IpAddr.parse s.trim with
  | some a =>
    rw [new_of_parse hparse]
    simp
  | none =>
    rw [new_of_parse_none hparse]
    by_cases hlooks : looksLikeIp s.trim = true
    · simp [hlooks]
    · rw [if_neg hlooks]
      cases ValidatedDomain.new parseDnsName s.trim <;> simp [hlooks]

theorem new_cases {q : ValidatedQuery} (h : new parseDnsName s = .ok q) :
    (∃ a, IpAddr.parse s.trim = some a ∧ q = ⟨.ipAddress (.ofAddr a)⟩) ∨
      ∃ d, q = ⟨.domain d⟩ := by
  cases hparse : IpAddr.parse s.trim with
  | some a =>
    rw [new_of_parse hparse] at h
    cases h
    exact .inl ⟨a, rfl, rfl⟩
  | none =>
    rw [new_of_parse_none hparse] at h
    split_ifs at h
    cases hd : ValidatedDomain.new parseDnsName s.trim with
    | error e =>
      rw [hd] at h
      cases h
    | ok d =>
      rw [hd] at h
      cases h
      exact .inr ⟨d, rfl⟩

end ValidatedQuery

theorem ValidatedDomain.new_congr {parseDnsName : DnsNameParser} {s t : Text}
    (h : normalizeName s = normalizeName t) : new parseDnsName s = new parseDnsName t := by
  unfold new
  rw [h]

theorem ValidatedDomain.mem_of_new {parseDnsName : DnsNameParser} {s : Text} {d : ValidatedDomain}
    (h : new parseDnsName s = .ok d) : '.' ∈ d.name ∧ ':' ∉ d.name := by
  rw [ValidatedDomain.name_of_new h]
  unfold new at h
  dsimp only at h
  split_ifs at h with hempty hdot hurl
  refine ⟨by simpa using hdot, fun hcolon => hurl ?_⟩
  exact List.any_eq_true.mpr ⟨':', hcolon, by decide⟩

/-! ## The second validation -/

theorem mem_undotted {c : Char} (hc : c ≠ '.') {s : Text} : c ∈ undotted s ↔ c ∈ s.trim :=
  Text.mem_trimEndMatches hc

theorem numeric_of_normalizeName {s : Text} (h : Numeric (normalizeName s)) : Numeric s.trim := by
  intro c hc
  by_cases hdot : c = '.'
  · exact .inr hdot
  · obtain ⟨d, hd, hlow⟩ := exists_mem_toLowercaseFrom ((mem_undotted hdot).mpr hc) []
    have hnum := h d hd
    have hlt : d.toNat < 0x61 := by
      cases hnum with
      | inl hdigit =>
        have hle : d.toNat ≤ 0x39 := by
          simp only [isAsciiDigit, Bool.and_eq_true, decide_eq_true_eq] at hdigit
          exact hdigit.2
        omega
      | inr hd => rw [hd]; decide
    rwa [← eq_of_lowers hlow hlt]

theorem not_numeric_of_new {parseDnsName : DnsNameParser} {s : Text} {d : ValidatedDomain}
    (hlooks : looksLikeIp s.trim = false) (h : ValidatedDomain.new parseDnsName s.trim = .ok d) :
    ¬ Numeric d.name := by
  intro hnum
  obtain ⟨hdot, -⟩ := ValidatedDomain.mem_of_new h
  rw [ValidatedDomain.name_of_new h, normalizeName_trim] at hdot hnum
  have hmem : '.' ∈ s.trim := by
    have hu := (mem_toLowercase_iff (by decide)).mp hdot
    exact (List.rdropWhile_prefix _ _).subset hu
  have hyes := looksLikeIp_of_numeric (numeric_of_normalizeName hnum) hmem
  rw [hlooks] at hyes
  cases hyes

theorem not_parse_of_not_numeric {s : Text} (hcolon : ':' ∉ s) (hnum : ¬ Numeric s) :
    IpAddr.parse s = none := by
  cases hparse : IpAddr.parse s with
  | none => rfl
  | some a =>
    cases IpAddr.numeric_or_colon hparse with
    | inl hmem => exact absurd hmem hcolon
    | inr hall => exact absurd hall hnum

/-- A name that comes from an input without white space before its trailing dots is in normal
form. -/
theorem normalizeName_of_trim {s : Text} (h : (undotted s).trim = undotted s) :
    (normalizeName s).trim = normalizeName s ∧
      normalizeName (normalizeName s) = normalizeName s := by
  have htrim : (normalizeName s).trim = normalizeName s := trim_toLowercase_iff.mpr h
  have hdots : (normalizeName s).trimEndMatches '.' = normalizeName s :=
    (trimEndMatches_toLowercase_iff (by decide)).mpr (List.rdropWhile_idempotent _ _)
  refine ⟨htrim, ?_⟩
  rw [normalizeName_eq (normalizeName s), undotted, htrim, hdots]
  exact toLowercase_toLowercase (undotted s)

theorem trim_of_normalizeName {s : Text} (h : normalizeName (normalizeName s) = normalizeName s) :
    (undotted s).trim = undotted s := by
  have hpre : undotted (normalizeName s) <+: (normalizeName s).trim := List.rdropWhile_prefix _ _
  have hsub : (undotted (normalizeName s)).Sublist (normalizeName s) :=
    hpre.sublist.trans (Text.trim_sublist _)
  have hfix : undotted (normalizeName s) = normalizeName s := by
    have hlow := toLowercase_of_subset (s := undotted s) hsub.subset
    rw [← hlow]
    exact h
  have htrim : (normalizeName s).trim = normalizeName s := by
    refine (Text.trim_sublist _).eq_of_length_le ?_
    have hle := hpre.length_le
    rwa [hfix] at hle
  exact trim_toLowercase_iff.mp htrim

/-- **An accepted query is accepted again, with the same kind and text, exactly if it is an address
or no white space comes before its trailing dots**: those are stripped after the trimming. -/
theorem idempotent_iff {parseDnsName : DnsNameParser} {s : Text} {q : ValidatedQuery}
    (h : ValidatedQuery.new parseDnsName s = .ok q) :
    (∃ q', ValidatedQuery.new parseDnsName q.asStr = .ok q' ∧ q'.isIp = q.isIp ∧
        q'.asStr = q.asStr) ↔
      (IpAddr.parse s.trim).isSome ∨ (undotted s).trim = undotted s := by
  rcases ValidatedQuery.new_cases h with ⟨a, hparse, rfl⟩ | ⟨d, rfl⟩
  · refine iff_of_true ?_ (.inl (by rw [hparse]; rfl))
    refine ⟨⟨.ipAddress (.ofAddr a)⟩, ValidatedQuery.new_of_parse ?_, rfl, rfl⟩
    show IpAddr.parse a.toText.trim = some a
    rw [IpAddr.trim_toText]
    exact IpAddr.parse_toText a
  · obtain ⟨hparse, hlooks, hd⟩ := ValidatedQuery.new_domain_iff.mp h
    have hname : d.name = normalizeName s :=
      (ValidatedDomain.name_of_new hd).trans (normalizeName_trim s)
    rw [hparse, Option.isSome_none]
    simp only [Bool.false_eq_true, false_or]
    show (∃ q', ValidatedQuery.new parseDnsName d.name = .ok q' ∧ q'.isIp = false ∧
      q'.asStr = d.name) ↔ _
    constructor
    · rintro ⟨q', hq', hkind, htext⟩
      rcases ValidatedQuery.new_cases hq' with ⟨a, -, rfl⟩ | ⟨d', rfl⟩
      · cases hkind
      · obtain ⟨-, -, hd'⟩ := ValidatedQuery.new_domain_iff.mp hq'
        have hname' := ValidatedDomain.name_of_new hd'
        change d'.name = d.name at htext
        apply trim_of_normalizeName
        rw [← hname, ← normalizeName_trim, ← hname', htext]
    · intro htrim
      obtain ⟨hfixed, hnormal⟩ := normalizeName_of_trim htrim
      obtain ⟨-, hcolon⟩ := ValidatedDomain.mem_of_new hd
      have hnum := not_numeric_of_new hlooks hd
      refine ⟨⟨.domain d⟩, ValidatedQuery.new_domain_iff.mpr ⟨?_, ?_, ?_⟩, rfl, rfl⟩
      · rw [hname, hfixed, ← hname]
        exact not_parse_of_not_numeric hcolon hnum
      · rw [hname, hfixed, ← hname]
        by_contra hyes
        exact hnum (numeric_of_looksLikeIp (by simpa using hyes) hcolon)
      · rw [← hd]
        apply ValidatedDomain.new_congr
        rw [normalizeName_trim, normalizeName_trim, hname, hnormal]

/-- A tab before the trailing dot is left by the first validation and trimmed by the second, after
which a name can be an address. -/
theorem idempotent_tab :
    (∃ q q', ValidatedQuery.new lengthLimits "a.com\t." = .ok q ∧
      ValidatedQuery.new lengthLimits q.asStr = .ok q' ∧ q'.asStr ≠ q.asStr) ∧
    ∃ q q', ValidatedQuery.new lengthLimits "1.2.3.4\t." = .ok q ∧
      ValidatedQuery.new lengthLimits q.asStr = .ok q' ∧ q'.isIp ≠ q.isIp := by
  constructor
  · refine ⟨⟨.domain ⟨"a.com\t"⟩⟩, ⟨.domain ⟨"a.com"⟩⟩, ?_, ?_, ?_⟩
    · decide +kernel
    · decide +kernel
    · decide
  · refine ⟨⟨.domain ⟨"1.2.3.4\t"⟩⟩, ⟨.ipAddress (.ofAddr (.v4 ⟨1, 2, 3, 4⟩))⟩, ?_, ?_, ?_⟩
    · decide +kernel
    · decide +kernel
    · decide

theorem idempotent_iff_exampleCom :
    (∃ q', ValidatedQuery.new lengthLimits "example.com" = .ok q' ∧ q'.isIp = false ∧
        q'.asStr = "example.com".toList) ↔
      (IpAddr.parse (Text.trim " Example.com.")).isSome ∨
        (undotted " Example.com.").trim = undotted " Example.com." := by
  have hnew : ValidatedQuery.new lengthLimits " Example.com." = .ok ⟨.domain ⟨"example.com"⟩⟩ := by
    decide +kernel
  exact idempotent_iff hnew

end RustWhois
