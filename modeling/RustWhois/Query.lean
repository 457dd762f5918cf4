import RustWhois.Std.Utf8
import RustWhois.Ip

/-!
# Queries

The validation of what a caller asks for (`ValidatedDomain`, `ValidatedQuery`) and the top-level
domain of a name (`extract_tld`).

The `addr` crate's `parse_dns_name` and the `psl` crate's `suffix` are parameters.

* `ValidatedQuery.new`: an address if it parses as one, else a domain name;
* **`asStr_of_new`**: an accepted query is the canonical text of an address or the trimmed,
  undotted, lowercased input.
-/

namespace RustWhois

open Rust

/-- `parse_dns_name` of the `addr` crate: the name is accepted or refused with a message. -/
abbrev DnsNameParser : Type := Text → Except Text Unit

structure ValidatedDomain where
  name : Text
  deriving DecidableEq

/-- The form of a domain name that is checked and sent: trimmed, no trailing dots, lowercased. -/
def normalizeName (domain : Text) : Text := toLowercase (domain.trim.trimEndMatches '.')

/-- `ValidatedDomain::new`. -/
def ValidatedDomain.new (parseDnsName : DnsNameParser) (domain : Text) :
    Except WhoisError ValidatedDomain :=
  let domain := normalizeName domain
  if domain.isEmpty then .error (.invalidDomain "Empty domain")
  else if !List.contains domain '.' then
    .error (.invalidDomain "Domain must contain at least one dot")
  else if domain.any ['/', ':', '?', '#', '@', ' '].contains then
    .error (.invalidDomain ("Domain contains URL syntax or invalid characters: ".toList ++ domain ++
      " (pass a bare hostname)".toList))
  else match parseDnsName domain with
    | .error e => .error (.invalidDomain (domain ++ " (".toList ++ e ++ ")".toList))
    | .ok () => .ok ⟨domain⟩

inductive DetectedQueryType
  | domain (d : ValidatedDomain)
  | ipAddress (ip : ValidatedIpAddress)
  deriving DecidableEq

structure ValidatedQuery where
  queryType : DetectedQueryType
  deriving DecidableEq

namespace ValidatedQuery

/-- `ValidatedQuery::new`. -/
def new (parseDnsName : DnsNameParser) (input : Text) : Except WhoisError ValidatedQuery :=
  let trimmed := input.trim
  match ValidatedIpAddress.new trimmed with
  | .ok ip => .ok ⟨.ipAddress ip⟩
  | .error _ =>
    let looksLikeIpv4 :=
      List.contains trimmed '.' && trimmed.all fun c => isAsciiDigit c || c == '.'
    let looksLikeIpv6 := List.contains trimmed ':' &&
      trimmed.all fun c => isAsciiHexdigit c || c == ':' || c == '.'
    if looksLikeIpv4 || looksLikeIpv6 then .error (.invalidIpAddress trimmed)
    else match ValidatedDomain.new parseDnsName trimmed with
      | .ok d => .ok ⟨.domain d⟩
      | .error e => .error e

/-- `as_str`. -/
def asStr (self : ValidatedQuery) : Text :=
  match self.queryType with
  | .domain d => d.name
  | .ipAddress ip => ip.normalized

def isIp (self : ValidatedQuery) : Bool :=
  match self.queryType with
  | .domain _ => false
  | .ipAddress _ => true

end ValidatedQuery

/-! ## Top-level domains -/

/-- `List.suffix` of the `psl` crate, on the bytes of a name. -/
abbrev SuffixList : Type := List UInt8 → Option (List UInt8)

/-- `extract_tld`. -/
def extractTld (suffix : SuffixList) (domain : Text) : Except WhoisError Text :=
  match suffix (asBytes domain) with
  | some bytes => match fromUtf8 bytes with
    | some tld => .ok tld
    | none => .error (.invalidDomain ("Invalid UTF-8 in TLD for domain: ".toList ++ domain))
  | none =>
    let parts := domain.split '.'
    if parts.length < 2 then .error (.invalidDomain ("No TLD found in domain: ".toList ++ domain))
    else .ok (parts.getLastD [])

/-! ## What an accepted query is -/

theorem ValidatedDomain.name_of_new {parseDnsName : DnsNameParser} {domain : Text}
    {d : ValidatedDomain} (h : new parseDnsName domain = .ok d) :
    d.name = normalizeName domain := by
  simp only [new] at h
  split_ifs at h
  split at h
  · cases h
  · cases h
    rfl

/-- **An accepted query is an address in canonical form, or the normalized input.** -/
theorem ValidatedQuery.asStr_of_new {parseDnsName : DnsNameParser} {s : Text} {q : ValidatedQuery}
    (h : new parseDnsName s = .ok q) :
    (∃ a, IpAddr.parse s.trim = some a ∧ q.asStr = a.toText) ∨
      (IpAddr.parse s.trim = none ∧ q.asStr = normalizeName s) := by
  simp only [new] at h
  rcases hip : ValidatedIpAddress.new s.trim with e | ip
  · have hnone : IpAddr.parse s.trim = none := by
      simp only [ValidatedIpAddress.new, Text.trim_trim] at hip
      split at hip
      · cases hip
      · assumption
    rw [hip] at h
    dsimp only at h
    split_ifs at h
    rcases hd : ValidatedDomain.new parseDnsName s.trim with e | d
    · simp [hd] at h
    · rw [hd] at h
      cases h
      refine .inr ⟨hnone, ?_⟩
      change d.name = normalizeName s
      rw [ValidatedDomain.name_of_new hd, normalizeName, Text.trim_trim, normalizeName]
  · rw [hip] at h
    cases h
    rw [ValidatedIpAddress.new_eq_ok, Text.trim_trim] at hip
    exact .inl ⟨ip.addr, hip, ip.normalized_eq⟩

end RustWhois
