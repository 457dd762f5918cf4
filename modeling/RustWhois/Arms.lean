import RustWhois.Insertions
import RustWhois.Std.Slices

/-!
# The arms of the parsers

Both parsers match a line against guarded arms, and the first arm whose guard passes takes it. A
guard has two parts: a pattern of the key, and what the record and the value have to be like.

* `Field.keyed`, `Field.admits`: the two parts;
* **`matchField_eq_find`**, **`matchIpField_eq_find`**: the `match` is a search for the first arm;
* `parseLine_cases`: what a line can do to a record;
* `value_store`: an arm changes its field and no other.
-/

namespace RustWhois

open Rust

namespace WhoisParser

/-! ## Domain responses -/

namespace Field

/-- The arms in their order. -/
def arms : List Field :=
  [expirationDate, creationDate, updatedDate, registrar, nameServer, status, registrantName,
    registrantEmail, adminEmail, techEmail]

/-- The pattern of the key. -/
def keyed (k : Text) : Field → Bool
  | expirationDate => k.contains "expir" || k.contains "expires"
  | creationDate => k.contains "creation" || k.contains "created" || k == "registered".toList
  | updatedDate => k.contains "updated" || k.contains "modified" || k.contains "last updated"
  | registrar =>
    k.contains "registrar" && !k.contains "whois" && !k.contains "url" && !k.contains "abuse" &&
      !k.contains "expir" && !k.contains "registration"
  | nameServer => k.contains "name server" || k == "nserver".toList || k == "ns".toList
  | status => k.contains "status" || k == "state".toList
  | registrantName =>
    k.startsWith "registrant" && (k.contains "name" || k.contains "organization" ||
      k.contains "org" || k == "registrant".toList)
  | registrantEmail => k.contains "registrant" && k.contains "email"
  | adminEmail => k.contains "admin" && k.contains "email"
  | techEmail => k.contains "tech" && k.contains "email"

/-- The rest of the guard. -/
def admits (p : ParsedWhoisData) (value : Text) : Field → Bool
  | expirationDate => p.expirationDate.isNone
  | creationDate => p.creationDate.isNone
  | updatedDate => p.updatedDate.isNone
  | registrar => p.registrar.isNone
  | nameServer => true
  | status => !p.status.contains value
  | registrantName => p.registrantName.isNone && !(toLowercase value).contains "select request"
  | registrantEmail => p.registrantEmail.isNone && emailLike value
  | adminEmail => p.adminEmail.isNone && emailLike value
  | techEmail => p.techEmail.isNone && emailLike value

def guard (p : ParsedWhoisData) (k value : Text) (arm : Field) : Bool :=
  arm.keyed k && arm.admits p value

end Field

theorem find?_cons_ite {α : Type} (p : α → Bool) (a : α) (l : List α) :
    (a :: l).find? p = if p a = true then some a else l.find? p := by
  rw [List.find?_cons]
  cases p a <;> rfl

/-- **The `match` is a search for the first arm whose guard passes.** -/
theorem matchField_eq_find (p : ParsedWhoisData) (k value : Text) :
    matchField p k value = Field.arms.find? (Field.guard p k value) := by
  simp only [Field.arms, find?_cons_ite, Field.guard, Field.keyed, Field.admits, matchField,
    Bool.and_true, Bool.and_assoc, List.find?_nil]

/-- What an arm leaves in its field. -/
def Field.stored (p : ParsedWhoisData) (value : Text) : Field → FieldValue
  | nameServer =>
    let server := value.firstWord.getD value
    .texts (if p.nameServers.contains server then p.nameServers else p.nameServers ++ [server])
  | status => .texts (p.status ++ [value])
  | _ => .text (some value)

theorem value_store (p : ParsedWhoisData) (value : Text) (arm : Field) (f : RecordField) :
    f.value (store p value arm) = if f = arm.slot then arm.stored p value else f.value p := by
  cases arm with
  | nameServer =>
    rw [store, Field.stored]
    split_ifs <;> cases f <;> simp_all [RecordField.value, Field.slot]
  | _ => cases f <;> rfl

theorem parseLine_cases (p : ParsedWhoisData) (line : Text) :
    parseLine p line = p ∨ ∃ k value arm, keyValue line = some (k, value) ∧
      matchField p k value = some arm ∧ parseLine p line = store p value arm := by
  rw [parseLine]
  cases keyValue line with
  | none => exact .inl rfl
  | some kv =>
    obtain ⟨k, value⟩ := kv
    dsimp only
    cases hm : matchField p k value with
    | none => exact .inl rfl
    | some arm => exact .inr ⟨k, value, arm, rfl, hm, rfl⟩

theorem guard_of_find? {l : List Field} {p : ParsedWhoisData} {k value : Text} {arm : Field}
    (h : l.find? (Field.guard p k value) = some arm) :
    arm.keyed k = true ∧ arm.admits p value = true :=
  Bool.and_eq_true_iff.mp (List.find?_some (p := Field.guard p k value) h)

theorem guard_of_matchField {p : ParsedWhoisData} {k value : Text} {arm : Field}
    (h : matchField p k value = some arm) : arm.keyed k = true ∧ arm.admits p value = true := by
  rw [matchField_eq_find] at h
  exact guard_of_find? h

/-! ## IP responses -/

namespace IpField

/-- The arms in their order. -/
def arms : List IpField :=
  [organization, networkName, updatedDate, createdDate, techEmail, abuseEmail, contactEmail,
    status, networkRange]

/-- The pattern of the key. -/
def keyed (k : Text) : IpField → Bool
  | organization => isOneOf k ["orgname", "org-name", "owner", "organization"]
  | networkName => isOneOf k ["netname"]
  | updatedDate => isOneOf k ["updated", "lastupdated", "changed", "last-modified"]
  | createdDate => isOneOf k ["created", "regdate", "registration"]
  | techEmail => k.contains "orgtechemail" || k.contains "tech-c" || k.contains "technical"
  | abuseEmail => k.contains "orgabuseemail" || k.contains "abuse-c" || k.contains "abuse"
  | contactEmail => k.contains "orgemail" || k.contains "e-mail" || k.contains "email"
  | status => isOneOf k ["status", "nettype"]
  | networkRange => isOneOf k ["netrange", "inetnum", "cidr"]

/-- The rest of the guard. -/
def admits (s : IpState) (value : Text) : IpField → Bool
  | organization => s.parsed.registrar.isNone || s.orgFromNetname
  | networkName => s.parsed.registrar.isNone
  | updatedDate => s.parsed.updatedDate.isNone
  | createdDate => s.parsed.creationDate.isNone
  | techEmail => s.parsed.techEmail.isNone && List.contains value '@'
  | abuseEmail => s.parsed.adminEmail.isNone && List.contains value '@'
  | contactEmail => s.parsed.registrantEmail.isNone && List.contains value '@'
  | status => !s.parsed.status.contains value
  | networkRange => true

def guard (s : IpState) (k value : Text) (arm : IpField) : Bool :=
  arm.keyed k && arm.admits s value

end IpField

theorem matchIpField_eq_find (s : IpState) (k value : Text) :
    matchIpField s k value = IpField.arms.find? (IpField.guard s k value) := by
  simp only [IpField.arms, find?_cons_ite, IpField.guard, IpField.keyed, IpField.admits,
    matchIpField, Bool.and_true, Bool.and_assoc, List.find?_nil]

end WhoisParser

end RustWhois
