import RustWhois.Arms
import RustWhois.Rdap.Response

/-!
# Contacts of a network

Where the email addresses of technical and abuse contacts end up in an IP lookup. The WHOIS parser
and the RDAP parser file contacts one after another, each with a chain of alternatives of its own
that asks for empty fields. Both are the same filing.

* `Contact.file`: a contact is filed in the first of its slots that is empty;
* `Contact.registrant_file_iff`: which contacts are filed as the registrant;
* `slots_parseIpLine`, `slots_readEntity`: what a line and an entity do to the slots;
* **`spares_iff`**: the texts and the documents whose technical and abuse contacts never become the
  registrant.
-/

namespace RustWhois

open Rust

/-! ## Filing contacts -/

/-- The slots for email addresses. -/
structure Slots where
  tech : Option Text
  admin : Option Text
  registrant : Option Text

namespace ParsedWhoisData

variable (p : ParsedWhoisData)

def slots : Slots := ⟨p.techEmail, p.adminEmail, p.registrantEmail⟩

@[simp] theorem tech_slots : p.slots.tech = p.techEmail := rfl

@[simp] theorem admin_slots : p.slots.admin = p.adminEmail := rfl

@[simp] theorem registrant_slots : p.slots.registrant = p.registrantEmail := rfl

end ParsedWhoisData

/-- A contact: what it is marked as, whether it may be the registrant, and its address. -/
structure Contact where
  technical : Bool
  abuse : Bool
  general : Bool
  email : Option Text

namespace Contact

/-- The first slot of the contact that is empty takes its address. -/
def file (c : Contact) (s : Slots) : Slots :=
  match c.email with
  | some email =>
    if c.technical && s.tech.isNone then { s with tech := some email }
    else if c.abuse && s.admin.isNone then { s with admin := some email }
    else if c.general && s.registrant.isNone then { s with registrant := some email }
    else s
  | none => s

/-- A technical or an abuse contact. -/
def IsMarked (c : Contact) : Prop := c.technical = true ∨ c.abuse = true

/-- The slots the contact is marked for are taken, and the registrant's, which it may have, is
empty. -/
def Spills (c : Contact) (s : Slots) : Prop :=
  c.email.isSome ∧ (c.technical = true → s.tech.isSome) ∧ (c.abuse = true → s.admin.isSome) ∧
    c.general = true ∧ s.registrant = none

theorem file_of_unmarked {c : Contact} (ht : c.technical = false) (ha : c.abuse = false)
    (hg : c.general = false) (s : Slots) : c.file s = s := by
  rw [file]
  cases c.email with
  | none => rfl
  | some email => simp [ht, ha, hg]

/-- **A contact is filed as the registrant exactly if it spills.** -/
theorem registrant_file_iff (c : Contact) (s : Slots) :
    (c.file s).registrant = s.registrant ↔ ¬ c.Spills s := by
  rw [file, Spills]
  cases c.email with
  | none => simp
  | some email =>
    rcases s with ⟨_ | tech, _ | admin, _ | registrant⟩ <;> cases c.technical <;>
      cases c.abuse <;> cases c.general <;> simp

end Contact

/-! ## Loops that file contacts -/

section Loop

variable {σ ι : Type} (f : σ → ι → σ) (slots : σ → Slots) (contact : ι → Contact)

/-- The property holds of every marked contact, with the state the loop comes to it in. -/
def EachMarked (s : σ) (l : List ι) (P : σ → ι → Prop) : Prop :=
  ∀ pre i post, l = pre ++ i :: post → (contact i).IsMarked → P (pre.foldl f s) i

/-- No marked contact changes the registrant's slot. -/
def Spares (s : σ) (l : List ι) : Prop :=
  EachMarked f contact s l fun s i => (slots (f s i)).registrant = (slots s).registrant

variable {f slots contact}

/-- A loop that files contacts spares the registrant exactly if no marked contact spills. -/
theorem spares_loop_iff (h : ∀ s i, slots (f s i) = (contact i).file (slots s)) (s : σ)
    (l : List ι) :
    Spares f slots contact s l ↔
      EachMarked f contact s l fun s i => ¬ (contact i).Spills (slots s) := by
  refine forall_congr' fun pre => forall_congr' fun i => forall_congr' fun post =>
    forall_congr' fun _ => forall_congr' fun _ => ?_
  dsimp only
  rw [h, Contact.registrant_file_iff]

end Loop

/-! ## WHOIS -/

namespace WhoisParser

/-- A value that looks like an address. -/
def address (value : Text) : Option Text := if List.contains value '@' then some value else none

/-- The contact of a key and its value. -/
def contactOf (k value : Text) : Contact where
  technical := IpField.techEmail.keyed k
  abuse := IpField.abuseEmail.keyed k
  general := IpField.contactEmail.keyed k
  email := address value

/-- The contact of a line. -/
def lineContact (line : Text) : Contact :=
  match keyValue line with
  | some (k, value) => contactOf k value
  | none => ⟨false, false, false, none⟩

theorem file_contactOf_of_word {k : Text} {words : List Text} (h : isOneOf k words = true)
    (hd : words.all (fun w => !IpField.techEmail.keyed w && !IpField.abuseEmail.keyed w &&
      !IpField.contactEmail.keyed w) = true) (value : Text) (s : Slots) :
    (contactOf k value).file s = s := by
  have hk := List.all_eq_true.mp hd k (by simpa [isOneOf] using h)
  simp only [Bool.and_eq_true, Bool.not_eq_true'] at hk
  exact Contact.file_of_unmarked hk.1.1 hk.1.2 hk.2 s

theorem file_contactOf (s : IpState) (k value : Text) :
    (contactOf k value).file s.parsed.slots =
      if IpField.guard s k value .techEmail then { s.parsed.slots with tech := some value }
      else if IpField.guard s k value .abuseEmail then { s.parsed.slots with admin := some value }
      else if IpField.guard s k value .contactEmail then
        { s.parsed.slots with registrant := some value }
      else s.parsed.slots := by
  simp only [Contact.file, contactOf, address, IpField.guard, IpField.admits]
  by_cases hat : List.contains value '@' = true
  · simp only [hat, if_true, Bool.and_true, ParsedWhoisData.tech_slots,
      ParsedWhoisData.admin_slots, ParsedWhoisData.registrant_slots]
    rfl
  · rw [Bool.not_eq_true] at hat
    simp only [hat, Bool.and_false, Bool.false_eq_true, if_false]

theorem slots_of_matchIpField (s : IpState) (k value : Text) :
    ((matchIpField s k value).elim s.parsed (storeIp s.parsed value)).slots =
      (contactOf k value).file s.parsed.slots := by
  have hword : ∀ {words : List Text} {test : Bool}, (isOneOf k words && test) = true →
      words.all (fun w => !IpField.techEmail.keyed w && !IpField.abuseEmail.keyed w &&
        !IpField.contactEmail.keyed w) = true →
      s.parsed.slots = (contactOf k value).file s.parsed.slots := fun h hd =>
    (file_contactOf_of_word (Bool.and_eq_true_iff.mp h).1 hd value _).symm
  rw [matchIpField_eq_find]
  simp only [IpField.arms, find?_cons_ite, List.find?_nil]
  split_ifs with h1 h2 h3 h4 h5 h6 h7 h8 h9
  · exact hword h1 (by decide +kernel)
  · exact hword h2 (by decide +kernel)
  · exact hword h3 (by decide +kernel)
  · exact hword h4 (by decide +kernel)
  · rw [file_contactOf, if_pos h5]
    rfl
  · rw [file_contactOf, if_neg h5, if_pos h6]
    rfl
  · rw [file_contactOf, if_neg h5, if_neg h6, if_pos h7]
    rfl
  · exact hword h8 (by decide +kernel)
  · exact hword h9 (by decide +kernel)
  · rw [file_contactOf, if_neg h5, if_neg h6, if_neg h7]
    rfl

theorem slots_parseIpLine (s : IpState) (line : Text) :
    (parseIpLine s line).parsed.slots = (lineContact line).file s.parsed.slots := by
  rw [parseIpLine, lineContact]
  cases keyValue line with
  | none => rfl
  | some kv =>
    dsimp only
    rw [← slots_of_matchIpField]
    cases matchIpField s kv.1 kv.2 <;> rfl

end WhoisParser

/-! ## RDAP -/

/-- The contact of an entity. -/
def entityContact (entity : Json) : Contact :=
  let roles := (entity.arr "roles").map fun roles => roles.filterMap Json.asStr
  { technical := (roles.getD []).contains "technical".toList
    abuse := (roles.getD []).contains "abuse".toList
    general := true
    email := roles.bind fun _ => (entity.get "vcardArray").bind extractEmailFromVcard }

theorem slots_readEntityName (vcard : Json) (reading : Reading) :
    (readEntityName vcard reading).1.slots = reading.1.slots := by
  rw [readEntityName]
  cases extractNameFromVcard vcard with
  | none => rfl
  | some name =>
    dsimp only
    split_ifs <;> rfl

theorem slots_readEntity (reading : Reading) (entity : Json) :
    (readEntity reading entity).1.slots = (entityContact entity).file reading.1.slots := by
  rw [readEntity, entityContact]
  cases entity.get "vcardArray" with
  | none => cases entity.arr "roles" <;> rfl
  | some vcard =>
    dsimp only
    rw [← slots_readEntityName vcard reading]
    obtain ⟨parsed, analysis⟩ := readEntityName vcard reading
    rw [readEntityEmail]
    cases entity.arr "roles" with
    | none => cases extractEmailFromVcard vcard <;> rfl
    | some roles =>
      cases he : extractEmailFromVcard vcard with
      | none => simp [Contact.file, he]
      | some email =>
        simp only [Contact.file, he, Option.map_some, Option.bind_some, Option.getD_some,
          Bool.true_and, ParsedWhoisData.tech_slots, ParsedWhoisData.admin_slots,
          ParsedWhoisData.registrant_slots]
        split_ifs <;> rfl

/-- The reading of an IP response before its entities. -/
def beforeEntities (json : Json) : Reading :=
  ((json.arr "events").getD []).foldl readEvent
    (readStatus json (readRange json (readName json ({}, ["=== RDAP IP PARSING ANALYSIS ==="]))))

theorem readIpResponse_eq (json : Json) :
    readIpResponse json ({}, ["=== RDAP IP PARSING ANALYSIS ==="]) =
      ((json.arr "entities").getD []).foldl readEntity (beforeEntities json) := rfl

/-! ## Both parsers -/

/-- No technical or abuse contact of the text becomes the registrant. -/
def SparesText (data : Text) : Prop :=
  Spares WhoisParser.parseIpLine (·.parsed.slots) WhoisParser.lineContact .start
    (WhoisParser.substantive ["%", "#"] data)

/-- No technical or abuse contact of the document becomes the registrant. -/
def SparesJson (json : Json) : Prop :=
  Spares readEntity (·.1.slots) entityContact (beforeEntities json)
    ((json.arr "entities").getD [])

/-- **Technical and abuse contacts become the registrant exactly if one of them spills**: it finds
its slots taken and the registrant's empty. -/
theorem spares_iff (data : Text) (json : Json) :
    (SparesText data ↔ EachMarked WhoisParser.parseIpLine WhoisParser.lineContact .start
      (WhoisParser.substantive ["%", "#"] data) fun s line =>
        ¬ (WhoisParser.lineContact line).Spills s.parsed.slots) ∧
    (SparesJson json ↔ EachMarked readEntity entityContact (beforeEntities json)
      ((json.arr "entities").getD []) fun reading entity =>
        ¬ (entityContact entity).Spills reading.1.slots) :=
  ⟨spares_loop_iff WhoisParser.slots_parseIpLine _ _, spares_loop_iff slots_readEntity _ _⟩

/-- A technical contact with a jCard. -/
def technicalEntity (email : Text) : Json :=
  .object [("roles", .array [.string "technical"]),
    ("vcardArray", .array [.string "vcard",
      .array [.array [.string "email", .object [], .string "text", .string email]]])]

/-- The second technical contact becomes the registrant. -/
theorem spares_secondTechnical :
    ¬ SparesText "OrgTechEmail: a@x\nOrgTechEmail: b@x" ∧
      ¬ SparesJson (.object [("entities", .array [technicalEntity "a@x", technicalEntity "b@x"])]) := by
  constructor
  · intro h
    have hkept := h ["OrgTechEmail: a@x"] "OrgTechEmail: b@x" [] (by decide +kernel)
      (.inl (by decide +kernel))
    revert hkept
    decide +kernel
  · intro h
    have hkept := h [technicalEntity "a@x"] (technicalEntity "b@x") [] rfl (.inl (by decide +kernel))
    revert hkept
    decide +kernel

end RustWhois
