import RustWhois.Parser

/-!
# RDAP responses

What `rdap.rs` reads out of a JSON document: `parse_rdap_response` for domains, by a typed
deserializer, and `parse_rdap_ip_response` for IP networks, by looking into the JSON value.

* `Json`: `serde_json::Value`; `Serde`: the deserializers of the crate;
* `extractVcardProperty`: the first value of a jCard property;
* `parseRdapResponse`, `parseRdapIpResponse`;
* `isSome_parseRdapResponse`, `isSome_parseRdapIpResponse`: a record is returned exactly for a
  document that deserializes.
-/

namespace RustWhois

open Rust

/-- `serde_json::Value`. -/
inductive Json
  | null
  | bool (b : Bool)
  | number (raw : Text)
  | string (s : Text)
  | array (items : List Json)
  | object (fields : List (Text × Json))

namespace Json

def asStr : Json → Option Text
  | string s => some s
  | _ => none

def asArray : Json → Option (List Json)
  | array items => some items
  | _ => none

/-- `get` of a key; the keys of an object are distinct. -/
def get : Json → Text → Option Json
  | object fields, key => fields.lookup key
  | _, _ => none

/-- A field with a string in it. -/
def str (self : Json) (key : Text) : Option Text := (self.get key).bind asStr

/-- A field with an array in it. -/
def arr (self : Json) (key : Text) : Option (List Json) := (self.get key).bind asArray

end Json

structure RdapNameserver where
  ldhName : Option Text

structure RdapEvent where
  eventAction : Option Text
  eventDate : Option Text

structure RdapEntity where
  roles : Option (List Text)
  vcardArray : Option Json

structure RdapDomainResponse where
  nameServers : Option (List RdapNameserver)
  events : Option (List RdapEvent)
  entities : Option (List RdapEntity)
  status : Option (List Text)

/-- `serde_json::from_str` at the two types that responses are read at. -/
structure Serde where
  domainResponse : Text → Except Text RdapDomainResponse
  value : Text → Except Text Json

/-! ## jCards -/

/-- `eq_ignore_ascii_case`. -/
def eqIgnoreAsciiCase (a b : Text) : Bool := a.map toAsciiLowercase == b.map toAsciiLowercase

/-- The value of a jCard property: a string, or the strings of an array, joined. -/
def vcardValue : Option Json → Option Text
  | some (.string s) => if s.trim.isEmpty then none else some s.trim
  | some (.array parts) =>
    let joined := Text.join (((parts.filterMap Json.asStr).map Text.trim).filter (!·.isEmpty)) " "
    if joined.isEmpty then none else some joined
  | _ => none

/-- `extract_vcard_property`. -/
def extractVcardProperty (vcard : Json) (property : Text) : Option Text := do
  let entries ← ((← vcard.asArray)[1]?).bind Json.asArray
  entries.findSome? fun entry => do
    let fields ← entry.asArray
    let name ← fields.head?.bind Json.asStr
    if eqIgnoreAsciiCase name property then vcardValue fields[3]? else none

/-- `extract_registrar_from_vcard`. -/
def extractRegistrarFromVcard (vcard : Json) : Option Text :=
  (extractVcardProperty vcard "fn").or (extractVcardProperty vcard "org")

/-- `extract_name_from_vcard`. -/
def extractNameFromVcard (vcard : Json) : Option Text :=
  (extractVcardProperty vcard "fn").or (extractVcardProperty vcard "org")

/-- `extract_email_from_vcard`. -/
def extractEmailFromVcard (vcard : Json) : Option Text := extractVcardProperty vcard "email"

/-! ## Domain responses -/

/-- One event of a domain response. -/
def applyEvent (parsed : ParsedWhoisData) (event : RdapEvent) : ParsedWhoisData :=
  match event.eventAction, event.eventDate with
  | some action, some date =>
    if action = "registration" then { parsed with creationDate := some date }
    else if action = "expiration" then { parsed with expirationDate := some date }
    else if (action = "last changed" ∨ action = "last update of RDAP database") ∧
        parsed.updatedDate.isNone then
      { parsed with updatedDate := some date }
    else parsed
  | _, _ => parsed

/-- One entity of a domain response, with its roles and its jCard. -/
def applyEntity (parsed : ParsedWhoisData) (entity : RdapEntity) : ParsedWhoisData :=
  match entity.roles, entity.vcardArray with
  | some roles, some vcard =>
    let parsed := if List.contains roles "registrar".toList then
        { parsed with registrar := (extractRegistrarFromVcard vcard).or parsed.registrar }
      else parsed
    let parsed := if List.contains roles "registrant".toList then
        { parsed with
          registrantName := (extractNameFromVcard vcard).or parsed.registrantName
          registrantEmail := (extractEmailFromVcard vcard).or parsed.registrantEmail }
      else parsed
    let parsed := if List.contains roles "administrative".toList then
        { parsed with adminEmail := parsed.adminEmail.or (extractEmailFromVcard vcard) }
      else parsed
    if List.contains roles "technical".toList then
      { parsed with techEmail := parsed.techEmail.or (extractEmailFromVcard vcard) }
    else parsed
  | _, _ => parsed

/-- The record of a domain response, without its age fields. -/
def readDomainResponse (rdap : RdapDomainResponse) : ParsedWhoisData :=
  let parsed : ParsedWhoisData :=
    { nameServers := (rdap.nameServers.getD []).filterMap (·.ldhName)
      status := rdap.status.getD [] }
  (rdap.entities.getD []).foldl applyEntity ((rdap.events.getD []).foldl applyEvent parsed)

/-- The end of the analysis of a document that does not deserialize. -/
def failureAnalysis (what e rawData : Text) : List Text :=
  ["❌ Failed to parse ".toList ++ what ++ ": ".toList ++ e, "Raw response (first 500 chars):",
    rawData.take 500]

/-- `parse_rdap_response`. -/
def parseRdapResponse (serde : Serde) (clock : Clock) (rawData : Text) :
    Option ParsedWhoisData × List Text :=
  match serde.domainResponse rawData with
  | .ok rdap =>
    let parsed := (readDomainResponse rdap).calculateAgeFields clock
    (some parsed,
      ["=== RDAP PARSING ANALYSIS ===", "✓ RDAP JSON parsed successfully",
        "✓ Registrar: ".toList ++ WhoisParser.orNotFound parsed.registrar,
        "✓ Creation Date: ".toList ++ WhoisParser.orNotFound parsed.creationDate,
        "✓ Expiration Date: ".toList ++ WhoisParser.orNotFound parsed.expirationDate,
        "✓ Name Servers: ".toList ++ natText parsed.nameServers.length ++ " found".toList,
        "✓ Status: ".toList ++ natText parsed.status.length ++ " found".toList])
  | .error e => (none, "=== RDAP PARSING ANALYSIS ===" :: failureAnalysis "RDAP JSON" e rawData)

/-! ## IP responses -/

/-- A record under construction, with the analysis so far. -/
abbrev Reading : Type := ParsedWhoisData × List Text

/-- `name`, the network name. -/
def readName (json : Json) : Reading → Reading
  | (parsed, analysis) => match json.str "name" with
    | some name =>
      ({ parsed with registrar := some name }, analysis ++ ["✓ Network Name: ".toList ++ name])
    | none => (parsed, analysis)

/-- `cidr0_cidrs` and the address range, which are reported only. -/
def readRange (json : Json) : Reading → Reading
  | (parsed, analysis) =>
    let cidrs := ((json.arr "cidr0_cidrs").getD []).filterMap fun cidr =>
      (((cidr.get "v4prefix").or (cidr.get "v6prefix")).bind Json.asStr).map
        ("✓ CIDR: ".toList ++ ·)
    let range := match json.str "startAddress", json.str "endAddress" with
      | some start, some stop => ["✓ IP Range: ".toList ++ start ++ " - ".toList ++ stop]
      | _, _ => []
    (parsed, analysis ++ cidrs ++ range)

/-- `status`. -/
def readStatus (json : Json) : Reading → Reading
  | (parsed, analysis) => match json.arr "status" with
    | some items =>
      let status := items.filterMap Json.asStr
      ({ parsed with status },
        analysis ++ ["✓ Status: ".toList ++ natText status.length ++ " entries".toList])
    | none => (parsed, analysis)

/-- One event of an IP response. -/
def readEvent : Reading → Json → Reading
  | (parsed, analysis), event => match event.str "eventAction", event.str "eventDate" with
    | some action, some date =>
      if action = "registration" then
        ({ parsed with creationDate := some date },
          analysis ++ ["✓ Registration Date: ".toList ++ date])
      else if (action = "last changed" ∨ action = "last update of RDAP database") ∧
          parsed.updatedDate.isNone then
        ({ parsed with updatedDate := some date }, analysis ++ ["✓ Last Updated: ".toList ++ date])
      else (parsed, analysis)
    | _, _ => (parsed, analysis)

/-- The name in the jCard of an entity. -/
def readEntityName (vcard : Json) : Reading → Reading
  | (parsed, analysis) => match extractNameFromVcard vcard with
    | some name =>
      if parsed.registrantName.isNone then
        ({ parsed with registrantName := some name },
          analysis ++ ["✓ Organization: ".toList ++ name])
      else (parsed, analysis)
    | none => (parsed, analysis)

/-- The address in the jCard of an entity, which goes by the roles. -/
def readEntityEmail (entity vcard : Json) : Reading → Reading
  | (parsed, analysis) => match extractEmailFromVcard vcard, entity.arr "roles" with
    | some email, some roles =>
      let roleStrings := roles.filterMap Json.asStr
      if roleStrings.contains "technical".toList && parsed.techEmail.isNone then
        ({ parsed with techEmail := some email }, analysis ++ ["✓ Tech Email: ".toList ++ email])
      else if roleStrings.contains "abuse".toList && parsed.adminEmail.isNone then
        ({ parsed with adminEmail := some email }, analysis ++ ["✓ Abuse Email: ".toList ++ email])
      else if parsed.registrantEmail.isNone then
        ({ parsed with registrantEmail := some email }, analysis)
      else (parsed, analysis)
    | _, _ => (parsed, analysis)

/-- One entity of an IP response. -/
def readEntity (reading : Reading) (entity : Json) : Reading :=
  match entity.get "vcardArray" with
  | some vcard => readEntityEmail entity vcard (readEntityName vcard reading)
  | none => reading

/-- The record of an IP response, without its age fields. -/
def readIpResponse (json : Json) (reading : Reading) : Reading :=
  let reading := readStatus json (readRange json (readName json reading))
  ((json.arr "entities").getD []).foldl readEntity
    (((json.arr "events").getD []).foldl readEvent reading)

/-- `parse_rdap_ip_response`. -/
def parseRdapIpResponse (serde : Serde) (clock : Clock) (rawData : Text) :
    Option ParsedWhoisData × List Text :=
  match serde.value rawData with
  | .ok json =>
    let (parsed, analysis) := readIpResponse json ({}, ["=== RDAP IP PARSING ANALYSIS ==="])
    let parsed := parsed.calculateAgeFields clock
    (some parsed, analysis ++
      ["\n=== SUMMARY ===".toList,
        "Network/Organization: ".toList ++ WhoisParser.orNotFound parsed.registrar,
        "Created: ".toList ++ WhoisParser.orNotFound parsed.creationDate,
        "Updated: ".toList ++ WhoisParser.orNotFound parsed.updatedDate,
        "Status entries: ".toList ++ natText parsed.status.length])
  | .error e =>
    (none, "=== RDAP IP PARSING ANALYSIS ===" :: failureAnalysis "RDAP IP JSON" e rawData)

/-! ## What is returned -/

variable {serde : Serde} {clock : Clock} {rawData : Text}

/-- The document deserializes at the type it is read at. -/
def Serde.Reads (serde : Serde) (isIp : Bool) (rawData : Text) : Prop :=
  if isIp then ∃ json, serde.value rawData = .ok json
  else ∃ rdap, serde.domainResponse rawData = .ok rdap

theorem isSome_parseRdapResponse :
    (parseRdapResponse serde clock rawData).1.isSome ↔ serde.Reads false rawData := by
  unfold parseRdapResponse Serde.Reads
  cases serde.domainResponse rawData <;> simp

theorem isSome_parseRdapIpResponse :
    (parseRdapIpResponse serde clock rawData).1.isSome ↔ serde.Reads true rawData := by
  unfold parseRdapIpResponse Serde.Reads
  cases serde.value rawData <;> simp

theorem coherent_parseRdapResponse {p : ParsedWhoisData}
    (h : (parseRdapResponse serde clock rawData).1 = some p) : p.Coherent clock := by
  unfold parseRdapResponse at h
  cases hs : serde.domainResponse rawData with
  | error e =>
    rw [hs] at h
    cases h
  | ok rdap =>
    rw [hs] at h
    cases h
    exact ParsedWhoisData.coherent_calculateAgeFields clock _

theorem coherent_parseRdapIpResponse {p : ParsedWhoisData}
    (h : (parseRdapIpResponse serde clock rawData).1 = some p) : p.Coherent clock := by
  unfold parseRdapIpResponse at h
  cases hs : serde.value rawData with
  | error e =>
    rw [hs] at h
    cases h
  | ok json =>
    rw [hs] at h
    cases h
    exact ParsedWhoisData.coherent_calculateAgeFields clock _

end RustWhois
