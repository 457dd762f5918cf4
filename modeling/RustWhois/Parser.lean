import RustWhois.Data

/-!
# The WHOIS parser

`WhoisParser`: the domain parser, the IP parser and the classification of a response.

* `keyValue`: a `key: value` line as both parsers read it;
* `parseWhoisData`: every line is matched against the patterns of the fields in the order of the
  `match` (`matchField`) and stored in the field it matched (`store`);
* `parseIpWhoisData`: the same for IP responses, where a network name stands in for an organization;
* `classifyResponse`: found, not found or rate limited;
* **`coherent_parseWhoisData`**, `coherent_parseIpWhoisData`: what the parsers return is coherent.
-/

namespace RustWhois

open Rust

namespace WhoisParser

/-! ## Classification -/

/-- `RATE_LIMIT_PATTERNS`. -/
def rateLimitPatterns : List Text :=
  ["rate limit", "ratelimit", "quota exceeded", "exceeded your quota", "lookup quota",
    "number of allowed queries exceeded", "exceeded the maximum", "maximum number of queries",
    "whois limit exceeded", "too many requests", "excessive quer", "request limit reached",
    "access denied", "connection limit"]

/-- `NOT_FOUND_PATTERNS`. -/
def notFoundPatterns : List Text :=
  ["no match", "not found", "no data found", "no entries found", "no object found",
    "object does not exist", "nothing found", "not registered", "no information available",
    "status: available", "status: free", "is available for registration"]

/-- `classify_response`. -/
def classifyResponse (rawData : Text) (parsed : ParsedWhoisData) : LookupStatus :=
  if parsed.hasRecordData then .found
  else
    let lower := toLowercase rawData
    -- a throttle message must not read as "not registered"
    if rateLimitPatterns.any lower.contains then .rateLimited
    else if notFoundPatterns.any lower.contains then .notFound
    else .found

/-! ## Lines -/

/-- The trimmed lines that are neither empty nor start with one of the comment marks. -/
def substantive (marks : List Text) (data : Text) : List Text :=
  (data.lines.map Text.trim).filter fun line => !line.isEmpty && !marks.any line.startsWith

/-- Key and value of a line, split at its first colon: the key trimmed and lowercased, the value
trimmed. A line with an empty value is skipped. -/
def keyValue (line : Text) : Option (Text × Text) :=
  match line.splitOnce ':' with
  | some (key, value) =>
    if value.trim.isEmpty then none else some (toLowercase key.trim, value.trim)
  | none => none

/-! ## Domain responses -/

/-- The arms of the `match` on a key. -/
inductive Field
  | expirationDate
  | creationDate
  | updatedDate
  | registrar
  | nameServer
  | status
  | registrantName
  | registrantEmail
  | adminEmail
  | techEmail
  deriving DecidableEq

/-- A value that looks like an email address and is no redaction notice. -/
def emailLike (value : Text) : Bool :=
  List.contains value '@' && !(toLowercase value).contains "select request"

/-- The first arm whose guard the key passes; the order matters. -/
def matchField (parsed : ParsedWhoisData) (k value : Text) : Option Field :=
  if (k.contains "expir" || k.contains "expires") && parsed.expirationDate.isNone then
    some .expirationDate
  else if (k.contains "creation" || k.contains "created" || k == "registered".toList) &&
      parsed.creationDate.isNone then
    some .creationDate
  else if (k.contains "updated" || k.contains "modified" || k.contains "last updated") &&
      parsed.updatedDate.isNone then
    some .updatedDate
  else if k.contains "registrar" && !k.contains "whois" && !k.contains "url" &&
      !k.contains "abuse" && !k.contains "expir" && !k.contains "registration" &&
      parsed.registrar.isNone then
    some .registrar
  else if k.contains "name server" || k == "nserver".toList || k == "ns".toList then
    some .nameServer
  -- "state" only as an exact key: a substring would capture "Registrant State/Province"
  else if (k.contains "status" || k == "state".toList) && !parsed.status.contains value then
    some .status
  else if k.startsWith "registrant" &&
      (k.contains "name" || k.contains "organization" || k.contains "org" ||
        k == "registrant".toList) &&
      parsed.registrantName.isNone && !(toLowercase value).contains "select request" then
    some .registrantName
  else if k.contains "registrant" && k.contains "email" && parsed.registrantEmail.isNone &&
      emailLike value then
    some .registrantEmail
  else if k.contains "admin" && k.contains "email" && parsed.adminEmail.isNone &&
      emailLike value then
    some .adminEmail
  else if k.contains "tech" && k.contains "email" && parsed.techEmail.isNone &&
      emailLike value then
    some .techEmail
  else none

/-- The body of an arm. -/
def store (parsed : ParsedWhoisData) (value : Text) : Field → ParsedWhoisData
  | .expirationDate => { parsed with expirationDate := some value }
  | .creationDate => { parsed with creationDate := some value }
  | .updatedDate => { parsed with updatedDate := some value }
  | .registrar => { parsed with registrar := some value }
  | .nameServer =>
    let server := value.firstWord.getD value
    if parsed.nameServers.contains server then parsed
    else { parsed with nameServers := parsed.nameServers ++ [server] }
  | .status => { parsed with status := parsed.status ++ [value] }
  | .registrantName => { parsed with registrantName := some value }
  | .registrantEmail => { parsed with registrantEmail := some value }
  | .adminEmail => { parsed with adminEmail := some value }
  | .techEmail => { parsed with techEmail := some value }

/-- One line of the loop. -/
def parseLine (parsed : ParsedWhoisData) (line : Text) : ParsedWhoisData :=
  match keyValue line with
  | some (key, value) => match matchField parsed key value with
    | some field => store parsed value field
    | none => parsed
  | none => parsed

variable (clock : Clock)

/-- `parse_whois_data`. -/
def parseWhoisData (data : Text) : ParsedWhoisData :=
  ((substantive ["%", "#", ">>>"] data).foldl parseLine {}).calculateAgeFields clock

/-- A field in an analysis line. -/
def orNotFound (field : Option Text) : Text := field.getD "NOT FOUND"

/-- The lines whose lowercase contains `word`, with their numbers. -/
def linesContaining (word : Text) (data : Text) : List Text :=
  (data.lines.zipIdx 1).filterMap fun (line, i) =>
    if (toLowercase line).contains word then
      some ("Line ".toList ++ natText i ++ ": ".toList ++ line.trim)
    else none

/-- `parse_whois_data_with_analysis`. -/
def parseWhoisDataWithAnalysis (data : Text) : ParsedWhoisData × List Text :=
  let parsed := parseWhoisData clock data
  (parsed,
    ["=== PARSING ANALYSIS ===".toList,
      "✓ Registrar: ".toList ++ orNotFound parsed.registrar,
      "✓ Creation Date: ".toList ++ orNotFound parsed.creationDate,
      "✓ Expiration Date: ".toList ++ orNotFound parsed.expirationDate,
      "✓ Updated Date: ".toList ++ orNotFound parsed.updatedDate,
      "✓ Registrant Name: ".toList ++ orNotFound parsed.registrantName,
      "✓ Name Servers: ".toList ++ natText parsed.nameServers.length ++ " found".toList,
      "✓ Status: ".toList ++ natText parsed.status.length ++ " found".toList,
      "\n=== LINES CONTAINING 'REGISTRANT' ===".toList] ++
    linesContaining "registrant" data ++
    ["\n=== LINES CONTAINING 'EXPIR' ===".toList] ++
    linesContaining "expir" data)

/-! ## IP responses -/

/-- The arms of the `match` on a key of an IP response. -/
inductive IpField
  | organization
  | networkName
  | updatedDate
  | createdDate
  | techEmail
  | abuseEmail
  | contactEmail
  | status
  | networkRange
  deriving DecidableEq

/-- The variables of the loop: the record, whether its registrar is a network name only, and the
analysis. -/
structure IpState where
  parsed : ParsedWhoisData := {}
  orgFromNetname : Bool := false
  analysis : List Text := []
  deriving DecidableEq

/-- The key is one of the words. -/
def isOneOf (k : Text) (words : List Text) : Bool := words.contains k

/-- The first arm whose pattern and guard the key passes. -/
def matchIpField (s : IpState) (k value : Text) : Option IpField :=
  if isOneOf k ["orgname", "org-name", "owner", "organization"] &&
      (s.parsed.registrar.isNone || s.orgFromNetname) then
    some .organization
  else if isOneOf k ["netname"] && s.parsed.registrar.isNone then
    some .networkName
  else if isOneOf k ["updated", "lastupdated", "changed", "last-modified"] &&
      s.parsed.updatedDate.isNone then
    some .updatedDate
  else if isOneOf k ["created", "regdate", "registration"] && s.parsed.creationDate.isNone then
    some .createdDate
  else if (k.contains "orgtechemail" || k.contains "tech-c" || k.contains "technical") &&
      s.parsed.techEmail.isNone && List.contains value '@' then
    some .techEmail
  else if (k.contains "orgabuseemail" || k.contains "abuse-c" || k.contains "abuse") &&
      s.parsed.adminEmail.isNone && List.contains value '@' then
    some .abuseEmail
  else if (k.contains "orgemail" || k.contains "e-mail" || k.contains "email") &&
      s.parsed.registrantEmail.isNone && List.contains value '@' then
    some .contactEmail
  else if isOneOf k ["status", "nettype"] && !s.parsed.status.contains value then
    some .status
  else if isOneOf k ["netrange", "inetnum", "cidr"] then
    some .networkRange
  else none

/-- The analysis line of an arm. -/
def IpField.label : IpField → Text
  | organization => "✓ Organization: "
  | networkName => "✓ Network Name: "
  | updatedDate => "✓ Updated Date: "
  | createdDate => "✓ Created Date: "
  | techEmail => "✓ Tech Email: "
  | abuseEmail => "✓ Abuse Email: "
  | contactEmail => "✓ Contact Email: "
  | status => "✓ Status: "
  | networkRange => "✓ Network Range: "

/-- What an arm does to the record. -/
def storeIp (parsed : ParsedWhoisData) (value : Text) : IpField → ParsedWhoisData
  | .organization | .networkName => { parsed with registrar := some value }
  | .updatedDate => { parsed with updatedDate := some value }
  | .createdDate => { parsed with creationDate := some value }
  | .techEmail => { parsed with techEmail := some value }
  | .abuseEmail => { parsed with adminEmail := some value }
  | .contactEmail => { parsed with registrantEmail := some value }
  | .status => { parsed with status := parsed.status ++ [value] }
  | .networkRange => parsed

/-- What an arm does to the flag. -/
def storeFlag (flag : Bool) : IpField → Bool
  | .organization => false
  | .networkName => true
  | _ => flag

/-- One line of the loop. -/
def parseIpLine (s : IpState) (line : Text) : IpState :=
  match keyValue line with
  | some (key, value) => match matchIpField s key value with
    | some field =>
      { parsed := storeIp s.parsed value field
        orgFromNetname := storeFlag s.orgFromNetname field
        analysis := s.analysis ++ [field.label ++ value] }
    | none => s
  | none => s

/-- The variables before the loop. -/
def IpState.start : IpState where
  analysis := ["=== IP WHOIS PARSING ANALYSIS ==="]

/-- The variables after the loop. -/
def parseIpLines (data : Text) : IpState := (substantive ["%", "#"] data).foldl parseIpLine .start

/-- The record of `parse_ip_whois_data_with_analysis`. -/
def parseIpWhoisData (data : Text) : ParsedWhoisData :=
  (parseIpLines data).parsed.calculateAgeFields clock

/-- `parse_ip_whois_data_with_analysis`. -/
def parseIpWhoisDataWithAnalysis (data : Text) : Option ParsedWhoisData × List Text :=
  let parsed := parseIpWhoisData clock data
  (some parsed,
    (parseIpLines data).analysis ++
    ["\n=== SUMMARY ===".toList,
      "Organization: ".toList ++ orNotFound parsed.registrar,
      "Created: ".toList ++ orNotFound parsed.creationDate,
      "Updated: ".toList ++ orNotFound parsed.updatedDate,
      "Status entries: ".toList ++ natText parsed.status.length,
      "Contact emails found: ".toList ++ natText (List.length <|
        [parsed.registrantEmail, parsed.adminEmail, parsed.techEmail].filter Option.isSome)])

/-! ## What the parsers return -/

@[simp] theorem parseWhoisDataWithAnalysis_fst (data : Text) :
    (parseWhoisDataWithAnalysis clock data).1 = parseWhoisData clock data := rfl

@[simp] theorem parseIpWhoisDataWithAnalysis_fst (data : Text) :
    (parseIpWhoisDataWithAnalysis clock data).1 = some (parseIpWhoisData clock data) := rfl

/-- **A parsed record is coherent.** -/
theorem coherent_parseWhoisData (data : Text) : (parseWhoisData clock data).Coherent clock :=
  ParsedWhoisData.coherent_calculateAgeFields clock _

theorem coherent_parseIpWhoisData (data : Text) : (parseIpWhoisData clock data).Coherent clock :=
  ParsedWhoisData.coherent_calculateAgeFields clock _

/-! ## What decides the classification -/

theorem classifyResponse_of_hasRecordData {parsed : ParsedWhoisData}
    (h : parsed.hasRecordData = true) (rawData : Text) :
    classifyResponse rawData parsed = .found := by
  rw [classifyResponse, if_pos h]

theorem classifyResponse_congr {p q : ParsedWhoisData} (h : p.hasRecordData = q.hasRecordData)
    (rawData : Text) : classifyResponse rawData p = classifyResponse rawData q := by
  rw [classifyResponse, classifyResponse, h]

end WhoisParser

end RustWhois
