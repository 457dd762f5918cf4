import RustWhois.Std.Text

/-!
# Records, results and errors

The data of the crate: `WhoisError`, `LookupStatus`, `ParsedWhoisData`, `LookupResult`,
`WhoisResponse`, `Config`; and the date arithmetic of `dates.rs` that fills the age fields.

* `Clock`: the wall clock and `parse_date`, which the age fields depend on;
* `calculateAgeFields`, `Coherent`: the age fields belong to the date strings;
* `fillMissingFrom`: the merge of two parse results, field by field (`value_fillMissingFrom`);
* **`coherent_fillMissingFrom_iff`**: when the merge of two coherent records is coherent.
-/

namespace RustWhois

open Rust

/-! ## Errors -/

/-- `WhoisError`. The payloads of other crates are carried as their message. -/
inductive WhoisError
  | invalidDomain (msg : Text)
  | invalidIpAddress (msg : Text)
  | unsupportedIpAddress (msg : Text)
  | unsupportedTld (msg : Text)
  | timeout
  | ioError (msg : Text)
  | httpError (msg : Text)
  | rateLimited (msg : Text)
  | responseTooLarge
  | invalidUtf8
  | configError (msg : Text)
  | internal (msg : Text)
  deriving DecidableEq

/-- `Display`. -/
def WhoisError.toText : WhoisError → Text
  | invalidDomain m => "Invalid domain: ".toList ++ m
  | invalidIpAddress m => "Invalid IP address: ".toList ++ m
  | unsupportedIpAddress m => "Unsupported IP address: ".toList ++ m
  | unsupportedTld m => "Unsupported TLD: ".toList ++ m
  | timeout => "Network timeout"
  | ioError m => "IO error: ".toList ++ m
  | httpError m => "HTTP error: ".toList ++ m
  | rateLimited m => "Upstream rate limited: ".toList ++ m
  | responseTooLarge => "Response too large"
  | invalidUtf8 => "Invalid UTF-8 in response"
  | configError m => "Configuration error: ".toList ++ m
  | internal m => "Internal server error: ".toList ++ m

/-! ## Records -/

inductive LookupStatus
  | found
  | notFound
  | rateLimited
  deriving DecidableEq

structure ParsedWhoisData where
  registrar : Option Text := none
  creationDate : Option Text := none
  expirationDate : Option Text := none
  updatedDate : Option Text := none
  nameServers : List Text := []
  status : List Text := []
  registrantName : Option Text := none
  registrantEmail : Option Text := none
  adminEmail : Option Text := none
  techEmail : Option Text := none
  createdAgo : Option Int := none
  updatedAgo : Option Int := none
  expiresIn : Option Int := none
  deriving DecidableEq

/-- `LookupResult`, the result of a WHOIS or an RDAP lookup. -/
structure LookupResult where
  server : Text
  rawData : Text
  parsedData : Option ParsedWhoisData
  parsingAnalysis : List Text
  status : LookupStatus
  deriving DecidableEq

structure WhoisResponse where
  domain : Text
  whoisServer : Text
  rawData : Text
  parsedData : Option ParsedWhoisData
  lookupStatus : LookupStatus
  cached : Bool
  queryTimeMs : Nat
  parsingAnalysis : Option (List Text)
  deriving DecidableEq

structure Config where
  port : Nat
  whoisTimeoutSeconds : Nat
  maxResponseSize : Nat
  cacheTtlSeconds : Nat
  negativeCacheTtlSeconds : Nat
  cacheMaxEntries : Nat
  maxReferrals : Nat
  discoveryTimeoutSeconds : Nat
  concurrentWhoisQueries : Nat
  bufferPoolSize : Nat
  bufferSize : Nat

/-- `Duration::from_secs`, in nanoseconds. -/
def fromSecs (n : Nat) : Nat := n * 1000000000

/-! ## Dates -/

/-- `DateTime<Utc>`: nanoseconds since the epoch. -/
abbrev DateTime : Type := Int

/-- The wall clock and the date parser. -/
structure Clock where
  now : DateTime
  parseDate : Text → Option DateTime

/-- `TimeDelta::num_days`: whole days, truncated toward zero. -/
def numDays (delta : Int) : Int := delta.tdiv (24 * 60 * 60 * 1000000000)

namespace Clock

variable (clock : Clock)

/-- `days_since`. -/
def daysSince (date : DateTime) : Int := numDays (clock.now - date)

/-- `days_until`. -/
def daysUntil (date : DateTime) : Int := numDays (date - clock.now)

/-- One field of `calculate_date_fields`. -/
def age (days : DateTime → Int) (date : Option Text) : Option Int :=
  (date.bind clock.parseDate).map days

/-- `calculate_date_fields`. -/
def calculateDateFields (creationDate updatedDate expirationDate : Option Text) :
    Option Int × Option Int × Option Int :=
  (clock.age clock.daysSince creationDate, clock.age clock.daysSince updatedDate,
    clock.age clock.daysUntil expirationDate)

end Clock

namespace ParsedWhoisData

/-- `calculate_age_fields`. -/
def calculateAgeFields (clock : Clock) (self : ParsedWhoisData) : ParsedWhoisData :=
  let (createdAgo, updatedAgo, expiresIn) :=
    clock.calculateDateFields self.creationDate self.updatedDate self.expirationDate
  { self with createdAgo, updatedAgo, expiresIn }

/-- `fill_missing_from`: what `self` leaves empty is taken from `fallback`. -/
def fillMissingFrom (self fallback : ParsedWhoisData) : ParsedWhoisData where
  registrar := self.registrar.or fallback.registrar
  creationDate := self.creationDate.or fallback.creationDate
  expirationDate := self.expirationDate.or fallback.expirationDate
  updatedDate := self.updatedDate.or fallback.updatedDate
  registrantName := self.registrantName.or fallback.registrantName
  registrantEmail := self.registrantEmail.or fallback.registrantEmail
  adminEmail := self.adminEmail.or fallback.adminEmail
  techEmail := self.techEmail.or fallback.techEmail
  createdAgo := self.createdAgo.or fallback.createdAgo
  updatedAgo := self.updatedAgo.or fallback.updatedAgo
  expiresIn := self.expiresIn.or fallback.expiresIn
  nameServers := if self.nameServers.isEmpty then fallback.nameServers else self.nameServers
  status := if self.status.isEmpty then fallback.status else self.status

/-- The record has substantive data: a registrar, a creation date or a name server. -/
def hasRecordData (self : ParsedWhoisData) : Bool :=
  self.registrar.isSome || self.creationDate.isSome || !self.nameServers.isEmpty

/-- **The age fields are those of the date strings.** -/
def Coherent (clock : Clock) (self : ParsedWhoisData) : Prop :=
  (self.createdAgo, self.updatedAgo, self.expiresIn) =
    clock.calculateDateFields self.creationDate self.updatedDate self.expirationDate

instance (clock : Clock) (self : ParsedWhoisData) : Decidable (Coherent clock self) := by
  unfold Coherent; infer_instance

theorem coherent_calculateAgeFields (clock : Clock) (self : ParsedWhoisData) :
    Coherent clock (self.calculateAgeFields clock) := rfl

theorem hasRecordData_fillMissingFrom (a b : ParsedWhoisData) :
    (a.fillMissingFrom b).hasRecordData = (a.hasRecordData || b.hasRecordData) := by
  rcases a with ⟨_ | _, _ | _, _, _, _ | _, _⟩ <;>
    simp [fillMissingFrom, hasRecordData]

end ParsedWhoisData

/-! ## The fields of a record -/

/-- The value of a field, by type. -/
inductive FieldValue
  | text (t : Option Text)
  | texts (ts : List Text)
  | days (n : Option Int)
  deriving DecidableEq

/-- `is_none`, or `is_empty` of a list. -/
def FieldValue.isEmpty : FieldValue → Bool
  | text t => t.isNone
  | texts ts => ts.isEmpty
  | days n => n.isNone

/-- The 13 fields of `ParsedWhoisData`. -/
inductive RecordField
  | registrar
  | creationDate
  | expirationDate
  | updatedDate
  | nameServers
  | status
  | registrantName
  | registrantEmail
  | adminEmail
  | techEmail
  | createdAgo
  | updatedAgo
  | expiresIn
  deriving DecidableEq

/-- The value of a field in a record. -/
def RecordField.value (p : ParsedWhoisData) : RecordField → FieldValue
  | registrar => .text p.registrar
  | creationDate => .text p.creationDate
  | expirationDate => .text p.expirationDate
  | updatedDate => .text p.updatedDate
  | nameServers => .texts p.nameServers
  | status => .texts p.status
  | registrantName => .text p.registrantName
  | registrantEmail => .text p.registrantEmail
  | adminEmail => .text p.adminEmail
  | techEmail => .text p.techEmail
  | createdAgo => .days p.createdAgo
  | updatedAgo => .days p.updatedAgo
  | expiresIn => .days p.expiresIn

/-- **The merge goes field by field and forgets none.** -/
theorem RecordField.value_fillMissingFrom (f : RecordField) (a b : ParsedWhoisData) :
    f.value (a.fillMissingFrom b) = if (f.value a).isEmpty then f.value b else f.value a := by
  have hopt : ∀ {α β : Type} (g : Option α → β) (x y : Option α),
      g (x.or y) = if x.isNone then g y else g x := by
    intro α β g x y
    cases x <;> simp
  cases f with
  | nameServers | status => exact apply_ite FieldValue.texts _ _ _
  | _ => exact hopt _ _ _

theorem RecordField.isEmpty_fillMissingFrom (f : RecordField) (a b : ParsedWhoisData) :
    (f.value (a.fillMissingFrom b)).isEmpty = ((f.value a).isEmpty && (f.value b).isEmpty) := by
  rw [value_fillMissingFrom]
  cases h : (f.value a).isEmpty <;> simp [h]

/-! ## Torn dates -/

/-- The three dates with an age field. -/
inductive DateField
  | creation
  | updated
  | expiration
  deriving DecidableEq

namespace DateField

def date (p : ParsedWhoisData) : DateField → Option Text
  | creation => p.creationDate
  | updated => p.updatedDate
  | expiration => p.expirationDate

/-- The age field beside the date. -/
def ago (p : ParsedWhoisData) : DateField → Option Int
  | creation => p.createdAgo
  | updated => p.updatedAgo
  | expiration => p.expiresIn

/-- The days the age field counts. -/
def days (clock : Clock) : DateField → DateTime → Int
  | creation | updated => clock.daysSince
  | expiration => clock.daysUntil

theorem date_fillMissingFrom (f : DateField) (a b : ParsedWhoisData) :
    f.date (a.fillMissingFrom b) = (f.date a).or (f.date b) := by
  cases f <;> rfl

theorem ago_fillMissingFrom (f : DateField) (a b : ParsedWhoisData) :
    f.ago (a.fillMissingFrom b) = (f.ago a).or (f.ago b) := by
  cases f <;> rfl

end DateField

namespace ParsedWhoisData

variable {clock : Clock} {a b : ParsedWhoisData}

theorem coherent_iff :
    Coherent clock a ↔ ∀ f : DateField, f.ago a = clock.age (f.days clock) (f.date a) := by
  simp only [Coherent, Clock.calculateDateFields, Prod.mk.injEq]
  constructor
  · rintro ⟨h1, h2, h3⟩ f
    cases f with
    | creation => exact h1
    | updated => exact h2
    | expiration => exact h3
  · exact fun h => ⟨h .creation, h .updated, h .expiration⟩

/-- A date of `a` that does not parse stands beside one of `b` that does. -/
def Torn (clock : Clock) (a b : ParsedWhoisData) : Prop :=
  ∃ f : DateField, (f.date a).isSome ∧ (f.date a).bind clock.parseDate = none ∧
    ((f.date b).bind clock.parseDate).isSome

/-- **A merge of coherent records is coherent unless it tears a date from its age.** -/
theorem coherent_fillMissingFrom_iff (ha : Coherent clock a) (hb : Coherent clock b) :
    Coherent clock (a.fillMissingFrom b) ↔ ¬ Torn clock a b := by
  rw [coherent_iff] at ha hb ⊢
  rw [Torn, not_exists]
  refine forall_congr' fun f => ?_
  rw [DateField.ago_fillMissingFrom, DateField.date_fillMissingFrom, ha f, hb f]
  simp only [Clock.age]
  rcases f.date a with _ | d
  · simp
  · rcases hd : clock.parseDate d with _ | t <;> simp [hd]

end ParsedWhoisData

end RustWhois
