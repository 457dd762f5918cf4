import Mathlib.Algebra.Order.Ring.Int
import RustWhois.Std.IpDisplay
import RustWhois.Std.Members
import RustWhois.Rdap.Response

/-!
# Responses as JSON

The `Serialize` and `Deserialize` that `lib.rs` derives for a response: as the HTTP service sends it and
as the shared backend stores it.

* `Json.members`, `Json.u64`, `Json.i64`, `Json.option`, `Json.vec`: what a derived reader takes;
* `WhoisResponse.serialize`, `WhoisResponse.deserialize`;
* `Fits`: the numbers of a response fit their types;
* **`deserialize_of_gives`**: a document that gives the members of a response is read as it.
-/

namespace RustWhois

open Rust

/-! ## Values -/

namespace Json

/-- The members that the derived reader of a struct takes: of an object, or of an array in the order of
the fields. -/
def members (names : List Text) : Json → Option (List (Text × Json))
  | object fields => if Distinct names (fields.map Prod.fst) then some fields else none
  | array items => if items.length = names.length then some (names.zip items) else none
  | _ => none

/-- A `bool`. -/
def asBool : Json → Option Bool
  | bool b => some b
  | _ => none

/-- The digits of a number of JSON. -/
def digits (raw : Text) : Option Nat :=
  if raw ≠ [] ∧ (raw.all fun c => (toDigit 10 c).isSome) ∧ (raw.head? = some '0' → raw.length = 1) then
    some (digitsValue 10 raw)
  else none

/-- A `u64`. -/
def u64 : Json → Option Nat
  | number raw => (digits raw).filter (· < 2 ^ 64)
  | _ => none

/-- An `i64`. A negative zero is a float. -/
def i64 : Json → Option Int
  | number ('-' :: raw) => ((digits raw).filter fun n => 0 < n ∧ n ≤ 2 ^ 63).map fun n => -(n : Int)
  | number raw => ((digits raw).filter (· < 2 ^ 63)).map fun n => (n : Int)
  | _ => none

/-- An `Option`. -/
def option {α : Type} (read : Json → Option α) : Json → Option (Option α)
  | null => some none
  | v => (read v).map some

/-- A `Vec`. -/
def vec {α : Type} (read : Json → Option α) : Json → Option (List α)
  | array items => items.mapM read
  | _ => none

/-- A number as it is written. -/
def ofNat (n : Nat) : Json := number (natText n)

def ofInt : Int → Json
  | .ofNat n => number (natText n)
  | .negSucc n => number ('-' :: natText (n + 1))

def ofOption {α : Type} (write : α → Json) : Option α → Json
  | none => null
  | some a => write a

def ofTexts (ts : List Text) : Json := array (ts.map string)

/-! ### Values that are read as they are written -/

theorem digits_natText (n : Nat) : digits (natText n) = some n := by
  have hhead : (natText n).head? = some '0' → (natText n).length = 1 := by
    intro h
    rcases Nat.eq_zero_or_pos n with rfl | hn
    · rfl
    · exact absurd h (head_toDigits_ne readsDigits_ten hn)
  have hall : (natText n).all (fun c => (toDigit 10 c).isSome) :=
    List.all_eq_true.mpr (isSome_of_mem_toDigits readsDigits_ten n)
  rw [digits, if_pos ⟨Nat.toDigits_ne_nil, hall, hhead⟩]
  exact congrArg some (digitsValue_toDigits readsDigits_ten n)

theorem u64_ofNat {n : Nat} (h : n < 2 ^ 64) : u64 (ofNat n) = some n := by
  simp only [u64, ofNat, digits_natText, Option.filter_some, h, decide_true, if_true]

theorem natText_ne_minus (n : Nat) (raw : Text) : natText n ≠ '-' :: raw := by
  intro h
  have hdigit := isSome_of_mem_toDigits readsDigits_ten n '-' (by
    show '-' ∈ natText n
    rw [h]
    exact List.mem_cons_self)
  revert hdigit
  decide

theorem i64_ofInt {n : Int} (hlo : -2 ^ 63 ≤ n) (hhi : n < 2 ^ 63) : i64 (ofInt n) = some n := by
  cases n with
  | ofNat n =>
    have hn : n < 2 ^ 63 := by
      have hcast : (n : Int) < 2 ^ 63 := hhi
      omega
    simp only [ofInt]
    rw [i64, digits_natText, Option.filter_some, if_pos (by simpa using hn)]
    · rfl
    · exact natText_ne_minus n
  | negSucc n =>
    have hn : 0 < n + 1 ∧ n + 1 ≤ 2 ^ 63 := by omega
    rw [ofInt, i64, digits_natText, Option.filter_some, if_pos (decide_eq_true hn)]
    rfl

theorem option_ofOption {α : Type} {read : Json → Option α} {write : α → Json} {a : Option α}
    (hnull : ∀ x, write x ≠ null) (h : ∀ x ∈ a, read (write x) = some x) :
    option read (ofOption write a) = some a := by
  cases a with
  | none => rfl
  | some x =>
    rw [ofOption, option, h x rfl, Option.map_some]
    exact hnull x

theorem vec_ofTexts (ts : List Text) : vec asStr (ofTexts ts) = some ts := by
  rw [ofTexts, vec]
  induction ts with
  | nil => rfl
  | cons t ts ih => rw [List.map_cons, List.mapM_cons, ih]; rfl

end Json

/-! ## Records -/

namespace LookupStatus

/-- `rename_all = "snake_case"`. -/
def serialize : LookupStatus → Json
  | .found => .string "found"
  | .notFound => .string "not_found"
  | .rateLimited => .string "rate_limited"

def ofName (name : Text) : Option LookupStatus :=
  if name = "found" then some .found
  else if name = "not_found" then some .notFound
  else if name = "rate_limited" then some .rateLimited
  else none

/-- A variant without data: its name, or an object of it. -/
def deserialize : Json → Option LookupStatus
  | .string name => ofName name
  | .object [(name, .null)] => ofName name
  | _ => none

theorem deserialize_serialize (status : LookupStatus) :
    deserialize status.serialize = some status := by
  cases status <;> decide

end LookupStatus

namespace ParsedWhoisData

/-- The names of the fields, in the order of the struct. -/
def fieldNames : List Text :=
  ["registrar", "creation_date", "expiration_date", "updated_date", "name_servers", "status",
    "registrant_name", "registrant_email", "admin_email", "tech_email", "created_ago",
    "updated_ago", "expires_in"]

def members (self : ParsedWhoisData) : List (Text × Json) :=
  [("registrar", .ofOption .string self.registrar),
    ("creation_date", .ofOption .string self.creationDate),
    ("expiration_date", .ofOption .string self.expirationDate),
    ("updated_date", .ofOption .string self.updatedDate),
    ("name_servers", .ofTexts self.nameServers),
    ("status", .ofTexts self.status),
    ("registrant_name", .ofOption .string self.registrantName),
    ("registrant_email", .ofOption .string self.registrantEmail),
    ("admin_email", .ofOption .string self.adminEmail),
    ("tech_email", .ofOption .string self.techEmail),
    ("created_ago", .ofOption .ofInt self.createdAgo),
    ("updated_ago", .ofOption .ofInt self.updatedAgo),
    ("expires_in", .ofOption .ofInt self.expiresIn)]

def serialize (self : ParsedWhoisData) : Json := .object self.members

/-- A missing `Option` is `None`. -/
def deserialize (json : Json) : Option ParsedWhoisData := do
  let fields ← json.members fieldNames
  let text (name : Text) := member (Json.option Json.asStr) (some none) fields name
  let texts (name : Text) := member (Json.vec Json.asStr) none fields name
  let days (name : Text) := member (Json.option Json.i64) (some none) fields name
  let registrar ← text "registrar"
  let creationDate ← text "creation_date"
  let expirationDate ← text "expiration_date"
  let updatedDate ← text "updated_date"
  let nameServers ← texts "name_servers"
  let status ← texts "status"
  let registrantName ← text "registrant_name"
  let registrantEmail ← text "registrant_email"
  let adminEmail ← text "admin_email"
  let techEmail ← text "tech_email"
  let createdAgo ← days "created_ago"
  let updatedAgo ← days "updated_ago"
  let expiresIn ← days "expires_in"
  pure {
    registrar, creationDate, expirationDate, updatedDate, nameServers, status, registrantName,
    registrantEmail, adminEmail, techEmail, createdAgo, updatedAgo, expiresIn }

/-- The ages are `i64`. -/
def Fits (self : ParsedWhoisData) : Prop :=
  ∀ f : DateField, ∀ n ∈ f.ago self, -2 ^ 63 ≤ n ∧ n < 2 ^ 63

theorem distinct_members (self : ParsedWhoisData) :
    Distinct fieldNames (self.members.map Prod.fst) := by
  show Distinct fieldNames fieldNames
  decide

/-- What may be left out of the document of a record: an empty `Option`. -/
def Omittable (m : Text × Json) : Prop :=
  m.1 ≠ "name_servers" ∧ m.1 ≠ "status" ∧ m.2 = .null

theorem ofOption_eq_null {α : Type} {write : α → Json} (hnull : ∀ x, write x ≠ .null)
    {a : Option α} (h : Json.ofOption write a = .null) : a = none := by
  cases a with
  | none => rfl
  | some x => exact absurd h (hnull x)

theorem ofInt_ne_null (n : Int) : Json.ofInt n ≠ .null := by
  cases n <;> rintro ⟨⟩

/-- **A document that gives the members of a record is read as it.** -/
theorem deserialize_of_gives {self : ParsedWhoisData} (hfits : self.Fits)
    {fields : List (Text × Json)} (h : Gives fieldNames self.members Omittable fields) :
    deserialize (.object fields) = some self := by
  have hmembers : Json.members fieldNames (.object fields) = some fields := if_pos h.distinct
  have htext : ∀ (i : Nat) {name : Text} {a : Option Text}, fieldNames[i]? = some name →
      self.members[i]? = some (name, Json.ofOption .string a) →
      member (Json.option Json.asStr) (some none) fields name = some a := by
    intro i name a hname hmem
    have hnull : ∀ t, Json.string t ≠ .null := by rintro t ⟨⟩
    refine h.member_eq self.distinct_members (List.mem_of_getElem? hname) (List.mem_of_getElem? hmem)
      (Json.option_ofOption hnull fun _ _ => rfl) fun homit => ?_
    rw [ofOption_eq_null hnull homit.2.2]
  have hdays : ∀ (f : DateField) (i : Nat) {name : Text}, fieldNames[i]? = some name →
      self.members[i]? = some (name, Json.ofOption .ofInt (f.ago self)) →
      member (Json.option Json.i64) (some none) fields name = some (f.ago self) := by
    intro f i name hname hmem
    refine h.member_eq self.distinct_members (List.mem_of_getElem? hname) (List.mem_of_getElem? hmem)
      (Json.option_ofOption ofInt_ne_null fun n hn =>
        Json.i64_ofInt (hfits f n hn).1 (hfits f n hn).2) fun homit => ?_
    rw [ofOption_eq_null ofInt_ne_null homit.2.2]
  have hservers : member (Json.vec Json.asStr) none fields "name_servers" = some self.nameServers :=
    h.member_eq self.distinct_members (by decide) (List.mem_of_getElem? (i := 4) rfl)
      (Json.vec_ofTexts _) fun homit => absurd rfl homit.1
  have hstatus : member (Json.vec Json.asStr) none fields "status" = some self.status :=
    h.member_eq self.distinct_members (by decide) (List.mem_of_getElem? (i := 5) rfl)
      (Json.vec_ofTexts _) fun homit => absurd rfl homit.2.1
  refine Option.bind_eq_some_iff.mpr ⟨fields, hmembers, ?_⟩
  refine Option.bind_eq_some_iff.mpr ⟨_, htext 0 rfl rfl, ?_⟩
  refine Option.bind_eq_some_iff.mpr ⟨_, htext 1 rfl rfl, ?_⟩
  refine Option.bind_eq_some_iff.mpr ⟨_, htext 2 rfl rfl, ?_⟩
  refine Option.bind_eq_some_iff.mpr ⟨_, htext 3 rfl rfl, ?_⟩
  refine Option.bind_eq_some_iff.mpr ⟨_, hservers, ?_⟩
  refine Option.bind_eq_some_iff.mpr ⟨_, hstatus, ?_⟩
  refine Option.bind_eq_some_iff.mpr ⟨_, htext 6 rfl rfl, ?_⟩
  refine Option.bind_eq_some_iff.mpr ⟨_, htext 7 rfl rfl, ?_⟩
  refine Option.bind_eq_some_iff.mpr ⟨_, htext 8 rfl rfl, ?_⟩
  refine Option.bind_eq_some_iff.mpr ⟨_, htext 9 rfl rfl, ?_⟩
  refine Option.bind_eq_some_iff.mpr ⟨_, hdays .creation 10 rfl rfl, ?_⟩
  refine Option.bind_eq_some_iff.mpr ⟨_, hdays .updated 11 rfl rfl, ?_⟩
  refine Option.bind_eq_some_iff.mpr ⟨_, hdays .expiration 12 rfl rfl, ?_⟩
  rfl

end ParsedWhoisData

/-! ## Responses -/

namespace WhoisResponse

def fieldNames : List Text :=
  ["domain", "whois_server", "raw_data", "parsed_data", "lookup_status", "cached", "query_time_ms",
    "parsing_analysis"]

/-- An analysis that is `None` is skipped. -/
def analysisMember : Option (List Text) → List (Text × Json)
  | none => []
  | some lines => [("parsing_analysis", .ofTexts lines)]

def members (self : WhoisResponse) : List (Text × Json) :=
  ("domain", .string self.domain) ::
  ("whois_server", .string self.whoisServer) ::
  ("raw_data", .string self.rawData) ::
  ("parsed_data", .ofOption ParsedWhoisData.serialize self.parsedData) ::
  ("lookup_status", self.lookupStatus.serialize) ::
  ("cached", .bool self.cached) ::
  ("query_time_ms", .ofNat self.queryTimeMs) ::
  analysisMember self.parsingAnalysis

def serialize (self : WhoisResponse) : Json := .object self.members

/-- A missing status is `Found`, and a missing `Option` is `None`. -/
def deserialize (json : Json) : Option WhoisResponse := do
  let fields ← json.members fieldNames
  let domain ← member Json.asStr none fields "domain"
  let whoisServer ← member Json.asStr none fields "whois_server"
  let rawData ← member Json.asStr none fields "raw_data"
  let parsedData ← member (Json.option ParsedWhoisData.deserialize) (some none) fields "parsed_data"
  let lookupStatus ← member LookupStatus.deserialize (some .found) fields "lookup_status"
  let cached ← member Json.asBool none fields "cached"
  let queryTimeMs ← member Json.u64 none fields "query_time_ms"
  let parsingAnalysis ←
    member (Json.option (Json.vec Json.asStr)) (some none) fields "parsing_analysis"
  pure {
    domain, whoisServer, rawData, parsedData, lookupStatus, cached, queryTimeMs, parsingAnalysis }

/-- The time is a `u64`, and the record fits. -/
def Fits (self : WhoisResponse) : Prop :=
  self.queryTimeMs < 2 ^ 64 ∧ ∀ p ∈ self.parsedData, p.Fits

/-- What may be left out of the document of a response: an empty record, and the status if it is
`Found`. -/
def Omittable (m : Text × Json) : Prop :=
  m = ("parsed_data".toList, .null) ∨ m = ("lookup_status".toList, LookupStatus.serialize .found)

variable {self : WhoisResponse}

theorem distinct_members : Distinct fieldNames (self.members.map Prod.fst) := by
  obtain ⟨_, _, _, _, _, _, _, _ | lines⟩ := self
  · show Distinct fieldNames (fieldNames.take 7)
    decide
  · show Distinct fieldNames fieldNames
    decide

/-- **A document that gives the members of a response is read as it**: in any order, with members that
are not known among them, and without those that may be left out. -/
theorem deserialize_of_gives (hfits : self.Fits) {fields : List (Text × Json)}
    (h : Gives fieldNames self.members Omittable fields) :
    deserialize (.object fields) = some self := by
  have hmembers : Json.members fieldNames (.object fields) = some fields := if_pos h.distinct
  have hrequired : ∀ {α : Type} (read : Json → Option α) {missing : Option α} (i : Nat) {name : Text}
      {v : Json} {a : α}, fieldNames[i]? = some name → name ≠ "parsed_data" ∧ name ≠ "lookup_status" →
      self.members[i]? = some (name, v) → read v = some a →
      member read missing fields name = some a := by
    intro α read missing i name v a hname hkind hmem hread
    refine h.member_eq distinct_members (List.mem_of_getElem? hname) (List.mem_of_getElem? hmem)
      hread ?_
    rintro (homit | homit)
    · exact absurd (congrArg Prod.fst homit) hkind.1
    · exact absurd (congrArg Prod.fst homit) hkind.2
  have hdata : member (Json.option ParsedWhoisData.deserialize) (some none) fields "parsed_data" =
      some self.parsedData := by
    have hnull : ∀ p : ParsedWhoisData, p.serialize ≠ .null := by rintro p ⟨⟩
    refine h.member_eq distinct_members (by decide) (List.mem_of_getElem? (i := 3) rfl)
      (Json.option_ofOption hnull fun p hp =>
        ParsedWhoisData.deserialize_of_gives (hfits.2 p hp) (.refl p.distinct_members _)) ?_
    rintro (homit | homit)
    · rw [ParsedWhoisData.ofOption_eq_null hnull (congrArg Prod.snd homit)]
    · have hname : "parsed_data".toList = "lookup_status" := congrArg Prod.fst homit
      exact absurd hname (by decide)
  have hstatus : member LookupStatus.deserialize (some .found) fields "lookup_status" =
      some self.lookupStatus := by
    refine h.member_eq distinct_members (by decide) (List.mem_of_getElem? (i := 4) rfl)
      self.lookupStatus.deserialize_serialize ?_
    rintro (homit | homit)
    · have hname : "lookup_status".toList = "parsed_data" := congrArg Prod.fst homit
      exact absurd hname (by decide)
    · have hfound : self.lookupStatus.serialize = LookupStatus.serialize .found :=
        congrArg Prod.snd homit
      rw [← self.lookupStatus.deserialize_serialize, hfound, LookupStatus.deserialize_serialize]
  have hanalysis : member (Json.option (Json.vec Json.asStr)) (some none) fields
      "parsing_analysis" = some self.parsingAnalysis := by
    cases hcase : self.parsingAnalysis with
    | none =>
      refine h.member_eq_missing (by decide) ?_ _ _
      have hnames : self.members.map Prod.fst = fieldNames.take 7 := by
        rw [members, hcase]
        rfl
      rw [hnames]
      decide
    | some lines =>
      have hmem : self.members[7]? = some ("parsing_analysis".toList, Json.ofTexts lines) := by
        rw [members, hcase]
        rfl
      have hread : Json.option (Json.vec Json.asStr) (.ofTexts lines) = some (some lines) := by
        rw [← Option.map_some, ← Json.vec_ofTexts lines]
        rfl
      exact hrequired _ 7 rfl (by decide) hmem hread
  refine Option.bind_eq_some_iff.mpr ⟨fields, hmembers, ?_⟩
  refine Option.bind_eq_some_iff.mpr ⟨_, hrequired Json.asStr 0 rfl (by decide) rfl rfl, ?_⟩
  refine Option.bind_eq_some_iff.mpr ⟨_, hrequired Json.asStr 1 rfl (by decide) rfl rfl, ?_⟩
  refine Option.bind_eq_some_iff.mpr ⟨_, hrequired Json.asStr 2 rfl (by decide) rfl rfl, ?_⟩
  refine Option.bind_eq_some_iff.mpr ⟨_, hdata, ?_⟩
  refine Option.bind_eq_some_iff.mpr ⟨_, hstatus, ?_⟩
  refine Option.bind_eq_some_iff.mpr ⟨_, hrequired Json.asBool 5 rfl (by decide) rfl rfl, ?_⟩
  refine Option.bind_eq_some_iff.mpr
    ⟨_, hrequired Json.u64 6 rfl (by decide) rfl (Json.u64_ofNat hfits.1), ?_⟩
  refine Option.bind_eq_some_iff.mpr ⟨_, hanalysis, ?_⟩
  rfl

theorem deserialize_serialize (hfits : self.Fits) : deserialize self.serialize = some self :=
  deserialize_of_gives hfits (.refl distinct_members _)

/-- **Documents of other versions are read.** A document with the members of a response in any order,
with any members that are not known, and without an empty record or the status `Found`, is read as the
response. -/
theorem readBack_of_perm (hfits : self.Fits) {fields kept newer : List (Text × Json)}
    (hkept : kept.Sublist self.members) (homitted : ∀ m ∈ self.members, m ∉ kept → Omittable m)
    (hnewer : ∀ m ∈ newer, m.1 ∉ fieldNames) (hperm : fields.Perm (kept ++ newer)) :
    deserialize (.object fields) = some self := by
  refine deserialize_of_gives hfits ⟨?_, fun m hm hname => ?_, fun m hm => ?_⟩
  · have hnames : (fields.map Prod.fst).Perm (kept.map Prod.fst ++ newer.map Prod.fst) := by
      rw [← List.map_append]
      exact hperm.map Prod.fst
    refine distinct_members.of_perm (hkept.map Prod.fst) (fun k hk => ?_) hnames
    obtain ⟨m, hm, rfl⟩ := List.mem_map.mp hk
    exact hnewer m hm
  · rcases List.mem_append.mp (hperm.mem_iff.mp hm) with hm | hm
    · exact hkept.subset hm
    · exact absurd hname (hnewer m hm)
  · by_cases hmem : m ∈ kept
    · exact .inl (hperm.mem_iff.mpr (List.mem_append_left _ hmem))
    · exact .inr (homitted m hm hmem)

/-- A response of an older service, which had no status, and a newer one, which names its source. -/
theorem readBack_of_perm_older : deserialize (.object
      [("source", .null), ("query_time_ms", .ofNat 5), ("cached", .bool false),
        ("raw_data", .string "x"), ("whois_server", .string "whois.a"), ("domain", .string "a.com")]) =
    some ⟨"a.com", "whois.a", "x", none, .found, false, 5, none⟩ := by
  let r : WhoisResponse := ⟨"a.com", "whois.a", "x", none, .found, false, 5, none⟩
  let kept : List (Text × Json) :=
    [("domain", .string "a.com"), ("whois_server", .string "whois.a"), ("raw_data", .string "x"),
      ("cached", .bool false), ("query_time_ms", .ofNat 5)]
  have hkept : kept.Sublist r.members := .cons_cons _ (.cons_cons _ (.cons_cons _ (.cons _ (.cons _
    (.cons_cons _ (.cons_cons _ .slnil))))))
  let newer : List (Text × Json) := [("source", .null)]
  have hfits : r.Fits := ⟨by decide, by rintro p ⟨⟩⟩
  refine readBack_of_perm hfits hkept ?_ ?_ (List.reverse_perm (kept ++ newer))
  · intro m hm hno
    simp only [r, members, analysisMember, List.mem_cons, List.not_mem_nil, or_false] at hm
    rcases hm with rfl | rfl | rfl | rfl | rfl | rfl | rfl
    · exact absurd (List.mem_of_getElem? (i := 0) rfl) hno
    · exact absurd (List.mem_of_getElem? (i := 1) rfl) hno
    · exact absurd (List.mem_of_getElem? (i := 2) rfl) hno
    · exact .inl rfl
    · exact .inr rfl
    · exact absurd (List.mem_of_getElem? (i := 3) rfl) hno
    · exact absurd (List.mem_of_getElem? (i := 4) rfl) hno
  · intro m hm
    rw [List.mem_singleton.mp hm]
    decide

end WhoisResponse

end RustWhois
