import RustWhois.Data
import RustWhois.Std.Calendar
import RustWhois.Std.IpAddr
import RustWhois.Std.Slices

/-!
# Dates

`parse_date` of `dates.rs`, and what the age fields tell.

* `DateLibs`: the crates `dateparser` and `chrono`, as far as `parse_date` asks them;
* `parseDate`: `dateparser` first, then the formats of WHOIS;
* **`read_dotted_iff`**: which dates `dd.mm.yyyy` are read as they are meant;
* `rfc3339Libs`: crates that read the dates of RFC 3339;
* **`signsTell_iff`**: when the signs of the age fields tell past from future.
-/

namespace RustWhois

open Rust

/-! ## The parser -/

/-- `dateparser::parse` and `NaiveDate::parse_from_str` (a text and a format). -/
structure DateLibs where
  dateparser : Text → Option DateTime
  parseFromStr : Text → Text → Option NaiveDate

/-- `WHOIS_DATE_FORMATS`. -/
def whoisDateFormats : List Text := ["%d-%b-%Y", "%d %b %Y", "%d.%m.%Y", "%Y.%m.%d"]

/-- `parse_date`. -/
def parseDate (libs : DateLibs) (dateStr : Text) : Option DateTime :=
  let dateStr := dateStr.trim
  match libs.dateparser dateStr with
  | some dt => some dt
  | none => whoisDateFormats.findSome? fun format =>
      (libs.parseFromStr dateStr format).map NaiveDate.midnight

/-- The clock of a service that reads dates with these crates. -/
def Clock.using (libs : DateLibs) (now : DateTime) : Clock := ⟨now, RustWhois.parseDate libs⟩

/-! ## Dotted dates -/

/-- Two digits, two digits and four digits, between dots. -/
def dotted (first second : Nat) (year : Int) : Text :=
  let digit n := Nat.digitChar n
  let y := year.toNat
  [digit (first / 10), digit (first % 10), '.', digit (second / 10), digit (second % 10), '.',
    digit (y / 1000), digit (y / 100 % 10), digit (y / 10 % 10), digit (y % 10)]

example : dotted 3 4 2024 = "03.04.2024" := by decide

/-- A year that four digits can name. -/
def FourDigit (year : Int) : Prop := 0 ≤ year ∧ year ≤ 9999

instance (year : Int) : Decidable (FourDigit year) := by unfold FourDigit; infer_instance

/-- What the crates document about dotted texts. `shift` is the time of day that `dateparser` gives
to a date: the present one in the local time zone, seen from UTC. -/
structure DateLibs.Documented (libs : DateLibs) (shift : NaiveDate → Int) : Prop where
  /-- `dateparser` reads month, day and year. -/
  monthFirst : ∀ date : NaiveDate, FourDigit date.year →
    libs.dateparser (dotted date.month date.day date.year) = some (date.midnight + shift date)
  shift_mem : ∀ date, -dayNanos < shift date ∧ shift date < 2 * dayNanos
  /-- It fails if the first number is no month. -/
  noMonth : ∀ first second year, 12 < first → first < 100 → second < 100 → FourDigit year →
    libs.dateparser (dotted first second year) = none
  /-- `chrono` follows the format. -/
  dayFirst : ∀ date : NaiveDate, FourDigit date.year →
    libs.parseFromStr (dotted date.day date.month date.year) "%d.%m.%Y" = some date
  /-- No dotted text names a month. -/
  noName : ∀ (date : NaiveDate) (format : Text), FourDigit date.year →
    format = "%d-%b-%Y" ∨ format = "%d %b %Y" →
    libs.parseFromStr (dotted date.day date.month date.year) format = none

theorem isWhitespace_digitChar : ∀ n < 10, isWhitespace (Nat.digitChar n) = false := by decide

theorem trim_dotted {first : Nat} (h : first < 100) (second : Nat) (year : Int) :
    (dotted first second year).trim = dotted first second year := by
  have hhead := isWhitespace_digitChar (first / 10) (by omega)
  have hlast := isWhitespace_digitChar (year.toNat % 10) (by omega)
  rw [Text.trim_eq_self_iff]
  simp [dotted, hhead, hlast]

theorem parseDate_padded (libs : DateLibs) {s before after : Text}
    (hb : ∀ c ∈ before, isWhitespace c = true) (ha : ∀ c ∈ after, isWhitespace c = true) :
    parseDate libs (before ++ s ++ after) = parseDate libs s := by
  unfold parseDate
  rw [Text.trim_append ha, Text.append_trim hb]

namespace DateLibs.Documented

variable {libs : DateLibs} {shift : NaiveDate → Int} (h : libs.Documented shift)
  (date : NaiveDate) (hyear : FourDigit date.year)

include h hyear

/-- A day that is no month reaches the format with the day first. -/
theorem parseDate_of_lt (hday : 12 < date.day) :
    parseDate libs (dotted date.day date.month date.year) = some date.midnight := by
  have hnone := h.noMonth date.day date.month date.year hday date.day_lt date.month_lt hyear
  unfold parseDate
  dsimp only
  rw [trim_dotted date.day_lt, hnone]
  simp only [whoisDateFormats, List.findSome?_cons, h.noName date _ hyear (.inl rfl),
    h.noName date _ hyear (.inr rfl), h.dayFirst date hyear, Option.map_none, Option.map_some]

/-- A day that is a month is taken for it. -/
theorem parseDate_of_le (hday : date.day ≤ 12) : ∃ date' : NaiveDate,
    date'.year = date.year ∧ date'.month = date.day ∧ date'.day = date.month ∧
      parseDate libs (dotted date.day date.month date.year) =
        some (date'.midnight + shift date') := by
  have hexists : 1 ≤ date.month ∧ date.month ≤ daysInMonth date.year date.day :=
    ⟨date.month_mem.1, (date.month_mem.2.trans (by decide)).trans (le_daysInMonth _ _)⟩
  let date' : NaiveDate := ⟨date.year, date.day, date.month, ⟨date.day_mem.1, hday⟩, hexists⟩
  have hsome : libs.dateparser (dotted date.day date.month date.year) = _ :=
    h.monthFirst date' hyear
  refine ⟨date', rfl, rfl, rfl, ?_⟩
  unfold parseDate
  dsimp only
  rw [trim_dotted date.day_lt, hsome]

end DateLibs.Documented

/-- **A dotted date is read as it is meant exactly if its day is no month**, or if day and month
agree and it is the same day in UTC at that time of day. -/
theorem read_dotted_iff {libs : DateLibs} {shift : NaiveDate → Int} (h : libs.Documented shift)
    (date : NaiveDate) (hyear : FourDigit date.year) (before after : Text)
    (hb : ∀ c ∈ before, isWhitespace c = true) (ha : ∀ c ∈ after, isWhitespace c = true) :
    (∃ t, parseDate libs (before ++ dotted date.day date.month date.year ++ after) = some t ∧
      date.On t) ↔
    12 < date.day ∨ date.day = date.month ∧ 0 ≤ shift date ∧ shift date < dayNanos := by
  rw [parseDate_padded libs hb ha]
  by_cases hday : 12 < date.day
  · refine iff_of_true ⟨_, h.parseDate_of_lt date hyear hday, ?_⟩ (.inl hday)
    exact ⟨le_rfl, Int.lt_add_of_pos_right _ (by decide)⟩
  · obtain ⟨date', hy, hm, hd, hparse⟩ := h.parseDate_of_le date hyear (Nat.le_of_not_lt hday)
    rw [hparse, or_iff_right hday]
    simp only [Option.some.injEq, exists_eq_left']
    by_cases hsame : date.day = date.month
    · have hdate : date' = date := NaiveDate.ext hy (hm.trans hsame) (hd.trans hsame.symm)
      rw [hdate, NaiveDate.on_midnight_add_iff, and_iff_right hsame]
    · -- the other date is weeks away
      refine iff_of_false (fun hon => ?_) fun hd => hsame hd.1
      have hshift := h.shift_mem date'
      have hnumber := NaiveDate.on_iff.mp hon
      unfold NaiveDate.midnight at hnumber
      rcases Nat.lt_or_gt_of_ne hsame with hlt | hlt
      · have hfar := NaiveDate.dayNumber_exchanged hy hm hd (by omega)
        unfold dayNanos at hshift hnumber
        omega
      · have hfar := NaiveDate.dayNumber_exchanged hy.symm hd.symm hm.symm hlt
        unfold dayNanos at hshift hnumber
        omega

/-- Reads what `dotted` writes. -/
def readDotted : Text → Option (Nat × Nat × Nat)
  | [a, b, '.', c, d, '.', e, f, g, h] =>
    match [a, b, c, d, e, f, g, h].map (toDigit 10) with
    | [some a, some b, some c, some d, some e, some f, some g, some h] =>
      some (10 * a + b, 10 * c + d, 1000 * e + 100 * f + 10 * g + h)
    | _ => none
  | _ => none

/-- Crates that read dotted dates and no others, at noon in UTC. -/
def dottedLibs : DateLibs where
  dateparser s := (readDotted s).bind fun (month, day, year) =>
    (NaiveDate.fromYmdOpt year month day).map fun date => date.midnight + dayNanos / 2
  parseFromStr s format := if format = "%d.%m.%Y" then
    (readDotted s).bind fun (day, month, year) => NaiveDate.fromYmdOpt year month day else none

theorem readDotted_dotted {first second : Nat} {year : Int} (hf : first < 100) (hs : second < 100)
    (hy : FourDigit year) : readDotted (dotted first second year) =
      some (first, second, year.toNat) := by
  have hdigit : ∀ n < 10, toDigit 10 (Nat.digitChar n) = some n := by decide
  obtain ⟨hpos, hmax⟩ := hy
  simp only [readDotted, dotted, List.map_cons, List.map_nil]
  rw [hdigit (first / 10) (by omega), hdigit (first % 10) (by omega),
    hdigit (second / 10) (by omega), hdigit (second % 10) (by omega),
    hdigit (year.toNat / 1000) (by omega), hdigit (year.toNat / 100 % 10) (by omega),
    hdigit (year.toNat / 10 % 10) (by omega), hdigit (year.toNat % 10) (by omega)]
  simp only [Option.some.injEq, Prod.mk.injEq]
  omega

theorem documented_dottedLibs : dottedLibs.Documented fun _ => dayNanos / 2 := by
  have hread : ∀ (date : NaiveDate), FourDigit date.year →
      NaiveDate.fromYmdOpt date.year.toNat date.month date.day = some date := fun date hy => by
    rw [Int.toNat_of_nonneg hy.1]
    exact date.fromYmdOpt_eq
  constructor
  case monthFirst =>
    intro date hy
    simp only [dottedLibs, readDotted_dotted date.month_lt date.day_lt hy, Option.bind_some,
      hread date hy, Option.map_some]
  case shift_mem => exact fun _ => by decide
  case noMonth =>
    intro first second year hfirst hf hs hy
    simp only [dottedLibs, readDotted_dotted hf hs hy, Option.bind_some, NaiveDate.fromYmdOpt]
    rw [dif_neg (by omega), Option.map_none]
  case dayFirst =>
    intro date hy
    simp only [dottedLibs, readDotted_dotted date.day_lt date.month_lt hy, Option.bind_some,
      hread date hy, if_true]
  case noName =>
    rintro date format - (rfl | rfl) <;> rfl

/-- Two dates of 2025. -/
def may18 : NaiveDate := ⟨2025, 5, 18, by decide, by decide⟩

def april3 : NaiveDate := ⟨2025, 4, 3, by decide, by decide⟩

/-- The third of April is taken for the fourth of March. -/
theorem read_april3 :
    parseDate dottedLibs "03.04.2025" = some 1741089600000000000 ∧
      ¬ april3.On 1741089600000000000 ∧
      NaiveDate.On ⟨2025, 3, 4, by decide, by decide⟩ 1741089600000000000 := by
  decide +kernel

/-- The eighteenth of May is not. -/
theorem read_may18 : ∃ t, parseDate dottedLibs " 18.05.2025\n" = some t ∧ may18.On t :=
  (read_dotted_iff documented_dottedLibs may18 (by decide) " " "\n" (List.all_eq_true.mp rfl)
    (List.all_eq_true.mp rfl)).mpr (.inl (by decide))

/-! ## Dates of RFC 3339 -/

/-- A number of decimal digits. -/
def readDigits (digits : Text) : Option Nat :=
  digits.foldlM (fun n c => (toDigit 10 c).map (10 * n + ·)) 0

/-- Reads a date and a time of day in UTC. A leap second is not read. -/
def readRfc3339 : Text → Option DateTime
  | [y₁, y₂, y₃, y₄, '-', m₁, m₂, '-', d₁, d₂, 'T', h₁, h₂, ':', n₁, n₂, ':', s₁, s₂, 'Z'] => do
    let date ← NaiveDate.fromYmdOpt (← readDigits [y₁, y₂, y₃, y₄]) (← readDigits [m₁, m₂])
      (← readDigits [d₁, d₂])
    let hour ← readDigits [h₁, h₂]
    let minute ← readDigits [n₁, n₂]
    let second ← readDigits [s₁, s₂]
    if hour < 24 ∧ minute < 60 ∧ second < 60 then
      some (date.midnight + ((hour * 60 + minute) * 60 + second : Nat) * 1000000000)
    else none
  | _ => none

/-- Crates that read such dates and no others. -/
def rfc3339Libs : DateLibs where
  dateparser := readRfc3339
  parseFromStr _ _ := none

example : parseDate rfc3339Libs " 1990-01-01T00:00:00Z" = some (7305 * dayNanos) := by decide +kernel

/-! ## Past and future -/

theorem numDays_neg (delta : Int) : numDays (-delta) = -numDays delta := Int.neg_tdiv _ _

theorem numDays_mono {delta delta' : Int} (h : delta ≤ delta') : numDays delta ≤ numDays delta' :=
  Int.tdiv_le_tdiv (by decide) h

theorem numDays_neg_iff (delta : Int) : numDays delta < 0 ↔ delta ≤ -dayNanos := by
  rcases Int.lt_or_le delta 0 with hneg | hpos
  · have hdiv : numDays (-delta) = -delta / dayNanos :=
      Int.tdiv_eq_ediv_of_nonneg (by omega)
    rw [numDays_neg] at hdiv
    unfold dayNanos at hdiv ⊢
    omega
  · have hdiv : numDays delta = delta / dayNanos := Int.tdiv_eq_ediv_of_nonneg hpos
    unfold dayNanos at hdiv ⊢
    omega

theorem numDays_sub_neg_iff (a b : Int) :
    (numDays (a - b) < 0 ↔ a < b) ↔ ¬ (a < b ∧ b < a + dayNanos) := by
  rw [numDays_neg_iff]
  unfold dayNanos
  omega

/-- The signs of the age fields tell past from future. -/
structure SignsTell (clock : Clock) (creationDate updatedDate expirationDate : Option Text) :
    Prop where
  /-- A field is present exactly for a date that parses. -/
  parsed :
    let fields := clock.calculateDateFields creationDate updatedDate expirationDate
    fields.1.isSome = (creationDate.bind clock.parseDate).isSome ∧
    fields.2.1.isSome = (updatedDate.bind clock.parseDate).isSome ∧
    fields.2.2.isSome = (expirationDate.bind clock.parseDate).isSome
  created : ∀ t ∈ creationDate.bind clock.parseDate,
    ∀ days ∈ (clock.calculateDateFields creationDate updatedDate expirationDate).1,
      days < 0 ↔ clock.now < t
  updated : ∀ t ∈ updatedDate.bind clock.parseDate,
    ∀ days ∈ (clock.calculateDateFields creationDate updatedDate expirationDate).2.1,
      days < 0 ↔ clock.now < t
  expires : ∀ t ∈ expirationDate.bind clock.parseDate,
    ∀ days ∈ (clock.calculateDateFields creationDate updatedDate expirationDate).2.2,
      days < 0 ↔ t < clock.now
  /-- A later expiration is not sooner. -/
  later : ∀ laterDate, ∀ t ∈ expirationDate.bind clock.parseDate,
    ∀ t' ∈ laterDate.bind clock.parseDate, t ≤ t' →
    ∀ days ∈ (clock.calculateDateFields creationDate updatedDate expirationDate).2.2,
    ∀ days' ∈ (clock.calculateDateFields creationDate updatedDate laterDate).2.2, days ≤ days'
  opposite : ∀ t, clock.daysUntil t = -clock.daysSince t

namespace Clock

variable (clock : Clock)

theorem daysSince_neg_iff (t : DateTime) :
    (clock.daysSince t < 0 ↔ clock.now < t) ↔ ¬ (clock.now < t ∧ t < clock.now + dayNanos) :=
  numDays_sub_neg_iff clock.now t

theorem daysUntil_neg_iff (t : DateTime) :
    (clock.daysUntil t < 0 ↔ t < clock.now) ↔ ¬ (clock.now - dayNanos < t ∧ t < clock.now) := by
  have h := numDays_sub_neg_iff t clock.now
  rwa [and_comm, ← Int.sub_lt_iff] at h

theorem daysUntil_eq_neg (t : DateTime) : clock.daysUntil t = -clock.daysSince t := by
  rw [daysUntil, daysSince, ← numDays_neg, Int.neg_sub]

theorem mem_age_iff {days : DateTime → Int} {date : Option Text} {d : Int} :
    d ∈ clock.age days date ↔ ∃ t ∈ date.bind clock.parseDate, days t = d := by
  rw [age, Option.mem_def, Option.map_eq_some_iff]
  rfl

theorem forall_age_iff (days : DateTime → Int) (date : Option Text) (p : DateTime → Int → Prop) :
    (∀ t ∈ date.bind clock.parseDate, ∀ d ∈ clock.age days date, p t d) ↔
      ∀ t ∈ date.bind clock.parseDate, p t (days t) := by
  refine forall₂_congr fun t ht => ⟨fun h => h _ (clock.mem_age_iff.mpr ⟨t, ht, rfl⟩), ?_⟩
  rintro h d hd
  obtain ⟨t', ht', rfl⟩ := clock.mem_age_iff.mp hd
  rwa [← Option.mem_unique ht ht']

end Clock

/-- **The signs tell past from future exactly if no date is less than a day on the side that is
negative.** -/
theorem signsTell_iff (clock : Clock) (creationDate updatedDate expirationDate : Option Text) :
    SignsTell clock creationDate updatedDate expirationDate ↔
      (∀ t ∈ creationDate.bind clock.parseDate, ¬ (clock.now < t ∧ t < clock.now + dayNanos)) ∧
      (∀ t ∈ updatedDate.bind clock.parseDate, ¬ (clock.now < t ∧ t < clock.now + dayNanos)) ∧
      ∀ t ∈ expirationDate.bind clock.parseDate,
        ¬ (clock.now - dayNanos < t ∧ t < clock.now) := by
  have hcreated := clock.forall_age_iff clock.daysSince creationDate fun t d =>
    d < 0 ↔ clock.now < t
  have hupdated := clock.forall_age_iff clock.daysSince updatedDate fun t d => d < 0 ↔ clock.now < t
  have hexpires := clock.forall_age_iff clock.daysUntil expirationDate fun t d =>
    d < 0 ↔ t < clock.now
  simp only [clock.daysSince_neg_iff] at hcreated hupdated
  simp only [clock.daysUntil_neg_iff] at hexpires
  constructor
  · intro h
    exact ⟨hcreated.mp h.created, hupdated.mp h.updated, hexpires.mp h.expires⟩
  · rintro ⟨hc, hu, he⟩
    refine ⟨?_, hcreated.mpr hc, hupdated.mpr hu, hexpires.mpr he, ?_, clock.daysUntil_eq_neg⟩
    · exact ⟨Option.isSome_map, Option.isSome_map, Option.isSome_map⟩
    · intro laterDate t ht t' ht' hle d hd d' hd'
      obtain ⟨_, ht₁, rfl⟩ := clock.mem_age_iff.mp hd
      obtain ⟨_, ht₂, rfl⟩ := clock.mem_age_iff.mp hd'
      rw [← Option.mem_unique ht ht₁, ← Option.mem_unique ht' ht₂]
      exact numDays_mono (Int.sub_le_sub_right hle _)

/-- An hour after midnight. -/
def expired : Clock := .using dottedLibs (may18.midnight + 3600 * 1000000000)

/-- A date that expired an hour ago is not told from one that expires in an hour. -/
theorem signsTell_expired : ¬ SignsTell expired none none (some "18.05.2025") ∧
    expired.calculateDateFields none none (some "18.05.2025") = (none, none, some 0) ∧
    ∃ t ∈ expired.parseDate "18.05.2025", t < expired.now := by
  have hfields : expired.calculateDateFields none none (some "18.05.2025") =
      (none, none, some 0) := by decide +kernel
  have hparse : expired.parseDate "18.05.2025" = some may18.midnight := by decide +kernel
  have hpast : may18.midnight < expired.now := by decide +kernel
  refine ⟨fun h => ?_, hfields, may18.midnight, hparse, hpast⟩
  have hneg := h.expires may18.midnight hparse 0 (by rw [hfields]; rfl)
  exact absurd (hneg.mpr hpast) (by decide)

end RustWhois
