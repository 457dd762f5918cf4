import RustWhois.Whois.Lookup

/-!
# The status of a lookup

Whether the status of a result describes the record returned with it.

* `Assembled`: the three ways a domain result is made of the first answer and the last one;
* `Described`: the status is the classification of the returned text and record;
* `Overruled`: the last referral server says "not found" about a record the registry has;
* **`described_iff`**: a lookup's status describes its record unless the registry is overruled, and
  an IP lookup's status always does.
-/

namespace RustWhois

open Rust WhoisParser

/-! ## How a domain result is made -/

/-- The classification of an answer by itself. -/
def aloneStatus (clock : Clock) (data : Text) : LookupStatus :=
  classifyResponse data (parseWhoisData clock data)

/-- The ways the result `r` with the record `p` is made of the first answer and the last one. -/
inductive Assembled (clock : Clock) (first last : Text × Text) (r : LookupResult)
    (p : ParsedWhoisData) : Prop
  /-- The last answer as it is: no referral was followed, or both servers throttled. -/
  | plain (why : last.1 = first.1 ∨ aloneStatus clock last.2 = .rateLimited)
    (answer : (r.server, r.rawData) = last) (record : p = parseWhoisData clock last.2)
    (status : r.status = aloneStatus clock last.2)
  /-- The first answer, since the referral server throttled. -/
  | kept (why : aloneStatus clock last.2 = .rateLimited) (answer : (r.server, r.rawData) = first)
    (record : p = parseWhoisData clock first.2) (status : r.status = aloneStatus clock first.2)
  /-- The last answer, the gaps of its record filled from the first. -/
  | backfilled (followed : last.1 ≠ first.1) (why : aloneStatus clock last.2 ≠ .rateLimited)
    (answer : (r.server, r.rawData) = last)
    (record : p = (parseWhoisData clock last.2).fillMissingFrom (parseWhoisData clock first.2))
    (status : r.status = aloneStatus clock last.2)

theorem domainResult_assembled (clock : Clock) (first last : Text × Text) :
    ∃ p, (domainResult clock first.1 first.2 last.1 last.2).parsedData = some p ∧
      Assembled clock first last (domainResult clock first.1 first.2 last.1 last.2) p := by
  have ha : ∀ d, classifyResponse d (parseWhoisDataWithAnalysis clock d).1 = aloneStatus clock d :=
    fun _ => rfl
  simp only [domainResult, ha]
  split_ifs with hs hl hf
  · exact ⟨_, rfl, .kept hl rfl rfl rfl⟩
  · exact ⟨_, rfl, .plain (.inr hl) rfl rfl rfl⟩
  · exact ⟨_, rfl, .backfilled hs hl rfl rfl rfl⟩
  · exact ⟨_, rfl, .plain (.inl (by simpa using hs)) rfl rfl rfl⟩

theorem ipResult_assembled (clock : Clock) (first last : Text × Text) :
    ∃ p, (ipResult clock first.1 first.2 last.1 last.2).parsedData = some p ∧
      p = (if last.1 = first.1 then parseIpWhoisData clock last.2
        else (parseIpWhoisData clock last.2).fillMissingFrom (parseIpWhoisData clock first.2)) ∧
      (ipResult clock first.1 first.2 last.1 last.2).server = last.1 ∧
      (ipResult clock first.1 first.2 last.1 last.2).rawData = last.2 ∧
      (ipResult clock first.1 first.2 last.1 last.2).status = classifyResponse last.2 p := by
  by_cases hs : last.1 = first.1
  · refine ⟨_, ?_, (if_pos hs).symm, rfl, rfl, ?_⟩ <;> simp [ipResult, hs]
  · refine ⟨_, ?_, (if_neg hs).symm, rfl, rfl, ?_⟩ <;>
      simp only [ipResult, ne_eq, hs, not_false_eq_true, ↓reduceIte] <;> rfl

/-! ## Whether the status describes the record -/

/-- The status is the classification of the text and the record, and a record with substantive data
is reported as found. -/
def LookupResult.Described (r : LookupResult) : Prop :=
  match r.parsedData with
  | some p => r.status = classifyResponse r.rawData p ∧ (p.hasRecordData = true → r.status = .found)
  | none => False

instance (r : LookupResult) : Decidable r.Described := by
  unfold LookupResult.Described; split <;> infer_instance

theorem LookupResult.described_of_eq {r : LookupResult} {p : ParsedWhoisData}
    (hp : r.parsedData = some p) : r.Described ↔ r.status = classifyResponse r.rawData p := by
  rw [LookupResult.Described, hp]
  refine and_iff_left_of_imp fun h hd => ?_
  rw [h, classifyResponse_of_hasRecordData hd]

/-- The last referral server's answer reads as "not found", and the registry's has a record. -/
def Overruled (clock : Clock) (first last : Text × Text) : Prop :=
  last.1 ≠ first.1 ∧ aloneStatus clock last.2 = .notFound ∧
    (parseWhoisData clock first.2).hasRecordData = true

instance (clock : Clock) (first last : Text × Text) : Decidable (Overruled clock first last) := by
  unfold Overruled; infer_instance

theorem classify_fill {clock : Clock} {first last : Text} :
    classifyResponse last
        ((parseWhoisData clock last).fillMissingFrom (parseWhoisData clock first)) =
      if (parseWhoisData clock first).hasRecordData then .found else aloneStatus clock last := by
  split_ifs with h
  · exact classifyResponse_of_hasRecordData
      (by rw [ParsedWhoisData.hasRecordData_fillMissingFrom, h, Bool.or_true]) last
  · refine classifyResponse_congr ?_ last
    rw [ParsedWhoisData.hasRecordData_fillMissingFrom, Bool.eq_false_iff.mpr h, Bool.or_false]

theorem Assembled.described_iff_not_overruled {clock : Clock} {first last : Text × Text}
    {r : LookupResult} {p : ParsedWhoisData} (hp : r.parsedData = some p)
    (h : Assembled clock first last r p) :
    r.Described ↔ ¬ Overruled clock first last := by
  rw [LookupResult.described_of_eq hp]
  cases h with
  | plain why answer record status =>
    have hraw : r.rawData = last.2 := congrArg Prod.snd answer
    rw [status, record, hraw]
    refine iff_of_true rfl ?_
    rintro ⟨hne, hnf, -⟩
    rcases why with h | h
    · exact hne h
    · rw [hnf] at h
      cases h
  | kept why answer record status =>
    have hraw : r.rawData = first.2 := congrArg Prod.snd answer
    rw [status, record, hraw]
    refine iff_of_true rfl ?_
    rintro ⟨-, hnf, -⟩
    rw [hnf] at why
    cases why
  | backfilled followed why answer record status =>
    have hraw : r.rawData = last.2 := congrArg Prod.snd answer
    rw [status, record, hraw, classify_fill, Overruled]
    cases hd : (parseWhoisData clock first.2).hasRecordData
    · simp
    · cases ha : aloneStatus clock last.2 with
      | found => simp
      | notFound => simp [followed]
      | rateLimited => exact absurd ha why

/-- **A lookup's status describes its record exactly when the registry is not overruled; an IP
lookup's status always does.** -/
theorem described_iff (env : Env) (w w' : World) (r : LookupResult) :
    (∀ domain : Text, lookup env domain w = (.ok r, w') →
      ∃ t first last, w'.trace = w.trace ++ t ∧ Conversation t first last ∧
        (r.Described ↔ ¬ Overruled env.clock first last)) ∧
    ∀ ipAddr : Text, lookupIp env ipAddr w = (.ok r, w') → r.Described := by
  constructor
  · intro domain h
    obtain ⟨t, first, last, htr, hc, rfl⟩ := lookup_eq_ok h
    obtain ⟨p, hp, ha⟩ := domainResult_assembled env.clock first last
    exact ⟨t, first, last, htr, hc, ha.described_iff_not_overruled hp⟩
  · intro ipAddr h
    obtain ⟨t, first, last, -, -, rfl⟩ := lookupIp_eq_ok h
    obtain ⟨p, hp, -, -, hraw, hs⟩ := ipResult_assembled env.clock first last
    rw [LookupResult.described_of_eq hp, hs, hraw]

/-- A registry with a record refers to a server that has none. -/
def thinReferral : Env :=
  .playing [(4, "Registrar: R\nrefer: whois.b"), (11, "No match")]

theorem lookup_thinReferral :
    (lookup thinReferral "example.com" (.knowing [("com", "whois.a")])).1 =
      .ok (domainResult thinReferral.clock "whois.a" "Registrar: R\nrefer: whois.b" "whois.b"
        "No match") := by decide +kernel

/-- The registrar is returned, and reported as not found. -/
theorem lookup_overruled : ∃ r : LookupResult,
    (lookup thinReferral "example.com" (.knowing [("com", "whois.a")])).1 = .ok r ∧
      r.parsedData.map (·.registrar) = some (some "R".toList) ∧ r.status = .notFound ∧
      ¬ r.Described :=
  ⟨domainResult thinReferral.clock "whois.a" "Registrar: R\nrefer: whois.b" "whois.b" "No match",
    lookup_thinReferral, by decide +kernel, by decide +kernel, by decide +kernel⟩

/-- The run of `lookup_overruled` is covered, and its registry is overruled. -/
theorem described_iff_thinReferral : ∃ (r : LookupResult) (t : List Event)
    (first last : Text × Text), Conversation t first last ∧
      (r.Described ↔ ¬ Overruled thinReferral.clock first last) := by
  obtain ⟨t, first, last, -, hc, h⟩ :=
    (described_iff _ _ _ _).1 _ (Eff.run_of_fst lookup_thinReferral)
  exact ⟨_, t, first, last, hc, h⟩

end RustWhois
