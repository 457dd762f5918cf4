import RustWhois.Whois.Status

/-!
# The record of a lookup

What a lookup keeps of the answers it got, and whether its ages still belong to its dates.

* **`coherent_iff_not_torn`**: a merge, and with it the record of a lookup, is coherent exactly when
  no unreadable date stands in front of a readable one;
* `Loyal`: the result gives an answer of the run, with everything the first server said;
* **`loyal_of_lookup`**: every lookup that was not throttled, and every IP lookup, is loyal.
-/

namespace RustWhois

open Rust WhoisParser

/-! ## Coherence -/

/-- The returned record is coherent. -/
def LookupResult.Coherent (clock : Clock) (r : LookupResult) : Prop :=
  ∃ p, r.parsedData = some p ∧ p.Coherent clock

/-- The record was filled from the first answer, and that tore a date from its age. -/
def TornLookup (clock : Clock) (first last : Text × Text) : Prop :=
  last.1 ≠ first.1 ∧ aloneStatus clock last.2 ≠ .rateLimited ∧
    (parseWhoisData clock last.2).Torn clock (parseWhoisData clock first.2)

/-- The same for an IP lookup, which fills in every case. -/
def TornIpLookup (clock : Clock) (first last : Text × Text) : Prop :=
  last.1 ≠ first.1 ∧ (parseIpWhoisData clock last.2).Torn clock (parseIpWhoisData clock first.2)

section Coherence

variable {clock : Clock} {first last : Text × Text} {r : LookupResult} {p : ParsedWhoisData}

theorem LookupResult.coherent_of_eq (hp : r.parsedData = some p) :
    r.Coherent clock ↔ p.Coherent clock := by
  constructor
  · rintro ⟨q, hq, h⟩
    rw [hp, Option.some.injEq] at hq
    rwa [hq]
  · exact fun h => ⟨p, hp, h⟩

theorem Assembled.coherent_iff (h : Assembled clock first last r p) :
    p.Coherent clock ↔ ¬ TornLookup clock first last := by
  cases h with
  | plain why answer record status =>
    rw [record]
    refine iff_of_true (coherent_parseWhoisData clock _) ?_
    rintro ⟨hne, hrl, -⟩
    exact why.elim hne hrl
  | kept why answer record status =>
    rw [record]
    exact iff_of_true (coherent_parseWhoisData clock _) fun ⟨_, hrl, _⟩ => hrl why
  | backfilled followed why answer record status =>
    rw [record, ParsedWhoisData.coherent_fillMissingFrom_iff (coherent_parseWhoisData clock _)
      (coherent_parseWhoisData clock _), TornLookup, not_iff_not]
    exact ⟨fun h => ⟨followed, why, h⟩, fun h => h.2.2⟩

end Coherence

/-- **Ages belong to the dates beside them exactly when no merge tears them apart**: for the merge
of any two coherent records, and for the record of every lookup. -/
theorem coherent_iff_not_torn (env : Env) (w w' : World) (r : LookupResult) :
    (∀ a b : ParsedWhoisData, a.Coherent env.clock → b.Coherent env.clock →
      ((a.fillMissingFrom b).Coherent env.clock ↔ ¬ a.Torn env.clock b)) ∧
    (∀ domain : Text, lookup env domain w = (.ok r, w') →
      ∃ t first last, w'.trace = w.trace ++ t ∧ Conversation t first last ∧
        (r.Coherent env.clock ↔ ¬ TornLookup env.clock first last)) ∧
    ∀ ipAddr : Text, lookupIp env ipAddr w = (.ok r, w') →
      ∃ t first last, w'.trace = w.trace ++ t ∧ Conversation t first last ∧
        (r.Coherent env.clock ↔ ¬ TornIpLookup env.clock first last) := by
  refine ⟨fun a b ha hb => ParsedWhoisData.coherent_fillMissingFrom_iff ha hb, ?_, ?_⟩
  · intro domain h
    obtain ⟨t, first, last, htr, hc, rfl⟩ := lookup_eq_ok h
    obtain ⟨p, hp, ha⟩ := domainResult_assembled env.clock first last
    exact ⟨t, first, last, htr, hc, (LookupResult.coherent_of_eq hp).trans ha.coherent_iff⟩
  · intro ipAddr h
    obtain ⟨t, first, last, htr, hc, rfl⟩ := lookupIp_eq_ok h
    obtain ⟨p, hp, hrec, -⟩ := ipResult_assembled env.clock first last
    refine ⟨t, first, last, htr, hc, (LookupResult.coherent_of_eq hp).trans ?_⟩
    rw [hrec, TornIpLookup]
    split_ifs with hs
    · exact iff_of_true (coherent_parseIpWhoisData _ _) fun h => h.1 hs
    · rw [ParsedWhoisData.coherent_fillMissingFrom_iff (coherent_parseIpWhoisData _ _)
        (coherent_parseIpWhoisData _ _), and_iff_right hs]

/-- The answer of a registry with a creation date that is read. -/
def readableAnswer : Text := "Creation Date: 1990-01-01T00:00:00Z\nrefer: whois.b"

/-- It refers to a server with one that is not. -/
def unreadableReferral : Env := .playing [(4, readableAnswer), (11, "Created: unknown")]

/-- The result of a lookup on that network. -/
def unreadableResult : LookupResult :=
  domainResult unreadableReferral.clock "whois.a" readableAnswer "whois.b" "Created: unknown"

theorem lookup_unreadableReferral :
    (lookup unreadableReferral "example.com" (.knowing [("com", "whois.a")])).1 =
      .ok unreadableResult := by decide +kernel

/-- The age of the registry's date stands beside the referral's date. -/
theorem lookup_torn :
    (let a := parseWhoisData unreadableReferral.clock "Created: unknown"
      let b := parseWhoisData unreadableReferral.clock readableAnswer
      a.Coherent unreadableReferral.clock ∧ b.Coherent unreadableReferral.clock ∧
        ¬ (a.fillMissingFrom b).Coherent unreadableReferral.clock) ∧
    (lookup unreadableReferral "example.com" (.knowing [("com", "whois.a")])).1 =
      .ok unreadableResult ∧
    ∃ p, unreadableResult.parsedData = some p ∧ p.creationDate = some "unknown".toList ∧
      p.createdAgo = some 10957 ∧ ¬ p.Coherent unreadableReferral.clock :=
  ⟨by decide +kernel, lookup_unreadableReferral,
    (parseWhoisData unreadableReferral.clock "Created: unknown").fillMissingFrom
      (parseWhoisData unreadableReferral.clock readableAnswer),
    by decide +kernel, by decide +kernel, by decide +kernel, by decide +kernel⟩

/-- The run of `lookup_torn` is covered. -/
theorem coherent_iff_not_torn_unreadable : ∃ (t : List Event) (first last : Text × Text),
    Conversation t first last ∧ (unreadableResult.Coherent unreadableReferral.clock ↔
      ¬ TornLookup unreadableReferral.clock first last) := by
  obtain ⟨t, first, last, -, hc, h⟩ :=
    (coherent_iff_not_torn _ _ _ _).2.1 _ (Eff.run_of_fst lookup_unreadableReferral)
  exact ⟨t, first, last, hc, h⟩

/-! ## Loyalty -/

/-- A result with the record `p` keeps what was said in the run. -/
structure Loyal (parse : Text → ParsedWhoisData) (t : List Event) (first : Text × Text)
    (r : LookupResult) (p : ParsedWhoisData) : Prop where
  /-- The text is the answer the returned server gave in this run. -/
  given : (r.server, r.rawData) ∈ answers .raw t ∨ (r.server, r.rawData) ∈ answers .referral t
  /-- No field the first server filled is empty. -/
  kept : ∀ f : RecordField, (f.value (parse first.2)).isEmpty = false → (f.value p).isEmpty = false
  /-- What a referral server said is not overwritten. -/
  own : (r.server, r.rawData) ∈ answers .referral t → ∀ f : RecordField,
    (f.value (parse r.rawData)).isEmpty = false → f.value p = f.value (parse r.rawData)

section Loyal

variable {parse : Text → ParsedWhoisData} {t : List Event} {first last : Text × Text}
  {r : LookupResult} {p : ParsedWhoisData}

theorem Loyal.of_first (hc : Conversation t first last) (ha : (r.server, r.rawData) = first)
    (hp : p = parse first.2) : Loyal parse t first r p := by
  refine ⟨.inl ?_, fun f hf => hp ▸ hf, fun hm => absurd (congrArg Prod.fst ha) (hc.fresh _ hm)⟩
  rw [ha, hc.first_eq]
  exact List.mem_singleton_self _

theorem Loyal.of_backfill (hc : Conversation t first last) (ha : (r.server, r.rawData) = last)
    (hp : p = (parse last.2).fillMissingFrom (parse first.2)) : Loyal parse t first r p := by
  have hraw : r.rawData = last.2 := congrArg Prod.snd ha
  refine ⟨ha ▸ hc.last_mem, fun f hf => ?_, fun _ f hf => ?_⟩
  · rw [hp, RecordField.isEmpty_fillMissingFrom, hf, Bool.and_false]
  · rw [hraw] at hf
    rw [hp, RecordField.value_fillMissingFrom, hraw, hf]
    rfl

theorem Assembled.loyal {clock : Clock} (hc : Conversation t first last)
    (h : Assembled clock first last r p) (hr : r.status ≠ .rateLimited) :
    Loyal (parseWhoisData clock) t first r p := by
  cases h with
  | plain why answer record status =>
    rcases why with hs | hrl
    · have hl := hc.last_eq_of_server hs
      exact .of_first hc (answer.trans hl) (hl ▸ record)
    · exact absurd (status.trans hrl) hr
  | kept why answer record status => exact .of_first hc answer record
  | backfilled followed why answer record status => exact .of_backfill hc answer record

end Loyal

/-- **Following referrals never loses what the first server said.** -/
theorem loyal_of_lookup (env : Env) (w w' : World) (r : LookupResult) :
    (∀ domain : Text, lookup env domain w = (.ok r, w') → r.status ≠ .rateLimited →
      ∃ t first last p, w'.trace = w.trace ++ t ∧ Conversation t first last ∧
        r.parsedData = some p ∧ Loyal (parseWhoisData env.clock) t first r p) ∧
    ∀ ipAddr : Text, lookupIp env ipAddr w = (.ok r, w') →
      ∃ t first last p, w'.trace = w.trace ++ t ∧ Conversation t first last ∧
        r.parsedData = some p ∧ Loyal (parseIpWhoisData env.clock) t first r p := by
  constructor
  · intro domain h hr
    obtain ⟨t, first, last, htr, hc, rfl⟩ := lookup_eq_ok h
    obtain ⟨p, hp, ha⟩ := domainResult_assembled env.clock first last
    exact ⟨t, first, last, p, htr, hc, hp, ha.loyal hc hr⟩
  · intro ipAddr h
    obtain ⟨t, first, last, htr, hc, rfl⟩ := lookupIp_eq_ok h
    obtain ⟨p, hp, hrec, hserver, hraw, -⟩ := ipResult_assembled env.clock first last
    refine ⟨t, first, last, p, htr, hc, hp, ?_⟩
    have ha := Prod.ext (x := (_, _)) (y := last) hserver hraw
    split_ifs at hrec with hs
    · have hl := hc.last_eq_of_server hs
      exact .of_first hc (ha.trans hl) (hl ▸ hrec)
    · exact .of_backfill hc ha hrec

/-- The lookup of `unreadableResult` is loyal. -/
theorem loyal_of_lookup_unreadable : ∃ (t : List Event) (first last : Text × Text)
    (p : ParsedWhoisData), Conversation t first last ∧ unreadableResult.parsedData = some p ∧
      Loyal (parseWhoisData unreadableReferral.clock) t first unreadableResult p := by
  obtain ⟨t, first, last, p, -, h⟩ :=
    (loyal_of_lookup _ _ _ _).1 _ (Eff.run_of_fst lookup_unreadableReferral) (by decide +kernel)
  exact ⟨t, first, last, p, h⟩

end RustWhois
