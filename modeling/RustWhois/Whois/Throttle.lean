import RustWhois.Whois.Merge

/-!
# Throttled referrals

What a lookup makes of a throttle banner that the last server answered with.

* `domainResult_throttled`: the result of a domain lookup whose referral server throttled;
* **`discarded_iff`**: a domain lookup discards the banner for a record in hand, an IP lookup never
  does;
* **`reported_iff`**: a lookup that ends with a banner and without a record is reported as throttled,
  unless a domain's registry gave a mere pointer.
-/

namespace RustWhois

open Rust WhoisParser

section Domain

variable {clock : Clock} {first last : Text × Text}

theorem classifyResponse_alone (clock : Clock) (d : Text) :
    classifyResponse d (parseWhoisDataWithAnalysis clock d).1 = aloneStatus clock d := rfl

/-- The referral server throttled, and the registry did not. -/
theorem domainResult_kept (hs : last.1 ≠ first.1) (hl : aloneStatus clock last.2 = .rateLimited)
    (hf : aloneStatus clock first.2 ≠ .rateLimited) :
    ∃ analysis, domainResult clock first.1 first.2 last.1 last.2 =
      { server := first.1
        rawData := first.2
        parsedData := some (parseWhoisData clock first.2)
        parsingAnalysis := analysis
        status := aloneStatus clock first.2 } := by
  have ha := fun d => classifyResponse_alone clock d
  simp only [domainResult, ha]
  rw [if_pos hs, if_pos hl, if_pos hf]
  exact ⟨_, rfl⟩

theorem domainResult_own (hs : last.1 = first.1) :
    (domainResult clock first.1 first.2 last.1 last.2).status = aloneStatus clock last.2 := by
  have hs' : ¬ last.1 ≠ first.1 := not_not.mpr hs
  simp only [domainResult]
  rw [if_neg hs']
  rfl

/-- Both throttled. -/
theorem domainResult_banner (hs : last.1 ≠ first.1) (hl : aloneStatus clock last.2 = .rateLimited)
    (hf : aloneStatus clock first.2 = .rateLimited) :
    (domainResult clock first.1 first.2 last.1 last.2).status = .rateLimited := by
  have ha := fun d => classifyResponse_alone clock d
  simp only [domainResult, ha]
  rw [if_pos hs, if_pos hl, if_neg (not_not.mpr hf)]
  exact hl

end Domain

/-! ## A record in hand -/

/-- A referral server's last answer is a banner, and the first answer has a record. -/
def Interrupted (parse : Text → ParsedWhoisData) (first last : Text × Text) : Prop :=
  last.1 ≠ first.1 ∧ (parse first.2).hasRecordData = true ∧
    classifyResponse last.2 (parse last.2) = .rateLimited

instance (parse : Text → ParsedWhoisData) (first last : Text × Text) :
    Decidable (Interrupted parse first last) := by
  unfold Interrupted; infer_instance

/-- The result is the first answer, reported as found. -/
def LookupResult.Keeps (r : LookupResult) (first : Text × Text) : Prop :=
  (r.server, r.rawData) = first ∧ r.status = .found

instance (r : LookupResult) (first : Text × Text) : Decidable (r.Keeps first) := by
  unfold LookupResult.Keeps; infer_instance

theorem keeps_domainResult {clock : Clock} {first last : Text × Text}
    (h : Interrupted (parseWhoisData clock) first last) :
    (domainResult clock first.1 first.2 last.1 last.2).Keeps first := by
  obtain ⟨hs, hd, hl⟩ := h
  have hfound : aloneStatus clock first.2 = .found := classifyResponse_of_hasRecordData hd _
  have hf : aloneStatus clock first.2 ≠ .rateLimited := by
    rw [hfound]
    decide
  obtain ⟨analysis, hr⟩ := domainResult_kept hs hl hf
  rw [hr]
  exact ⟨rfl, hfound⟩

theorem not_keeps_ipResult {clock : Clock} {first last : Text × Text} (hs : last.1 ≠ first.1) :
    ¬ (ipResult clock first.1 first.2 last.1 last.2).Keeps first := by
  rintro ⟨heq, -⟩
  obtain ⟨p, -, -, hserver, -⟩ := ipResult_assembled clock first last
  have hfst := congrArg Prod.fst heq
  exact hs (hserver.symm.trans hfst)

/-- **A banner is discarded for the record in hand by a domain lookup; by an IP lookup only where
there is no banner or no record.** -/
theorem discarded_iff (env : Env) (w w' : World) (r : LookupResult) :
    (∀ domain : Text, lookup env domain w = (.ok r, w') →
      ∃ t first last, w'.trace = w.trace ++ t ∧ Conversation t first last ∧
        (Interrupted (parseWhoisData env.clock) first last → r.Keeps first)) ∧
    ∀ ipAddr : Text, lookupIp env ipAddr w = (.ok r, w') →
      ∃ t first last, w'.trace = w.trace ++ t ∧ Conversation t first last ∧
        ((Interrupted (parseIpWhoisData env.clock) first last → r.Keeps first) ↔
          ¬ Interrupted (parseIpWhoisData env.clock) first last) := by
  constructor
  · intro domain h
    obtain ⟨t, first, last, htr, hc, rfl⟩ := lookup_eq_ok h
    exact ⟨t, first, last, htr, hc, keeps_domainResult⟩
  · intro ipAddr h
    obtain ⟨t, first, last, htr, hc, rfl⟩ := lookupIp_eq_ok h
    refine ⟨t, first, last, htr, hc, ?_⟩
    constructor
    · intro hkeeps hint
      exact not_keeps_ipResult hint.1 (hkeeps hint)
    · intro hnot hint
      exact absurd hint hnot

/-- An IP registry with a record refers to a server that throttles. -/
def throttledIpReferral : Env :=
  .playing [(4, "OrgName: O\nReferralServer: whois://whois.b"), (11, "Rate limit exceeded")]

/-- The result of an IP lookup on that network, by the registry asked first. -/
def throttledIpResult (rir : Rir) : LookupResult :=
  ipResult throttledIpReferral.clock rir.whoisServer
    "OrgName: O\nReferralServer: whois://whois.b" "whois.b" "Rate limit exceeded"

theorem detectRir_throttledIp : detectRir (.ofAddr (.v4 ⟨8, 8, 8, 8⟩)) = .ok .arin := by
  have hfind : rirDb.detectRir (.v4 ⟨8, 8, 8, 8⟩) = some .arin := by
    refine RirDatabase.detectRir_rirDb ?_
    rw [RirDatabase.ranges_of_isAscii _ RirDatabase.isAscii_ipv4Table]
    decide +kernel
  have hpublic : ¬ isPrivateOrSpecial (.v4 ⟨8, 8, 8, 8⟩) = true := by decide
  rw [detectRir, ValidatedIpAddress.ofAddr, if_neg hpublic, hfind]

theorem lookupIp_throttledIpReferral :
    ∃ rir, (lookupIp throttledIpReferral "8.8.8.8" (.knowing [])).1 = .ok (throttledIpResult rir) := by
  have hip : ValidatedIpAddress.new "8.8.8.8" = .ok (.ofAddr (.v4 ⟨8, 8, 8, 8⟩)) := by
    decide +kernel
  have hlift : (Eff.lift (ValidatedIpAddress.new "8.8.8.8") : Whois _) (.knowing []) =
      (.ok _, .knowing []) := Eff.lift_eq_ok.mpr ⟨hip, rfl⟩
  have hlift' : (Eff.lift (detectRir (.ofAddr (.v4 ⟨8, 8, 8, 8⟩))) : Whois _) (.knowing []) =
      (.ok _, .knowing []) := Eff.lift_eq_ok.mpr ⟨detectRir_throttledIp, rfl⟩
  refine ⟨.arin, ?_⟩
  rw [lookupIp, Eff.bind_of_ok hlift, Eff.bind_of_ok hlift']
  decide +kernel

/-- The banner is returned, and reported as found. -/
theorem lookupIp_banner : ∃ rir,
    (lookupIp throttledIpReferral "8.8.8.8" (.knowing [])).1 = .ok (throttledIpResult rir) ∧
      Interrupted (parseIpWhoisData throttledIpReferral.clock)
        (rir.whoisServer, "OrgName: O\nReferralServer: whois://whois.b")
        ("whois.b", "Rate limit exceeded") ∧
      (throttledIpResult rir).rawData = "Rate limit exceeded".toList ∧
      (throttledIpResult rir).status = .found := by
  obtain ⟨rir, hrun⟩ := lookupIp_throttledIpReferral
  have hrecord : (parseIpWhoisData throttledIpReferral.clock
      "OrgName: O\nReferralServer: whois://whois.b").hasRecordData = true := by decide +kernel
  have hreferred : ("whois.b" : Text) ≠ rir.whoisServer := by
    cases rir <;> decide
  refine ⟨rir, hrun, ⟨hreferred, hrecord, by decide +kernel⟩, rfl, ?_⟩
  -- the record of the first answer fills that of the banner
  obtain ⟨p, -, hp, -, -, hstatus⟩ := ipResult_assembled throttledIpReferral.clock
    (rir.whoisServer, "OrgName: O\nReferralServer: whois://whois.b")
    ("whois.b", "Rate limit exceeded")
  have hfilled := hp.trans (if_neg hreferred)
  refine hstatus.trans (classifyResponse_of_hasRecordData ?_ _)
  rw [hfilled, ParsedWhoisData.hasRecordData_fillMissingFrom, hrecord, Bool.or_true]

theorem discarded_iff_throttledIp : ∃ (rir : Rir) (t : List Event) (first last : Text × Text),
    Conversation t first last ∧
      ((Interrupted (parseIpWhoisData throttledIpReferral.clock) first last →
        (throttledIpResult rir).Keeps first) ↔
        ¬ Interrupted (parseIpWhoisData throttledIpReferral.clock) first last) := by
  obtain ⟨rir, hrun⟩ := lookupIp_throttledIpReferral
  obtain ⟨t, first, last, -, hc, h⟩ := (discarded_iff _ _ _ _).2 _ (Eff.run_of_fst hrun)
  exact ⟨rir, t, first, last, hc, h⟩

/-! ## No record in hand -/

/-- If the last answer is a banner, a result without a record is reported as throttled. -/
def LookupResult.Reports (parse : Text → ParsedWhoisData) (last : Text × Text) (r : LookupResult) :
    Prop :=
  classifyResponse last.2 (parse last.2) = .rateLimited → ∀ p, r.parsedData = some p →
    p.hasRecordData = false → r.status = .rateLimited

/-- The registry gave no record and no banner, and the referral server a banner. -/
def Pointed (clock : Clock) (first last : Text × Text) : Prop :=
  last.1 ≠ first.1 ∧ aloneStatus clock last.2 = .rateLimited ∧
    (parseWhoisData clock first.2).hasRecordData = false ∧
    aloneStatus clock first.2 ≠ .rateLimited

instance (clock : Clock) (first last : Text × Text) : Decidable (Pointed clock first last) := by
  unfold Pointed; infer_instance

theorem reports_domainResult_iff (clock : Clock) (first last : Text × Text) :
    (domainResult clock first.1 first.2 last.1 last.2).Reports (parseWhoisData clock) last ↔
      ¬ Pointed clock first last := by
  constructor
  · rintro h ⟨hs, hl, hd, hf⟩
    obtain ⟨analysis, hr⟩ := domainResult_kept hs hl hf
    rw [hr] at h
    exact hf (h hl _ rfl hd)
  · intro hnot hl p hp hd
    by_cases hs : last.1 = first.1
    · exact (domainResult_own hs).trans hl
    by_cases hf : aloneStatus clock first.2 = .rateLimited
    · exact domainResult_banner hs hl hf
    · obtain ⟨analysis, hr⟩ := domainResult_kept hs hl hf
      rw [hr, Option.some.injEq] at hp
      subst hp
      exact absurd ⟨hs, hl, hd, hf⟩ hnot

theorem reports_ipResult (clock : Clock) (first last : Text × Text) :
    (ipResult clock first.1 first.2 last.1 last.2).Reports (parseIpWhoisData clock) last := by
  intro hl p hp hd
  obtain ⟨q, hq, hrec, -, -, hstatus⟩ := ipResult_assembled clock first last
  rw [hq, Option.some.injEq] at hp
  subst hp
  have hlast : (parseIpWhoisData clock last.2).hasRecordData = false := by
    by_contra htrue
    have hfound := classifyResponse_of_hasRecordData (by simpa using htrue) last.2
    rw [hfound] at hl
    cases hl
  rw [hstatus, classifyResponse_congr (hd.trans hlast.symm), hl]

/-- **A banner without a record is reported as throttled unless the registry of a domain gave a mere
pointer; for an IP address always.** -/
theorem reported_iff (env : Env) (w w' : World) (r : LookupResult) :
    (∀ domain : Text, lookup env domain w = (.ok r, w') →
      ∃ t first last, w'.trace = w.trace ++ t ∧ Conversation t first last ∧
        (r.Reports (parseWhoisData env.clock) last ↔ ¬ Pointed env.clock first last)) ∧
    ∀ ipAddr : Text, lookupIp env ipAddr w = (.ok r, w') →
      ∃ t first last, w'.trace = w.trace ++ t ∧ Conversation t first last ∧
        r.Reports (parseIpWhoisData env.clock) last := by
  constructor
  · intro domain h
    obtain ⟨t, first, last, htr, hc, rfl⟩ := lookup_eq_ok h
    exact ⟨t, first, last, htr, hc, reports_domainResult_iff env.clock first last⟩
  · intro ipAddr h
    obtain ⟨t, first, last, htr, hc, rfl⟩ := lookupIp_eq_ok h
    exact ⟨t, first, last, htr, hc, reports_ipResult env.clock first last⟩

/-- A thin registry refers to a server that throttles. -/
def throttledReferral : Env :=
  .playing [(4, "refer: whois.b"), (11, "Rate limit exceeded")]

/-- The result of a lookup on that network. -/
def throttledResult : LookupResult :=
  domainResult throttledReferral.clock "whois.a" "refer: whois.b" "whois.b" "Rate limit exceeded"

theorem lookup_throttledReferral :
    (lookup throttledReferral "example.com" (.knowing [("com", "whois.a")])).1 =
      .ok throttledResult := by decide +kernel

/-- An empty record is returned, and reported as found. -/
theorem lookup_pointed :
    (lookup throttledReferral "example.com" (.knowing [("com", "whois.a")])).1 =
      .ok throttledResult ∧
    aloneStatus throttledReferral.clock "Rate limit exceeded" = .rateLimited ∧
    throttledResult.parsedData = some {} ∧ throttledResult.status = .found ∧
    ¬ throttledResult.Reports (parseWhoisData throttledReferral.clock)
      ("whois.b", "Rate limit exceeded") := by
  have hlast : aloneStatus throttledReferral.clock "Rate limit exceeded" = .rateLimited := by
    decide +kernel
  have hdata : throttledResult.parsedData = some {} := by decide +kernel
  have hfound : throttledResult.status = .found := by decide +kernel
  refine ⟨lookup_throttledReferral, hlast, hdata, hfound, fun h => ?_⟩
  have hthrottled := h hlast _ hdata rfl
  rw [hfound] at hthrottled
  cases hthrottled

theorem reported_iff_throttled : ∃ (t : List Event) (first last : Text × Text),
    Conversation t first last ∧
      (throttledResult.Reports (parseWhoisData throttledReferral.clock) last ↔
        ¬ Pointed throttledReferral.clock first last) := by
  obtain ⟨t, first, last, -, hc, h⟩ :=
    (reported_iff _ _ _ _).1 _ (Eff.run_of_fst lookup_throttledReferral)
  exact ⟨t, first, last, hc, h⟩

end RustWhois
