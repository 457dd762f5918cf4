import RustWhois.Whois.Net

/-!
# Referrals

The referral server named in an answer, and the loop that follows referrals from server to server.

* `sanitizeReferralValue`, `extractWhoisServer`: the server a response refers to;
* `followReferrals`: the loop; the number counts the referrals that may still be followed;
* `Chain`: what a run of the loop did, read off its trace;
* **`followLoop_chain`**: every run of the loop is a chain, whatever the servers answer;
* **`followReferrals_bounded`**: the whole contract of `follow_referrals`.
-/

namespace RustWhois

open Rust

/-! ## The server a response refers to -/

/-- `sanitize_referral_value`. -/
def sanitizeReferralValue (value : Text) : Option Text :=
  if value.isEmpty then none
  else
    let lower := toLowercase value
    if lower.startsWith "rwhois://" then none
    else
      let host :=
        if lower.startsWith "whois://" then value.sliceFrom (Text.len "whois://") else value
      let host := (host.stripSuffix "/").getD host
      let host := (host.stripSuffix ":43").getD host
      if host.isEmpty || host.any [':', '/', ' '].contains then none else some host

/-- The lowercased key announces a referral. -/
def isReferralKey (key : Text) : Bool :=
  (key.contains "whois" && key.contains "server") || key == "refer".toList ||
    key == "referralserver".toList

/-- The referral of one line. -/
def lineReferral (line : Text) : Option Text :=
  match line.trim.splitOnce ':' with
  | some (key, value) =>
    if isReferralKey (toLowercase key.trim) then sanitizeReferralValue value.trim else none
  | none => none

/-- `extract_whois_server`: an unusable value does not hide a later one. -/
def extractWhoisServer (data : Text) : Option Text := data.lines.findSome? lineReferral

theorem sanitize_of_extract {data server : Text} (h : extractWhoisServer data = some server) :
    ∃ value, sanitizeReferralValue value = some server := by
  obtain ⟨line, -, h⟩ := List.exists_of_findSome?_eq_some h
  rw [lineReferral] at h
  split at h
  · split_ifs at h
    exact ⟨_, h⟩
  · cases h

/-! ## The loop -/

section Env

variable (env : Env)

/-- The loop of `follow_referrals`, with the referrals still allowed, the current server and its
answer, and the servers visited. -/
def followLoop (domain : Text) : Nat → Text → Text → List Text → Whois (Text × Text)
  | 0, server, data, _ => pure (server, data)
  | n + 1, server, data, visited =>
    match extractWhoisServer data with
    | none => pure (server, data)
    | some referral =>
      if visited.contains referral then pure (server, data)
      else do
        match ← Eff.attempt (referralWhoisQuery env referral domain) with
        | .ok newData => followLoop domain n referral newData (referral :: visited)
        | .error _ => pure (server, data)

/-- `follow_referrals`. -/
def followReferrals (initialServer initialData domain : Text) : Whois (Text × Text) :=
  followLoop env domain env.config.maxReferrals initialServer initialData [initialServer]

end Env

/-! ## What a run of the loop did -/

section Trace

variable {t : List Event}

theorem issued_failed (server domain : Text) (ht : ∀ e ∈ t, e.isWire = true) :
    issued (.referralQuery server domain :: t) = [server] :=
  congrArg (server :: ·) (issued_wire ht)

theorem answers_failed (server domain : Text) (ht : ∀ e ∈ t, e.isWire = true) (kind : QueryKind) :
    answers kind (.referralQuery server domain :: t) = [] :=
  answers_wire (t := t) ht kind

theorem issued_step (server domain answer : Text) (t' : List Event)
    (ht : ∀ e ∈ t, e.isWire = true) :
    issued (.referralQuery server domain :: (t ++ .answered .referral server domain answer :: t')) =
      server :: issued t' := by
  change server :: issued (t ++ _) = _
  rw [issued_append, issued_wire ht]
  rfl

theorem answers_step (server domain answer : Text) (t' : List Event)
    (ht : ∀ e ∈ t, e.isWire = true) :
    answers .referral
      (.referralQuery server domain :: (t ++ .answered .referral server domain answer :: t')) =
      (server, answer) :: answers .referral t' := by
  change answers .referral (t ++ _) = _
  rw [answers_append, answers_wire ht]
  rfl

end Trace

/-- The events `t` of a loop that could follow `n` referrals, had visited `visited`, started with
the pair `start` and ended with `last`. -/
structure Chain (n : Nat) (visited : List Text) (start : Text × Text) (t : List Event)
    (last : Text × Text) : Prop where
  /-- At most `n` referral queries. -/
  bounded : (issued t).length ≤ n
  /-- None of them twice. -/
  nodup : (issued t).Nodup
  /-- None to a server visited before. -/
  fresh : ∀ server ∈ issued t, server ∉ visited
  /-- Only to servers the sanitizer lets through. -/
  sane : ∀ server ∈ issued t, ∃ value, sanitizeReferralValue value = some server
  /-- The servers answered in the order they were asked, up to the one that failed. -/
  asked : (answers .referral t).map Prod.fst <+: issued t
  /-- The pair is the last one answered. -/
  last_eq : last = (answers .referral t).getLastD start
  /-- No query of another kind was answered. -/
  only : ∀ kind, kind ≠ .referral → answers kind t = []

namespace Chain

variable {n : Nat} {visited : List Text} {start last : Text × Text} {server : Text}
  {t t' : List Event}

theorem refl : Chain n visited start [] start :=
  ⟨Nat.zero_le _, List.nodup_nil, by simp [issued], by simp [issued],
    List.nil_prefix, rfl, fun _ _ => rfl⟩

theorem failed (domain : Text) (hnew : server ∉ visited)
    (hs : ∃ value, sanitizeReferralValue value = some server) (ht : ∀ e ∈ t, e.isWire = true) :
    Chain (n + 1) visited start (.referralQuery server domain :: t) start := by
  have hi := issued_failed server domain ht
  have ha := answers_failed server domain ht
  refine ⟨?_, ?_, ?_, ?_, ?_, ?_, fun kind _ => ha kind⟩
  · simp [hi]
  · simp [hi]
  · simpa [hi] using hnew
  · simpa [hi] using hs
  · simp [ha]
  · simp [ha]

theorem step (domain answer : Text) (hnew : server ∉ visited)
    (hs : ∃ value, sanitizeReferralValue value = some server) (ht : ∀ e ∈ t, e.isWire = true)
    (h : Chain n (server :: visited) (server, answer) t' last) :
    Chain (n + 1) visited start
      (.referralQuery server domain :: (t ++ .answered .referral server domain answer :: t'))
      last := by
  have hi := issued_step server domain answer t' ht
  have ha := answers_step server domain answer t' ht
  refine ⟨?_, ?_, ?_, ?_, ?_, ?_, fun kind hk => ?_⟩
  · rw [hi]
    exact Nat.succ_le_succ h.bounded
  · rw [hi]
    exact List.nodup_cons.mpr ⟨fun hm => h.fresh _ hm List.mem_cons_self, h.nodup⟩
  · rw [hi]
    intro s hm
    rcases List.mem_cons.mp hm with rfl | hm
    · exact hnew
    · exact fun hv => h.fresh s hm (List.mem_cons_of_mem _ hv)
  · rw [hi]
    intro s hm
    rcases List.mem_cons.mp hm with rfl | hm
    · exact hs
    · exact h.sane s hm
  · rw [hi, ha, List.map_cons]
    exact (List.prefix_cons_inj _).mpr h.asked
  · rw [ha, h.last_eq]
    exact List.getLastD_cons.symm
  · change answers kind (t ++ _) = _
    rw [answers_append, answers_wire ht, List.nil_append]
    change List.filterMap _ (_ :: t') = _
    rw [List.filterMap_cons_none (by simp [Ne.symm hk])]
    exact h.only kind hk

end Chain

/-- **Every run of the loop is a chain**, whatever the servers answer. -/
theorem followLoop_chain (env : Env) (domain : Text) : ∀ (n : Nat) (server data : Text)
    (visited : List Text) (w : World), ∃ last w' t,
      followLoop env domain n server data visited w = (.ok last, w') ∧
      w'.tldServers = w.tldServers ∧ w'.trace = w.trace ++ t ∧ Chain n visited (server, data) t last
  | 0, server, data, _, w => ⟨(server, data), w, [], rfl, rfl, (List.append_nil _).symm, .refl⟩
  | n + 1, server, data, visited, w => by
    rw [followLoop]
    rcases hx : extractWhoisServer data with _ | referral
    · exact ⟨(server, data), w, [], rfl, rfl, (List.append_nil _).symm, .refl⟩
    dsimp only
    split_ifs with hv
    · exact ⟨(server, data), w, [], rfl, rfl, (List.append_nil _).symm, .refl⟩
    have hnew : referral ∉ visited := by simpa using hv
    have hs := sanitize_of_extract hx
    rcases hq : referralWhoisQuery env referral domain w with ⟨r, w₁⟩
    obtain ⟨htld, t, ht, htr⟩ := referralWhoisQuery_spec hq
    have hatt : Eff.attempt (referralWhoisQuery env referral domain) w = (.ok r, w₁) :=
      Eff.attempt_eq_ok.mpr hq
    rw [Eff.bind_of_ok hatt]
    cases r with
    | error e =>
      exact ⟨(server, data), w₁, _, rfl, htld, by simpa [answerEvent] using htr,
        .failed domain hnew hs ht⟩
    | ok answer =>
      obtain ⟨last, w', t', hrun, htld', htr', hc⟩ :=
        followLoop_chain env domain n referral answer (referral :: visited) w₁
      refine ⟨last, w', _, hrun, htld'.trans htld, ?_, .step domain answer hnew hs ht hc⟩
      rw [htr', htr]
      simp [answerEvent]

/-- **The referral loop is bounded, acyclic and honest**: it always returns, asks at most
`max_referrals` servers, none twice, never the first one and only sanitized names, and returns the
pair of the last server that answered, or the one it started with. -/
theorem followReferrals_bounded (env : Env) (initialServer initialData domain : Text) (w : World) :
    ∃ server data w' t,
      followReferrals env initialServer initialData domain w = (.ok (server, data), w') ∧
      w'.trace = w.trace ++ t ∧
      (issued t).length ≤ env.config.maxReferrals ∧ (issued t).Nodup ∧ initialServer ∉ issued t ∧
      (∀ s ∈ issued t, ∃ value, sanitizeReferralValue value = some s) ∧
      (answers .referral t).map Prod.fst <+: issued t ∧
      (server, data) = (answers .referral t).getLastD (initialServer, initialData) := by
  obtain ⟨last, w', t, hrun, -, htr, hc⟩ := followLoop_chain env domain env.config.maxReferrals
    initialServer initialData [initialServer] w
  exact ⟨last.1, last.2, w', t, hrun, htr, hc.bounded, hc.nodup,
    fun hm => hc.fresh _ hm List.mem_cons_self, hc.sane, hc.asked, hc.last_eq⟩

end RustWhois
