import RustWhois.Server.Accounting

/-!
# What is sent

Runs of the HTTP service in which the client fetches, whatever the servers do.

* `Asks`, `Answers`: the request that a handler waits with, and what may be sent for it;
* `Known`: where the requests in flight come from, and what the lookups hold for them;
* **`reply_of_run`**: what is sent is about the query of the request.
-/

namespace RustWhois

open Rust WhoisClient

variable {governor : Governor}

/-! ## Requests and their answers -/

/-- The request that a handler waits with, made of the one that arrived. -/
def Request.Asks (parseDnsName : DnsNameParser) (req : Request) (request : HttpRequest) : Prop :=
  ∃ v, ValidatedQuery.new parseDnsName request.args.query = .ok v ∧
    req.args = { request.args with query := v.asStr } ∧
    ValidatedQuery.new parseDnsName v.asStr = .ok req.query

/-- The request arrived, with number `r`, in one of the steps. -/
def ArrivedIn (parseDnsName : DnsNameParser) (xs : List (ServerStep governor)) (r : Nat)
    (req : Request) : Prop :=
  ∃ x ∈ xs, ∃ request, x.event.action = .arrive req.i request ∧ x.pre.next = r ∧
    req.Asks parseDnsName request

/-- The request that arrives with number `r` is refused. -/
def RefusedIn (parseDnsName : DnsNameParser) (x : ServerStep governor) (i r : Nat) (reply : Reply) :
    Prop :=
  ∃ request e, x.event.action = .arrive i request ∧ x.pre.next = r ∧ reply = .error e.intoResponse ∧
    (ValidatedQuery.new parseDnsName request.args.query = .error e ∨
      ∃ v, ValidatedQuery.new parseDnsName request.args.query = .ok v ∧
        ValidatedQuery.new parseDnsName v.asStr = .error e)

/-- What may be sent for a request that waits for its lookup. -/
inductive Request.Answers (suffix : SuffixList) (req : Request) : Reply → Prop
  /-- A response about the query; one that bypasses the cache is not from it, and only debug requests
  get the parsing analysis. -/
  | json {body : WhoisResponse} (domain : body.domain = req.query.asStr)
    (live : req.args.bypass = true → body.cached = false)
    (analysis : body.parsingAnalysis.isSome = req.args.includeDebug) : Answers suffix req (.json body)
  /-- One of the errors that the query tells. -/
  | error {e : ErrorResponse} (known : e ∈ errorReplies suffix req.query.isIp req.query.asStr) :
    Answers suffix req (.error e)
  | timedOut : Answers suffix req (.error timedOutResponse)

theorem shape_of_fetchResponse {env : ClientEnv} {query : Text} {isIp : Bool} {queryTimeMs : Nat}
    {w : ClientWorld} {r : WhoisResponse}
    (h : (fetchResponse env query isIp queryTimeMs w).1 = .ok r) :
    r.domain = query ∧ r.cached = false ∧ r.parsingAnalysis.isSome := by
  have hends : Eff.Ends (fun _ => True)
      (fun r : WhoisResponse => r.domain = query ∧ r.cached = false ∧ r.parsingAnalysis.isSome)
      (fetchResponse env query isIp queryTimeMs) := by
    refine Eff.Ends.bind (Q := fun _ => True) (fun w => ?_) fun _ _ =>
      Eff.Ends.pure ⟨rfl, rfl, rfl⟩
    cases (lookupWithFallback env query isIp w).1 <;> trivial
  exact hends.of_ok (Eff.run_of_fst h)

theorem answerTo_timed {suffix : SuffixList} {req : Request} {outcome : Except WhoisError WhoisResponse}
    (h : AnswerTo suffix req.query outcome) (now : Nat) :
    AnswerTo suffix req.query (req.timed now outcome) := by
  cases outcome with
  | error e => exact h
  | ok r =>
    show (if r.cached then _ else r).domain = req.query.asStr
    split_ifs <;> exact h

/-- **A handler sends what may be sent.** -/
theorem answers_endLookup {suffix : SuffixList} {req : Request}
    {outcome : Except WhoisError WhoisResponse} (h : AnswerTo suffix req.query outcome)
    (hlive : req.args.bypass = true → ∀ r, outcome = .ok r →
      r.cached = false ∧ r.parsingAnalysis.isSome) (app : AppState governor) :
    req.Answers suffix (.of (AppState.endLookup req.args outcome app).1) := by
  cases outcome with
  | error e => exact .error h.reply
  | ok r =>
    show req.Answers suffix (.json (AppState.shown req.args r))
    rw [AppState.shown]
    split_ifs with hdebug
    · have hbypass : req.args.bypass = true := by rw [LookupArgs.bypass, hdebug, Bool.or_true]
      obtain ⟨hcached, hanalysis⟩ := hlive hbypass r rfl
      exact .json h (fun _ => hcached) (by rw [hanalysis, hdebug])
    · refine .json h (fun hbypass => (hlive hbypass r rfl).1) ?_
      rw [eq_false_of_ne_true hdebug]
      rfl

/-! ## Runs with fetches of the client -/

/-- The fetch that returns in a step is that of the client for the query of its request, in some state
of its services. -/
def ClientFetches (env : Nat → ClientEnv) (s : Server governor) (e : ServerEvent) : Prop :=
  ∀ r req outcome, s.requests r = some req →
    (e.action = .returned r outcome ∧ req.handle = .direct ∨
      ∃ sole c call, e.action = .resume r (.returned outcome) sole ∧ req.handle = .call c ∧
        s.lookups.fleet.calls c = some call ∧ call.phase = .fetching) →
    ∃ queryTimeMs w,
      outcome = (fetchResponse (env req.i) req.query.asStr req.query.isIp queryTimeMs w).1

/-- What a lookup for a key may yield. -/
def KeyAnswer (suffix : SuffixList) (parseDnsName : DnsNameParser) (key : Text)
    (result : Except WhoisError WhoisResponse) : Prop :=
  ∃ v, Accepted parseDnsName v ∧ CacheService.normalizeDomain v.asStr = key ∧
    AnswerTo suffix v result

/-- What is known of a state after the steps. -/
structure Known (parseDnsName : DnsNameParser) (suffix : SuffixList)
    (past : List (ServerStep governor)) (s : Server governor) : Prop where
  tracked : s.Tracked
  carries : s.lookups.Carries (KeyAnswer suffix parseDnsName)
  arrived : ∀ r req, s.requests r = some req → ArrivedIn parseDnsName past r req
  bypasses : ∀ r req, s.requests r = some req → (req.handle = .direct ↔ req.args.bypass = true)

namespace Server

variable {parseDnsName : DnsNameParser} {s : Server governor} {action : ServerAction}
  {result : Option HttpAnswer × Server governor}

/-- The lookups take no step, or one; if a fetch returns in it, it is that of a request. -/
theorem Acts.lookups (ha : Acts parseDnsName s action result) :
    result.2.lookups = s.lookups ∨ ∃ step, result.2.lookups = (s.lookups.act step).2 ∧
      ∀ c outcome sole, step = .resume c (.returned outcome) sole →
        ∃ r req, action = .resume r (.returned outcome) sole ∧ s.requests r = some req ∧
          req.handle = .call c := by
  have hfollow : ∀ (t : Server governor) r req step,
      (t.follow r req step).2.lookups = step.2 := by
    rintro t r req ⟨_ | answer, lookups⟩ <;> rfl
  have hdrop : ∀ r req, (s.drop r req).lookups = s.lookups ∨
      ∃ step, (s.drop r req).lookups = (s.lookups.act step).2 ∧
        ∀ c outcome sole, step = .resume c (.returned outcome) sole →
          ∃ r req, action = .resume r (.returned outcome) sole ∧ s.requests r = some req ∧
            req.handle = .call c := by
    intro r req
    rcases hhandle : req.handle with _ | c | w
    · exact .inl (by simp only [drop, hhandle])
    · exact .inr ⟨.resume c .cancel true, by simp only [drop, hhandle], by rintro _ _ _ ⟨⟩⟩
    · exact .inr ⟨.leave w, by simp only [drop, hhandle], by rintro _ _ _ ⟨⟩⟩
  cases ha with
  | started valid again bypass => exact .inr ⟨_, hfollow _ _ _ _, by rintro _ _ _ ⟨⟩⟩
  | @resumed r c req step sole waits handle goes =>
    refine .inr ⟨_, hfollow _ _ _ _, ?_⟩
    rintro c' outcome sole' ⟨⟩
    exact ⟨r, req, rfl, waits, handle⟩
  | woken waits handle => exact .inr ⟨_, hfollow _ _ _ _, by rintro _ _ _ ⟨⟩⟩
  | @timedOut r req waits late => exact hdrop r req
  | @disconnected r req waits => exact hdrop r req
  | evicted slot => exact .inr ⟨.evict slot, rfl, by rintro _ _ _ ⟨⟩⟩
  | _ => exact .inl rfl

theorem request_of_follow {r₀ r : Nat} {req₀ req : Request} {step : Option CallAnswer × Coalesced}
    (hr : (s.follow r₀ req₀ step).2.requests r = some req) : s.requests r = some req ∨
      r = r₀ ∧ req = { req₀ with handle := req₀.handle.settle s.lookups step.2 } := by
  obtain ⟨_ | answer, lookups⟩ := step
  · rcases of_update_some hr with ⟨rfl, rfl⟩ | ⟨-, hr⟩
    · exact .inr ⟨rfl, rfl⟩
    · exact .inl hr
  · exact .inl (of_update_none hr).2

theorem settle_eq_direct {h : Handle} {before after : Coalesced} :
    h.settle before after = .direct ↔ h = .direct := by
  cases h with
  | waiter w =>
    rw [Handle.settle]
    split_ifs <;> simp
  | _ => rfl

theorem out_of_follow {i r r₀ : Nat} {reply : Reply} {req₀ : Request}
    {step : Option CallAnswer × Coalesced} (h : (s.follow r₀ req₀ step).1 = some ⟨i, r, reply⟩) :
    ∃ (answer : CallAnswer) (app : AppState governor), step.1 = some answer ∧ req₀.i = i ∧ r₀ = r ∧
      reply = .of (AppState.endLookup req₀.args (req₀.timed s.now answer.result) app).1 := by
  obtain ⟨_ | answer, lookups⟩ := step
  · cases h
  · cases h
    exact ⟨answer, _, rfl, rfl, rfl, rfl⟩

theorem Acts.request_of (ha : Acts parseDnsName s action result) {r : Nat} {req : Request}
    (hr : result.2.requests r = some req) :
    (∃ old, s.requests r = some old ∧ req = { old with handle := req.handle } ∧
      (req.handle = .direct ↔ old.handle = .direct)) ∨
    ∃ request, action = .arrive req.i request ∧ s.next = r ∧ req.Asks parseDnsName request ∧
      (req.handle = .direct ↔ req.args.bypass = true) := by
  have hsame : s.requests r = some req → ∃ old, s.requests r = some old ∧
      req = { old with handle := req.handle } ∧ (req.handle = .direct ↔ old.handle = .direct) :=
    fun h => ⟨req, h, rfl, Iff.rfl⟩
  have hfollow : ∀ {r₀ req₀ step}, s.requests r₀ = some req₀ →
      (s.follow r₀ req₀ step).2.requests r = some req → ∃ old, s.requests r = some old ∧
        req = { old with handle := req.handle } ∧ (req.handle = .direct ↔ old.handle = .direct) := by
    intro r₀ req₀ step h₀ h
    rcases request_of_follow h with h | ⟨rfl, rfl⟩
    · exact hsame h
    · exact ⟨req₀, h₀, rfl, settle_eq_direct⟩
  cases ha with
  | @bypassed i request v query valid again bypass =>
    rcases of_update_some hr with ⟨rfl, rfl⟩ | ⟨-, hr⟩
    · exact .inr ⟨request, rfl, rfl, ⟨v, valid, rfl, again⟩, iff_of_true rfl bypass⟩
    · exact .inl (hsame hr)
  | @started i request v query valid again bypass =>
    rcases request_of_follow hr with hr | ⟨rfl, rfl⟩
    · exact .inl (hsame hr)
    · refine .inr ⟨request, rfl, rfl, ⟨v, valid, rfl, again⟩, iff_of_false ?_ ?_⟩
      · intro h
        have hwaits : Handle.waiter s.lookups.next = .direct := settle_eq_direct.mp h
        cases hwaits
      · exact ne_true_of_eq_false bypass
  | resumed waits handle goes => exact .inl (hfollow waits hr)
  | woken waits handle => exact .inl (hfollow waits hr)
  | returned waits handle => exact .inl (hsame (of_update_none hr).2)
  | timedOut waits late => exact .inl (hsame (of_update_none hr).2)
  | disconnected waits => exact .inl (hsame (of_update_none hr).2)
  | _ => exact .inl (hsame hr)

end Server

theorem transferable_keyAnswer (suffix : SuffixList) (parseDnsName : DnsNameParser) :
    Transferable (KeyAnswer suffix parseDnsName) := transferable_answerTo suffix parseDnsName

section Steps

variable {env : Nat → ClientEnv} {suffix : SuffixList} {parseDnsName : DnsNameParser}
  {past : List (ServerStep governor)} {s : Server governor} {e : ServerEvent}

theorem Known.fetches (h : Known parseDnsName suffix past s)
    (hsuffix : ∀ i, (env i).whois.suffix = suffix) (hfetch : ClientFetches env s e) {r c : Nat}
    {req : Request} {call : FleetCall} {outcome : Except WhoisError WhoisResponse} {sole : Bool}
    (haction : e.action = .resume r (.returned outcome) sole) (hr : s.requests r = some req)
    (hhandle : req.handle = .call c) (hcall : s.lookups.fleet.calls c = some call)
    (hphase : call.phase = .fetching) :
    KeyAnswer suffix parseDnsName call.slot.2 outcome := by
  obtain ⟨queryTimeMs, w, rfl⟩ :=
    hfetch r req outcome hr (.inr ⟨sole, c, call, haction, hhandle, hcall, hphase⟩)
  have halive := h.tracked.alive r req hr (by rw [hhandle]; rintro ⟨⟩)
  rw [hhandle, Coalesced.slotOf, hcall] at halive
  obtain ⟨x, -, request, -, -, v, -, -, hagain⟩ := h.arrived r req hr
  refine ⟨req.query, ⟨v.asStr, hagain⟩, ?_, ?_⟩
  · exact (congrArg Prod.snd (Option.some.inj halive)).symm
  · rw [← hsuffix req.i]
    exact answerTo_fetchResponse _ req.query queryTimeMs w

theorem Known.tick (h : Known parseDnsName suffix past s) (waited : Nat) :
    (s.tick waited).lookups.Carries (KeyAnswer suffix parseDnsName) :=
  ⟨h.carries.attended.tick waited,
    ⟨h.carries.holds.entries, h.carries.holds.backend, h.carries.holds.calls⟩, h.carries.shares⟩

theorem known_step (h : Known parseDnsName suffix past s)
    (hsuffix : ∀ i, (env i).whois.suffix = suffix) (hfetch : ClientFetches env s e) :
    Known parseDnsName suffix (past ++ [(serverMachine parseDnsName).step s e])
      ((serverMachine parseDnsName).next s e).2 := by
  have ha := Server.acts_act parseDnsName (s.tick e.waited) e.action
  refine ⟨h.tracked.next parseDnsName e, ?_, fun r req hr => ?_, fun r req hr => ?_⟩
  · rcases ha.lookups with heq | ⟨step, heq, hreturned⟩
    · rw [serverMachine_next, heq]
      exact h.tick e.waited
    · rw [serverMachine_next, heq]
      refine (h.tick e.waited).act (transferable_keyAnswer suffix parseDnsName) ?_
        (Coalesced.acts_act _ step)
      intro c outcome sole call hstep hcall hphase
      obtain ⟨r, req, haction, hr, hhandle⟩ := hreturned c outcome sole hstep
      exact h.fetches hsuffix hfetch haction hr hhandle hcall hphase
  · rcases ha.request_of hr with ⟨old, hold, heq, -⟩ | ⟨request, haction, hnext, hasks, -⟩
    · obtain ⟨x, hx, request, hxaction, hxnext, hasks⟩ := h.arrived r old hold
      rw [heq]
      exact ⟨x, List.mem_append_left _ hx, request, hxaction, hxnext, hasks⟩
    · exact ⟨_, List.mem_append_right _ List.mem_cons_self, request, haction, hnext, hasks⟩
  · rcases ha.request_of hr with ⟨old, hold, heq, hdirect⟩ | ⟨request, haction, hnext, hasks, hkind⟩
    · rw [hdirect, heq]
      exact h.bypasses r old hold
    · exact hkind

end Steps

/-- **An answer of a lookup is one for its request.** -/
theorem Known.answers {env : Nat → ClientEnv} {suffix : SuffixList} {parseDnsName : DnsNameParser}
    {past : List (ServerStep governor)} {s : Server governor} {e : ServerEvent}
    (h : Known parseDnsName suffix past s) (hsuffix : ∀ i, (env i).whois.suffix = suffix)
    (hfetch : ClientFetches env s e) {i r : Nat} {reply : Reply}
    (hout : ((serverMachine parseDnsName).next s e).1 = some ⟨i, r, reply⟩) :
    RefusedIn parseDnsName ((serverMachine parseDnsName).step s e) i r reply ∨
      ∃ req, req.i = i ∧
        ArrivedIn parseDnsName (past ++ [(serverMachine parseDnsName).step s e]) r req ∧
        req.Answers suffix reply := by
  have htracked := h.tracked.tick e.waited
  have harrived : ∀ {r req}, s.requests r = some req →
      ArrivedIn parseDnsName (past ++ [(serverMachine parseDnsName).step s e]) r req := by
    intro r req hr
    obtain ⟨x, hx, hrest⟩ := h.arrived r req hr
    exact ⟨x, List.mem_append_left _ hx, hrest⟩
  -- the outcome of a step of the lookups is for the key of the request
  have hlookup : ∀ (n : Nat) {req step answer}, Accepted parseDnsName req.query →
      (∀ c outcome sole, step = .resume c (.returned outcome) sole →
        e.action = .resume n (.returned outcome) sole ∧ s.requests n = some req ∧
          req.handle = .call c) →
      ((s.tick e.waited).lookups.act step).1 = some answer → answer.slot = req.slot →
      AnswerTo suffix req.query answer.result := by
    intro n req step answer haccepted hreturned hanswer hslot
    have hkey := (h.tick e.waited).answers (transferable_keyAnswer suffix parseDnsName)
      (fun c outcome sole call hstep hcall hphase => by
        obtain ⟨haction, hr, hhandle⟩ := hreturned c outcome sole hstep
        exact h.fetches hsuffix hfetch haction hr hhandle hcall hphase)
      (Coalesced.acts_act _ step) hanswer
    obtain ⟨v', hv', hkey', hresult⟩ := hkey
    rw [hslot] at hkey'
    exact hresult.of_key haccepted hv' hkey'
  have ha := Server.acts_act parseDnsName (s.tick e.waited) e.action
  rw [serverMachine_next] at hout
  obtain ⟨action, haction⟩ : ∃ action, e.action = action := ⟨_, rfl⟩
  rw [haction] at ha hout
  generalize (s.tick e.waited).act parseDnsName action = result at ha hout
  cases ha with
  | idle comes goes => cases hout
  | @refused j request e' invalid =>
    cases hout
    exact .inl ⟨request, e', haction, rfl, rfl, .inl invalid⟩
  | @rejected j request v e' valid invalid =>
    cases hout
    exact .inl ⟨request, e', haction, rfl, rfl, .inr ⟨v, valid, invalid⟩⟩
  | bypassed valid again bypass => cases hout
  | @started j request v query valid again bypass =>
    obtain ⟨answer, app, hanswer, rfl, rfl, rfl⟩ := Server.out_of_follow hout
    refine .inr ⟨_, rfl, ⟨_, List.mem_append_right _ List.mem_cons_self, request, haction, rfl, v,
      valid, rfl, again⟩, answers_endLookup (answerTo_timed ?_ _) ?_ app⟩
    · exact hlookup s.next ⟨v.asStr, again⟩ (by rintro _ _ _ ⟨⟩) hanswer
        (Coalesced.slot_of_start hanswer)
    · exact fun hbypass => absurd hbypass (ne_true_of_eq_false bypass)
  | @resumed r₀ c req step sole waits handle goes =>
    obtain ⟨answer, app, hanswer, rfl, rfl, rfl⟩ := Server.out_of_follow hout
    obtain ⟨x, -, request, -, -, v, -, -, hagain⟩ := h.arrived r₀ req waits
    refine .inr ⟨req, rfl, harrived waits, answers_endLookup (answerTo_timed ?_ _) ?_ app⟩
    · refine hlookup r₀ ⟨v.asStr, hagain⟩ ?_ hanswer
        ((htracked.steps_resume waits handle goes).slot answer hanswer)
      rintro c' outcome sole' ⟨⟩
      exact ⟨haction, waits, handle⟩
    · intro hbypass
      rw [(h.bypasses r₀ req waits).mpr hbypass] at handle
      cases handle
  | @woken r₀ w req fresh sole waits handle =>
    obtain ⟨answer, app, hanswer, rfl, rfl, rfl⟩ := Server.out_of_follow hout
    obtain ⟨x, -, request, -, -, v, -, -, hagain⟩ := h.arrived r₀ req waits
    refine .inr ⟨req, rfl, harrived waits, answers_endLookup (answerTo_timed ?_ _) ?_ app⟩
    · exact hlookup r₀ ⟨v.asStr, hagain⟩ (by rintro _ _ _ ⟨⟩) hanswer
        ((htracked.steps_wake waits handle).slot answer hanswer)
    · intro hbypass
      rw [(h.bypasses r₀ req waits).mpr hbypass] at handle
      cases handle
  | @returned r₀ req outcome waits handle =>
    obtain ⟨queryTimeMs, w, rfl⟩ := hfetch r₀ req outcome waits (.inl ⟨haction, handle⟩)
    cases hout
    refine .inr ⟨req, rfl, harrived waits, answers_endLookup ?_ ?_ _⟩
    · rw [← hsuffix req.i]
      exact answerTo_fetchResponse _ req.query queryTimeMs w
    · exact fun _ r hr => (shape_of_fetchResponse hr).2
  | @timedOut r₀ req waits late =>
    cases hout
    exact .inr ⟨req, rfl, harrived waits, .timedOut⟩
  | disconnected waits => cases hout
  | evicted slot => cases hout

/-- **What is sent is about the query of the request.** However the requests to any number of instances
interleave, wait for each other, time out or leave, and whatever the servers do: what is sent with a
number is sent for the request that arrived with it, on its instance. A query that is not accepted is
refused with the reason; else a response is about the query, is not from the cache if the request
bypasses it, and has a parsing analysis exactly if it is a debug request; and an error is one of those
that the query alone determines, or the timeout. -/
theorem reply_of_run (env : Nat → ClientEnv) (suffix : SuffixList)
    (hsuffix : ∀ i, (env i).whois.suffix = suffix) (parseDnsName : DnsNameParser) (moka : MokaCalls)
    (config : Config) (backed : Bool) (es : List ServerEvent) (past rest : List (ServerStep governor))
    (x : ServerStep governor)
    (hrun : (serverMachine parseDnsName).run (.new moka config backed) es = past ++ x :: rest)
    (hfetch : ∀ y ∈ past ++ [x], ClientFetches env y.pre y.event) (i r : Nat) (reply : Reply)
    (hout : x.out = some ⟨i, r, reply⟩) :
    RefusedIn parseDnsName x i r reply ∨
      ∃ req, req.i = i ∧ ArrivedIn parseDnsName (past ++ [x]) r req ∧ req.Answers suffix reply := by
  obtain ⟨es', e, rfl, rfl⟩ := (serverMachine parseDnsName).run_eq_append_cons hrun
  have hknown : Known parseDnsName suffix
      ((serverMachine parseDnsName).run (.new moka config backed : Server governor) es')
      ((serverMachine parseDnsName).final (.new moka config backed : Server governor) es') := by
    refine Machine.history_induction (C := fun s e => ClientFetches env s e)
      (fun past s e h hC => known_step h hsuffix hC) ?_ fun y hy =>
        hfetch y (List.mem_append_left _ hy)
    refine ⟨Server.tracked_new moka config backed,
      ⟨Coalesced.attended_new moka config backed,
      Fleet.holds_new config backed, ?_⟩, by rintro _ _ ⟨⟩, by rintro _ _ ⟨⟩⟩
    rintro _ _ _ ⟨⟩
  exact hknown.answers hsuffix (hfetch _ (List.mem_append_right _ List.mem_cons_self)) hout

/-- A debug request arrives. -/
def debugArrival : ServerEvent := ⟨0, .arrive 0 (.whoisDebugPath "Example.COM.")⟩

/-- Its fetch fails, with a message of the network. -/
def failedReturn (msg : Text) : ServerEvent := ⟨5, .returned 0 (.error (.ioError msg))⟩

/-- The message does not get out. -/
theorem reply_of_run_failed : ∃ req, ArrivedIn lengthLimits
      ((serverMachine lengthLimits).run (.new .documented createTestConfig false : Server .unlimited)
        [debugArrival, failedReturn "10.0.0.7"]) 0 req ∧
    req.Answers (unreachable "10.0.0.7").whois.suffix (.error ⟨500, "Internal server error"⟩) := by
  let s : Server .unlimited := .new .documented createTestConfig false
  let s' : Server .unlimited := ((serverMachine lengthLimits).next s debugArrival).2
  have h := reply_of_run (fun _ => unreachable "10.0.0.7") _ (fun _ => rfl) lengthLimits
    .documented createTestConfig false [debugArrival, failedReturn "10.0.0.7"]
    [(serverMachine lengthLimits).step s debugArrival] []
    ((serverMachine lengthLimits).step s' (failedReturn "10.0.0.7")) rfl ?_ 0 0
    (.error ⟨500, "Internal server error"⟩) (by decide +kernel)
  · rcases h with ⟨_, _, ⟨⟩, -⟩ | ⟨req, -, harrived, hanswers⟩
    exact ⟨req, harrived, hanswers⟩
  · intro y hy r req outcome hr hreturns
    rcases List.mem_cons.mp hy with rfl | hy
    · rcases hreturns with ⟨⟨⟩, -⟩ | ⟨_, _, _, ⟨⟩, -⟩
    rw [List.mem_singleton.mp hy] at hr hreturns
    rcases hreturns with ⟨⟨⟩, -⟩ | ⟨_, _, _, ⟨⟩, -⟩
    have hrequest : s'.requests 0 = some ⟨0, ⟨"example.com", true, true⟩, ⟨.domain ⟨"example.com"⟩⟩, 0,
        .direct⟩ := by decide +kernel
    rw [← Option.some.inj (hrequest.symm.trans hr)]
    exact ⟨0, { newWorld with whois := .knowing [("com", "whois.a")] }, by decide +kernel⟩

end RustWhois
