import RustWhois.Server.Progress
import RustWhois.Std.Census
import RustWhois.Std.Spends

/-!
# The metrics tell the truth

* `Server.Books`: what a step means for the counters and the number of the requests in flight;
* `Accounts`: the counters of an instance, against the steps of a run;
* **`accounts_of_run`**: in every run the counters are the numbers of what happened, and every request
  that arrived is answered, or its client is gone, or it is in flight.
-/

namespace RustWhois

open Rust

variable {governor : Governor}

/-! ## The books -/

namespace Server

variable {parseDnsName : DnsNameParser} {s s' : Server governor} {action : ServerAction}
  {out : Option HttpAnswer}

/-- What a step means for the counters and the requests in flight. -/
inductive Books (parseDnsName : DnsNameParser) (s : Server governor) :
    ServerAction → Option HttpAnswer → Server governor → Prop
  /-- Nothing is counted. -/
  | quiet {action : ServerAction} {s' : Server governor}
    (comes : ∀ i request, action ≠ .arrive i request)
    (goes : ∀ r req, action = .disconnect r → s.requests r ≠ some req)
    (apps : s'.apps = s.apps) (next : s'.next = s.next)
    (same : ∀ r, (s'.requests r).map Request.i = (s.requests r).map Request.i) :
    Books parseDnsName s action none s'
  | refused {i : Nat} {request : HttpRequest} {e : WhoisError}
    (invalid : ValidatedQuery.new parseDnsName request.args.query = .error e) :
    Books parseDnsName s (.arrive i request) (some ⟨i, s.next, .error e.intoResponse⟩)
      { s with
        apps := Function.update s.apps i
          ((s.apps i).count (Metrics.incrementErrors (AppState.rejection e)))
        next := s.next + 1 }
  | rejected {i : Nat} {request : HttpRequest} {v : ValidatedQuery} {e : WhoisError}
    (valid : ValidatedQuery.new parseDnsName request.args.query = .ok v)
    (invalid : ValidatedQuery.new parseDnsName v.asStr = .error e) :
    Books parseDnsName s (.arrive i request) (some ⟨i, s.next, .error e.intoResponse⟩)
      (s.accepted i { request.args with query := v.asStr })
  /-- A request begins to wait. -/
  | waits {i : Nat} {request : HttpRequest} {v : ValidatedQuery} {req : Request}
    {lookups : Coalesced} (valid : ValidatedQuery.new parseDnsName request.args.query = .ok v)
    (runs : req.i = i) :
    Books parseDnsName s (.arrive i request) none
      { s.accepted i { request.args with query := v.asStr } with
        lookups
        requests := Function.update s.requests s.next (some req) }
  /-- A request is answered at once. -/
  | served {i : Nat} {request : HttpRequest} {v : ValidatedQuery} {req : Request}
    {outcome : Except WhoisError WhoisResponse} {lookups : Coalesced}
    (valid : ValidatedQuery.new parseDnsName request.args.query = .ok v) (runs : req.i = i) :
    Books parseDnsName s (.arrive i request)
      ((s.accepted i { request.args with query := v.asStr }).conclude s.next req outcome).1
      { ((s.accepted i { request.args with query := v.asStr }).conclude s.next req outcome).2 with
        lookups }
  /-- A request that waits is answered. -/
  | concluded {action : ServerAction} {r : Nat} {req : Request}
    {outcome : Except WhoisError WhoisResponse} {lookups : Coalesced}
    (waits : s.requests r = some req) (comes : ∀ i request, action ≠ .arrive i request)
    (goes : ∀ r, action ≠ .disconnect r) :
    Books parseDnsName s action (s.conclude r req outcome).1
      { (s.conclude r req outcome).2 with lookups }
  | timedOut {r : Nat} {req : Request} (waits : s.requests r = some req) :
    Books parseDnsName s (.timeout r) (some ⟨req.i, r, .error ⟨408, "Request timed out"⟩⟩)
      { s.drop r req with
        apps := Function.update s.apps req.i
          ((s.apps req.i).count (Metrics.incrementErrors "request_timeout")) }
  | disconnected {r : Nat} {req : Request} (waits : s.requests r = some req) :
    Books parseDnsName s (.disconnect r) none (s.drop r req)

theorem books_follow {r : Nat} {req : Request} {step : Option CallAnswer × Coalesced}
    (hr : s.requests r = some req) (comes : ∀ i request, action ≠ .arrive i request)
    (goes : ∀ r, action ≠ .disconnect r) :
    Books parseDnsName s action (s.follow r req step).1 (s.follow r req step).2 := by
  obtain ⟨_ | answer, lookups⟩ := step
  · refine .quiet comes (fun r' _ heq => absurd heq (goes r')) rfl rfl fun r' => ?_
    show (Function.update s.requests r _ r').map Request.i = _
    rcases eq_or_ne r' r with rfl | hne
    · rw [Function.update_self, hr]
      rfl
    · rw [Function.update_of_ne hne]
  · exact .concluded hr comes goes

/-- **Every step is one of these.** -/
theorem Acts.books {result : Option HttpAnswer × Server governor}
    (ha : Acts parseDnsName s action result) : Books parseDnsName s action result.1 result.2 := by
  cases ha with
  | idle comes goes => exact .quiet comes goes rfl rfl fun _ => rfl
  | refused invalid => exact .refused invalid
  | rejected valid invalid => exact .rejected valid invalid
  | bypassed valid again bypass => exact .waits valid rfl
  | @started i request v query valid again bypass =>
    rcases s.lookups.act (.start i query.asStr) with ⟨_ | answer, lookups⟩
    · exact .waits valid rfl
    · exact .served valid rfl
  | resumed waits handle goes => exact books_follow waits (by rintro _ _ ⟨⟩) (by rintro _ ⟨⟩)
  | woken waits handle => exact books_follow waits (by rintro _ _ ⟨⟩) (by rintro _ ⟨⟩)
  | @returned r req outcome waits handle =>
    show Books parseDnsName s _ _ { (s.conclude r req outcome).2 with lookups := s.lookups }
    exact .concluded waits (by rintro _ _ ⟨⟩) (by rintro _ ⟨⟩)
  | timedOut waits late => exact .timedOut waits
  | disconnected waits => exact .disconnected waits
  | evicted slot =>
    exact .quiet (by rintro _ _ ⟨⟩) (by rintro _ _ ⟨⟩) rfl rfl fun _ => rfl

end Server

/-! ## The metrics of an instance as the books of its steps -/

/-- The response to a request that timed out. -/
def timedOutResponse : ErrorResponse := ⟨408, "Request timed out"⟩

theorem intoResponse_ne_timedOut (e : WhoisError) : e.intoResponse ≠ timedOutResponse := by
  intro h
  cases e with
  | timeout =>
    have htext := congrArg ErrorResponse.error h
    revert htext
    decide
  | _ =>
    have hstatus := congrArg ErrorResponse.status h
    simp [WhoisError.intoResponse, timedOutResponse] at hstatus

theorem countResponse_shown (args : LookupArgs) (response : WhoisResponse) (m : Metrics) :
    AppState.countResponse (AppState.shown args response) m = AppState.countResponse response m := by
  rw [AppState.shown]
  split_ifs <;> rfl

namespace Metrics

/-- An answer, as it is counted. -/
def bookReply (reply : Reply) (m : Metrics) : Metrics :=
  match reply with
  | .json body => AppState.countResponse body m
  | .error e => if e = timedOutResponse then m.incrementErrors "request_timeout" else m

/-- An arrival, as it is counted. -/
def bookArrival (parseDnsName : DnsNameParser) (request : HttpRequest) (m : Metrics) : Metrics :=
  match ValidatedQuery.new parseDnsName request.args.query with
  | .error e => m.incrementErrors (AppState.rejection e)
  | .ok v => m.incrementRequests v.asStr

/-- An action, as instance `i` counts it. -/
def bookAction (parseDnsName : DnsNameParser) (i : Nat) (action : ServerAction) (m : Metrics) :
    Metrics :=
  match action with
  | .arrive j request => if j = i then m.bookArrival parseDnsName request else m
  | _ => m

/-- What is sent, as instance `i` counts it. -/
def bookOut (i : Nat) (out : Option HttpAnswer) (m : Metrics) : Metrics :=
  match out with
  | some answer => if answer.i = i then m.bookReply answer.reply else m
  | none => m

/-- A step, as instance `i` counts it. -/
def book (parseDnsName : DnsNameParser) (i : Nat) (action : ServerAction) (out : Option HttpAnswer)
    (m : Metrics) : Metrics := (m.bookAction parseDnsName i action).bookOut i out

variable {m m' : Metrics}

theorem bookReply_of_error (e : WhoisError) (m : Metrics) :
    bookReply (.of (.error e)) m = m := if_neg (intoResponse_ne_timedOut e)

theorem Agree.bookReply (h : Agree m m') (reply : Reply) :
    Agree (m.bookReply reply) (m'.bookReply reply) := by
  cases reply with
  | json body => exact h.countResponse body
  | error e =>
    simp only [Metrics.bookReply]
    split_ifs
    · exact h.incrementErrors _
    · exact h

theorem Agree.bookArrival (h : Agree m m') (parseDnsName : DnsNameParser) (request : HttpRequest) :
    Agree (m.bookArrival parseDnsName request) (m'.bookArrival parseDnsName request) := by
  simp only [Metrics.bookArrival]
  split
  · exact h.incrementErrors _
  · exact h.incrementRequests _

theorem Agree.bookAction (h : Agree m m') (parseDnsName : DnsNameParser) (i : Nat)
    (action : ServerAction) :
    Agree (m.bookAction parseDnsName i action) (m'.bookAction parseDnsName i action) := by
  cases action with
  | arrive j request =>
    simp only [Metrics.bookAction]
    split_ifs
    · exact h.bookArrival parseDnsName request
    · exact h
  | _ => exact h

theorem Agree.bookOut (h : Agree m m') (i : Nat) (out : Option HttpAnswer) :
    Agree (m.bookOut i out) (m'.bookOut i out) := by
  cases out with
  | none => exact h
  | some answer =>
    simp only [Metrics.bookOut]
    split_ifs
    · exact h.bookReply answer.reply
    · exact h

theorem Agree.book (h : Agree m m') (parseDnsName : DnsNameParser) (i : Nat) (action : ServerAction)
    (out : Option HttpAnswer) :
    Agree (m.book parseDnsName i action out) (m'.book parseDnsName i action out) :=
  (h.bookAction parseDnsName i action).bookOut i out

end Metrics

namespace Server

variable {parseDnsName : DnsNameParser} {s s' : Server governor} {action : ServerAction}
  {out : Option HttpAnswer}

theorem metrics_conclude (r : Nat) (req : Request) (outcome : Except WhoisError WhoisResponse) :
    ∃ reply, (s.conclude r req outcome).1 = some ⟨req.i, r, reply⟩ ∧
      ((s.conclude r req outcome).2.apps req.i).metrics = (s.apps req.i).metrics.bookReply reply ∧
      ∀ i, i ≠ req.i → (s.conclude r req outcome).2.apps i = s.apps i := by
  cases outcome with
  | ok response =>
    refine ⟨.json (AppState.shown req.args response), rfl, ?_, fun i hne => ?_⟩
    · show (Function.update s.apps req.i _ req.i).metrics = _
      rw [Function.update_self, Metrics.bookReply, countResponse_shown]
      rfl
    · exact Function.update_of_ne hne _ _
  | error e =>
    refine ⟨.of (.error e), rfl, ?_, fun i hne => ?_⟩
    · show (Function.update s.apps req.i _ req.i).metrics = _
      rw [Function.update_self, Metrics.bookReply_of_error]
    · exact Function.update_of_ne hne _ _

theorem agree_accepted {i j : Nat} {request : HttpRequest} {v : ValidatedQuery}
    (hv : ValidatedQuery.new parseDnsName request.args.query = .ok v) :
    Metrics.Agree ((s.apps i).metrics.bookAction parseDnsName i (.arrive j request))
      ((s.accepted j { request.args with query := v.asStr }).apps i).metrics := by
  rw [Metrics.bookAction]
  rcases eq_or_ne j i with rfl | hne
  · rw [if_pos rfl, Metrics.bookArrival, hv]
    show Metrics.Agree _ (Function.update s.apps j _ j).metrics
    rw [Function.update_self]
    exact AppState.agree_beginLookup (s.apps j) s.now { request.args with query := v.asStr }
  · rw [if_neg hne]
    show Metrics.Agree _ (Function.update s.apps j _ i).metrics
    rw [Function.update_of_ne hne.symm]
    exact .refl _

theorem agree_conclude {i : Nat} {m : Metrics} (h : Metrics.Agree m (s.apps i).metrics) (r : Nat)
    (req : Request) (outcome : Except WhoisError WhoisResponse) :
    Metrics.Agree (m.bookOut i (s.conclude r req outcome).1)
      ((s.conclude r req outcome).2.apps i).metrics := by
  obtain ⟨reply, hout, hself, hothers⟩ := metrics_conclude (s := s) r req outcome
  rw [hout, Metrics.bookOut]
  split_ifs with heq
  · rw [← heq] at h ⊢
    rw [hself]
    exact h.bookReply reply
  · rw [hothers i fun h => heq h.symm]
    exact h

/-- **The metrics after a step are those before it, with the step in the books**, but for warnings. -/
theorem Books.agree (hb : Books parseDnsName s action out s') (i : Nat) :
    Metrics.Agree ((s.apps i).metrics.book parseDnsName i action out) (s'.apps i).metrics := by
  have hquiet : ∀ {action : ServerAction} {m : Metrics}, (∀ i request, action ≠ .arrive i request) →
      m.bookAction parseDnsName i action = m := by
    intro action m comes
    cases action <;> first | rfl | exact absurd rfl (comes _ _)
  rw [Metrics.book]
  cases hb with
  | quiet comes goes apps next same =>
    rw [hquiet comes, apps]
    exact .refl _
  | @refused j request e invalid =>
    simp only [Metrics.bookAction, Metrics.bookArrival, invalid, Metrics.bookOut]
    rcases eq_or_ne j i with rfl | hne
    · rw [if_pos rfl, if_pos rfl, Function.update_self, Metrics.bookReply,
        if_neg (intoResponse_ne_timedOut e)]
      exact .refl _
    · rw [if_neg hne, if_neg hne, Function.update_of_ne hne.symm]
      exact .refl _
  | @rejected j request v e valid invalid =>
    simp only [Metrics.bookOut, Metrics.bookReply, if_neg (intoResponse_ne_timedOut e), ite_self]
    exact agree_accepted valid
  | waits valid runs => exact agree_accepted valid
  | served valid runs => exact agree_conclude (agree_accepted valid) _ _ _
  | concluded waits comes goes =>
    rw [hquiet comes]
    exact agree_conclude (.refl _) _ _ _
  | @timedOut r req waits =>
    simp only [Metrics.bookAction, Metrics.bookOut, Metrics.bookReply]
    rcases eq_or_ne req.i i with rfl | hne
    · rw [if_pos rfl, Function.update_self]
      exact .refl _
    · rw [if_neg hne, Function.update_of_ne hne.symm]
      exact .refl _
  | disconnected waits => exact .refl _

end Server

/-- The books of instance `i` after the steps. -/
def books (parseDnsName : DnsNameParser) (i : Nat) (xs : List (ServerStep governor)) (m : Metrics) :
    Metrics :=
  xs.foldl (fun m x => m.book parseDnsName i x.event.action x.out) m

theorem Metrics.Agree.books {m m' : Metrics} (h : Agree m m') (parseDnsName : DnsNameParser) (i : Nat)
    (xs : List (ServerStep governor)) :
    Agree (RustWhois.books parseDnsName i xs m) (RustWhois.books parseDnsName i xs m') := by
  induction xs generalizing m m' with
  | nil => exact h
  | cons x xs ih => exact ih (h.book parseDnsName i x.event.action x.out)

/-- **The metrics of an instance are the books of its run**, but for warnings. -/
theorem agree_books (parseDnsName : DnsNameParser) (i : Nat) (es : List ServerEvent)
    (s : Server governor) :
    Metrics.Agree (books parseDnsName i ((serverMachine parseDnsName).run s es) (s.apps i).metrics)
      (((serverMachine parseDnsName).final s es).apps i).metrics := by
  induction es generalizing s with
  | nil => exact .refl _
  | cons e es ih =>
    have hstep : Metrics.Agree ((s.apps i).metrics.book parseDnsName i e.action
        ((serverMachine parseDnsName).next s e).1)
        ((((serverMachine parseDnsName).next s e).2).apps i).metrics :=
      (Server.acts_act parseDnsName (s.tick e.waited) e.action).books.agree i
    exact (hstep.books parseDnsName i _).trans (ih _)

/-! ## What the books say -/

/-- The request that arrives at instance `i`. -/
def ServerAction.arrival (i : Nat) : ServerAction → Option HttpRequest
  | .arrive j request => if j = i then some request else none
  | _ => none

/-- The response that instance `i` sends with 200. -/
def HttpAnswer.body (i : Nat) (self : HttpAnswer) : Option WhoisResponse :=
  match self.reply with
  | .json body => if self.i = i then some body else none
  | .error _ => none

/-- The label of a request that is accepted. -/
def HttpRequest.label (parseDnsName : DnsNameParser) (self : HttpRequest) : Option Text :=
  match ValidatedQuery.new parseDnsName self.args.query with
  | .ok v => some (Metrics.extractTld v.asStr)
  | .error _ => none

/-- The type of the error with which a request is refused. -/
def HttpRequest.refusal (parseDnsName : DnsNameParser) (self : HttpRequest) : Option Text :=
  match ValidatedQuery.new parseDnsName self.args.query with
  | .ok _ => none
  | .error e => some (AppState.rejection e)

/-- The step sends a response of instance `i`, of the kind `p`, with 200. -/
def sends (i : Nat) (p : WhoisResponse → Bool) (x : ServerStep governor) : Bool :=
  (x.out.bind (HttpAnswer.body i)).any p

/-- The time in the response that instance `i` sends with 200. -/
def sentTime (i : Nat) (x : ServerStep governor) : Option Nat :=
  (x.out.bind (HttpAnswer.body i)).map (·.queryTimeMs)

/-- The step answers a request of instance `i` that timed out. -/
def timesOut (i : Nat) (x : ServerStep governor) : Bool :=
  x.out.any fun answer => answer.i = i ∧ answer.reply = .error timedOutResponse

/-- What the metrics of an instance say of the steps of a run. -/
structure Accounts (parseDnsName : DnsNameParser) (i : Nat) (xs : List (ServerStep governor))
    (m : Metrics) : Prop where
  requests : ∀ label, m.requests label = xs.countP fun x =>
    (x.event.action.arrival i).bind (HttpRequest.label parseDnsName) = some label
  refusals : ∀ errorType ∈ ["invalid_domain".toList, "invalid_ip", "invalid_query"],
    m.errors errorType = xs.countP fun x =>
      (x.event.action.arrival i).bind (HttpRequest.refusal parseDnsName) = some errorType
  hits : m.cacheHits = xs.countP (sends i fun response => response.cached)
  misses : m.cacheMisses = xs.countP (sends i fun response => !response.cached)
  throttled : m.errors "upstream_rate_limited" =
    xs.countP (sends i fun response => response.lookupStatus = .rateLimited)
  timeouts : m.errors "request_timeout" = xs.countP (timesOut i)
  durations : m.durations = 0 :: xs.filterMap (sentTime i)

namespace Metrics

variable {parseDnsName : DnsNameParser} {i : Nat} {action : ServerAction} {out : Option HttpAnswer}
  {m : Metrics}

theorem bookAction_eq : m.bookAction parseDnsName i action =
    { m with
      requests := fun label => m.requests label +
        if (action.arrival i).bind (HttpRequest.label parseDnsName) = some label then 1 else 0
      errors := fun errorType => m.errors errorType +
        if (action.arrival i).bind (HttpRequest.refusal parseDnsName) = some errorType then 1
        else 0 } := by
  cases action with
  | arrive j request =>
    simp only [bookAction, ServerAction.arrival]
    split_ifs with hj
    · cases hv : ValidatedQuery.new parseDnsName request.args.query with
      | ok v =>
        simp [bookArrival, HttpRequest.label, HttpRequest.refusal, hv, incrementRequests,
          funext (increment_apply _ _)]
      | error e =>
        simp [bookArrival, HttpRequest.label, HttpRequest.refusal, hv, incrementErrors,
          funext (increment_apply _ _)]
    · simp
  | _ => simp [bookAction, ServerAction.arrival]

theorem bookOut_of_body {body : WhoisResponse} (h : out.bind (HttpAnswer.body i) = some body) :
    m.bookOut i out = AppState.countResponse body m := by
  obtain ⟨⟨j, r, reply⟩, rfl, hbody⟩ := Option.bind_eq_some_iff.mp h
  cases reply with
  | error e => cases hbody
  | json body' =>
    simp only [HttpAnswer.body] at hbody
    split_ifs at hbody with hj
    cases hbody
    exact if_pos hj

theorem bookOut_of_none (h : out.bind (HttpAnswer.body i) = none) : m.bookOut i out =
    if (out.any fun answer => answer.i = i ∧ answer.reply = .error timedOutResponse) then
      m.incrementErrors "request_timeout" else m := by
  rcases out with _ | ⟨j, r, reply⟩
  · rfl
  simp only [bookOut, Option.any_some]
  by_cases hj : j = i
  · subst hj
    rw [if_pos rfl]
    cases reply with
    | json body => simp [HttpAnswer.body] at h
    | error e =>
      rw [bookReply]
      by_cases he : e = timedOutResponse
      · rw [if_pos he, if_pos (decide_eq_true ⟨rfl, congrArg Reply.error he⟩)]
      · rw [if_neg he, if_neg fun hsent => he (Reply.error.inj (of_decide_eq_true hsent).2)]
  · rw [if_neg hj, if_neg fun hsent => hj (of_decide_eq_true hsent).1]

section Response

variable (response : WhoisResponse) (m : Metrics)

theorem requests_countResponse :
    (AppState.countResponse response m).requests = m.requests := by
  simp only [AppState.countResponse]
  split_ifs <;> rfl

theorem cacheHits_countResponse : (AppState.countResponse response m).cacheHits =
    m.cacheHits + if response.cached then 1 else 0 := by
  simp only [AppState.countResponse]
  split_ifs <;> rfl

theorem cacheMisses_countResponse : (AppState.countResponse response m).cacheMisses =
    m.cacheMisses + if !response.cached then 1 else 0 := by
  simp only [AppState.countResponse]
  cases response.cached <;> split_ifs <;> first | rfl | contradiction

theorem durations_countResponse : (AppState.countResponse response m).durations =
    m.durations ++ [response.queryTimeMs] := by
  simp only [AppState.countResponse]
  split_ifs <;> rfl

/-- A throttled response is counted as an error too. -/
theorem errors_countResponse (errorType : Text) :
    (AppState.countResponse response m).errors errorType = m.errors errorType +
      if response.lookupStatus = .rateLimited ∧ "upstream_rate_limited".toList = errorType then 1
      else 0 := by
  have hcached : (if response.cached then m.incrementCacheHits else m.incrementCacheMisses).errors =
      m.errors := by
    split_ifs <;> rfl
  by_cases hthrottled : response.lookupStatus = .rateLimited
  · simp only [AppState.countResponse, recordQueryTime, incrementErrors, hcached, hthrottled,
      true_and, if_true, increment_apply]
  · simp only [AppState.countResponse, recordQueryTime, hcached, hthrottled, false_and, if_false,
      Nat.add_zero]

end Response

/-- A counter that every step changes by what the step counts for it has counted the steps. -/
theorem count_books {f : Metrics → Nat} {p : ServerStep governor → Bool}
    (h : ∀ m (x : ServerStep governor),
      f (m.book parseDnsName i x.event.action x.out) = f m + if p x then 1 else 0)
    (xs : List (ServerStep governor)) (m : Metrics) :
    f (books parseDnsName i xs m) = f m + xs.countP p := by
  induction xs generalizing m with
  | nil => rfl
  | cons x xs ih =>
    rw [books, List.foldl_cons, ← books, ih, h, List.countP_cons]
    omega

section Counters

variable (m : Metrics) (x : ServerStep governor)

theorem requests_book (label : Text) :
    (m.book parseDnsName i x.event.action x.out).requests label = m.requests label +
      if (x.event.action.arrival i).bind (HttpRequest.label parseDnsName) = some label then 1
      else 0 := by
  rw [book]
  rcases hbody : x.out.bind (HttpAnswer.body i) with _ | body
  · rw [bookOut_of_none hbody, bookAction_eq]
    split <;> rfl
  · rw [bookOut_of_body hbody, requests_countResponse, bookAction_eq]

theorem cacheHits_book :
    (m.book parseDnsName i x.event.action x.out).cacheHits = m.cacheHits +
      if sends i (fun response => response.cached) x then 1 else 0 := by
  rw [book, sends]
  rcases hbody : x.out.bind (HttpAnswer.body i) with _ | body
  · rw [bookOut_of_none hbody, bookAction_eq]
    split <;> rfl
  · rw [bookOut_of_body hbody, cacheHits_countResponse, bookAction_eq]
    rfl

theorem cacheMisses_book :
    (m.book parseDnsName i x.event.action x.out).cacheMisses = m.cacheMisses +
      if sends i (fun response => !response.cached) x then 1 else 0 := by
  rw [book, sends]
  rcases hbody : x.out.bind (HttpAnswer.body i) with _ | body
  · rw [bookOut_of_none hbody, bookAction_eq]
    split <;> rfl
  · rw [bookOut_of_body hbody, cacheMisses_countResponse, bookAction_eq]
    rfl

theorem errors_book (errorType : Text) :
    (m.book parseDnsName i x.event.action x.out).errors errorType = m.errors errorType +
      (if (x.event.action.arrival i).bind (HttpRequest.refusal parseDnsName) = some errorType then 1
        else 0) +
      (if sends i (fun response => response.lookupStatus = .rateLimited) x ∧
        "upstream_rate_limited".toList = errorType then 1 else 0) +
      if timesOut i x ∧ "request_timeout".toList = errorType then 1 else 0 := by
  rw [book, sends, timesOut]
  rcases hbody : x.out.bind (HttpAnswer.body i) with _ | body
  · rw [bookOut_of_none hbody, bookAction_eq]
    simp only [Option.any_none, Bool.false_eq_true, false_and, if_false, Nat.add_zero]
    by_cases hout : (x.out.any fun answer => answer.i = i ∧ answer.reply = .error timedOutResponse)
    · simp only [hout, if_true, incrementErrors, increment_apply, true_and]
    · simp only [hout, Bool.false_eq_true, if_false, false_and, Nat.add_zero]
  · have hout : (x.out.any fun answer => answer.i = i ∧ answer.reply = .error timedOutResponse) =
        false := by
      obtain ⟨⟨j, r, reply⟩, hx, hbody⟩ := Option.bind_eq_some_iff.mp hbody
      cases reply with
      | error e => cases hbody
      | json body' =>
        rw [hx, Option.any_some, decide_eq_false_iff_not]
        rintro ⟨-, ⟨⟩⟩
    rw [bookOut_of_body hbody, errors_countResponse, bookAction_eq, hout]
    simp only [Option.any_some, decide_eq_true_eq, Bool.false_eq_true, false_and, if_false,
      Nat.add_zero]

theorem durations_book :
    (m.book parseDnsName i x.event.action x.out).durations =
      m.durations ++ (sentTime i x).toList := by
  rw [book, sentTime]
  rcases hbody : x.out.bind (HttpAnswer.body i) with _ | body
  · rw [bookOut_of_none hbody, bookAction_eq]
    split <;> simp [incrementErrors]
  · rw [bookOut_of_body hbody, durations_countResponse, bookAction_eq]
    rfl

end Counters

theorem durations_books (xs : List (ServerStep governor)) (m : Metrics) :
    (books parseDnsName i xs m).durations = m.durations ++ xs.filterMap (sentTime i) := by
  induction xs generalizing m with
  | nil => simp [books]
  | cons x xs ih =>
    rw [books, List.foldl_cons, ← books, ih, durations_book, List.append_assoc]
    cases h : sentTime i x with
    | none => rw [List.filterMap_cons_none h, Option.toList_none, List.nil_append]
    | some t => rw [List.filterMap_cons_some h, Option.toList_some, List.singleton_append]

theorem refusal_mem {request : Option HttpRequest} {errorType : Text}
    (h : request.bind (HttpRequest.refusal parseDnsName) = some errorType) :
    errorType ∈ ["invalid_domain".toList, "invalid_ip", "invalid_query"] := by
  obtain ⟨request, -, h⟩ := Option.bind_eq_some_iff.mp h
  simp only [HttpRequest.refusal] at h
  split at h
  · cases h
  · next e _ =>
    cases h
    cases e with
    | invalidDomain msg => exact List.mem_cons_self
    | invalidIpAddress msg => exact List.mem_cons_of_mem _ List.mem_cons_self
    | _ => exact List.mem_cons_of_mem _ (List.mem_cons_of_mem _ List.mem_cons_self)

end Metrics

/-- **What the books say of a run.** -/
theorem accounts_books (parseDnsName : DnsNameParser) (i : Nat) (xs : List (ServerStep governor)) :
    Accounts parseDnsName i xs (books parseDnsName i xs .init) := by
  have hcount : ∀ {f : Metrics → Nat} {p : ServerStep governor → Bool}, f .init = 0 →
      (∀ m (x : ServerStep governor),
        f (m.book parseDnsName i x.event.action x.out) = f m + if p x then 1 else 0) →
      f (books parseDnsName i xs .init) = xs.countP p := by
    intro f p hzero hbook
    rw [Metrics.count_books hbook, hzero, Nat.zero_add]
  have hrefused : ∀ {x : ServerStep governor} {errorType : Text},
      errorType ∉ ["invalid_domain".toList, "invalid_ip", "invalid_query"] →
      ¬ (x.event.action.arrival i).bind (HttpRequest.refusal parseDnsName) = some errorType :=
    fun hkind h => hkind (Metrics.refusal_mem h)
  refine ⟨fun label => ?_, fun errorType hkind => ?_, ?_, ?_, ?_, ?_, Metrics.durations_books xs .init⟩
  · refine hcount (f := (·.requests label)) rfl fun m x => ?_
    rw [Metrics.requests_book]
    simp only [decide_eq_true_eq]
  · have hne : "upstream_rate_limited".toList ≠ errorType ∧ "request_timeout".toList ≠ errorType := by
      simp only [List.mem_cons, List.not_mem_nil, or_false] at hkind
      rcases hkind with rfl | rfl | rfl <;> decide
    refine hcount (f := (·.errors errorType)) rfl fun m x => ?_
    rw [Metrics.errors_book]
    simp only [hne.1, hne.2, and_false, if_false, Nat.add_zero, decide_eq_true_eq]
  · exact hcount rfl fun m x => Metrics.cacheHits_book m x
  · exact hcount rfl fun m x => Metrics.cacheMisses_book m x
  · refine hcount (f := (·.errors "upstream_rate_limited")) rfl fun m x => ?_
    have hne : "request_timeout".toList ≠ "upstream_rate_limited" := by decide
    rw [Metrics.errors_book, if_neg (hrefused (by decide))]
    simp only [hne, and_false, and_true, if_false, Nat.add_zero]
  · refine hcount (f := (·.errors "request_timeout")) rfl fun m x => ?_
    have hne : "upstream_rate_limited".toList ≠ "request_timeout" := by decide
    rw [Metrics.errors_book, if_neg (hrefused (by decide))]
    simp only [hne, and_false, and_true, if_false, Nat.add_zero]

/-! ## The requests of an instance -/

/-- The client of a request of instance `i` that waits is gone. -/
def ServerAction.leaves (i : Nat) (s : Server governor) : ServerAction → Bool
  | .disconnect r => (s.requests r).any (·.i = i)
  | _ => false

/-- The requests of instance `i` in flight. -/
def Server.inFlight (s : Server governor) (i : Nat) : Nat :=
  census (fun req : Request => req.i = i) s.requests s.next

namespace Server

variable {parseDnsName : DnsNameParser} {s s' : Server governor} {action : ServerAction}
  {out : Option HttpAnswer}

theorem inFlight_arrived (hunused : s.requests s.next = none) (lookups : Coalesced)
    (apps : Nat → AppState governor) (i : Nat) :
    inFlight ⟨lookups, apps, s.requests, s.next + 1⟩ i = s.inFlight i := by
  rw [inFlight, census_succ, hunused]
  rfl

theorem inFlight_over {r : Nat} {req : Request} (hr : s.requests r = some req) (hlt : r < s.next)
    (lookups : Coalesced) (apps : Nat → AppState governor) (i : Nat) :
    inFlight ⟨lookups, apps, Function.update s.requests r none, s.next⟩ i +
      (if req.i = i then 1 else 0) = s.inFlight i := by
  have hupdate := census_update (p := fun req : Request => req.i = i) (f := s.requests) hlt none
  rw [hr] at hupdate
  simpa [inFlight] using hupdate

/-- **A request that comes goes on, is answered, or leaves.** -/
theorem Books.balance (hb : Books parseDnsName s action out s') (h : Tracked s) (i : Nat) :
    s'.inFlight i + (if out.any (·.i = i) then 1 else 0) + (if action.leaves i s then 1 else 0) =
      s.inFlight i + if (action.arrival i).isSome then 1 else 0 := by
  have hunused := h.unused s.next (Nat.le_refl _)
  have harrival : ∀ j request, ((ServerAction.arrive j request).arrival i).isSome ↔ j = i := by
    intro j request
    by_cases hj : j = i <;> simp [ServerAction.arrival, hj]
  have hquiet : ∀ {action : ServerAction}, (∀ i request, action ≠ .arrive i request) →
      action.arrival i = none := by
    intro action comes
    cases action <;> first | rfl | exact absurd rfl (comes _ _)
  have hstays : ∀ {action : ServerAction}, (∀ r, action ≠ .disconnect r) →
      action.leaves i s = false := by
    intro action goes
    cases action <;> first | rfl | exact absurd rfl (goes _)
  have hconclude : ∀ (t : Server governor) r req outcome,
      ((t.conclude r req outcome).1.any fun answer => answer.i = i) = decide (req.i = i) := by
    intro t r req outcome
    obtain ⟨reply, hout, -⟩ := metrics_conclude (s := t) r req outcome
    rw [hout, Option.any_some]
  cases hb with
  | quiet comes goes apps next same =>
    have hflies : s'.inFlight i = s.inFlight i := by
      rw [inFlight, next]
      refine census_congr fun r _ => ?_
      have hr := same r
      rcases hs : s.requests r with _ | req <;> rcases hs' : s'.requests r with _ | req' <;>
        simp_all
    have hleaves : action.leaves i s = false := by
      cases action with
      | disconnect r =>
        rcases hr : s.requests r with _ | req
        · simp [ServerAction.leaves, hr]
        · exact absurd hr (goes r req rfl)
      | _ => rfl
    simp [hflies, hleaves, hquiet comes]
  | @refused j request e invalid =>
    rw [inFlight_arrived hunused, hstays (by rintro _ ⟨⟩)]
    simp only [harrival, Option.any_some, decide_eq_true_eq, Bool.false_eq_true, if_false,
      Nat.add_zero]
  | @rejected j request v e valid invalid =>
    rw [accepted, inFlight_arrived hunused, hstays (by rintro _ ⟨⟩)]
    simp only [harrival, Option.any_some, decide_eq_true_eq, Bool.false_eq_true, if_false,
      Nat.add_zero]
  | @waits j request v req lookups valid runs =>
    have hflies : census (fun req : Request => req.i = i)
        (Function.update s.requests s.next (some req)) (s.next + 1) =
          s.inFlight i + if j = i then 1 else 0 := by
      rw [census_succ, Function.update_self, Option.any_some, runs]
      simp only [decide_eq_true_eq, inFlight]
      rw [census_congr fun r hlt => by rw [Function.update_of_ne (by omega)]]
    rw [hstays (by rintro _ ⟨⟩)]
    simp only [harrival, Option.any_none, Bool.false_eq_true, if_false, Nat.add_zero]
    exact hflies
  | @served j request v req outcome lookups valid runs =>
    rw [hconclude, hstays (by rintro _ ⟨⟩), runs]
    have hsame : Function.update s.requests s.next none = s.requests := by
      funext r
      rw [Function.update_apply]
      split_ifs with hr
      · rw [hr, hunused]
      · rfl
    have hflies := inFlight_arrived hunused lookups
      ((s.accepted j { request.args with query := v.asStr }).conclude s.next req outcome).2.apps i
    rw [← hsame] at hflies
    simp only [harrival, decide_eq_true_eq, Bool.false_eq_true, if_false, Nat.add_zero]
    exact congrArg (· + _) hflies
  | @concluded action r req outcome lookups waits comes goes =>
    rw [hconclude, hstays goes, hquiet comes]
    simp only [decide_eq_true_eq, Option.isSome_none, Bool.false_eq_true, if_false, Nat.add_zero]
    exact inFlight_over waits (h.lt_next waits) lookups (s.conclude r req outcome).2.apps i
  | @timedOut r req waits =>
    rw [hstays (by rintro _ ⟨⟩)]
    simp only [Option.any_some, decide_eq_true_eq, ServerAction.arrival, Option.isSome_none,
      Bool.false_eq_true, if_false, Nat.add_zero]
    exact inFlight_over waits (h.lt_next waits) (s.drop r req).lookups _ i
  | @disconnected r req waits =>
    simp only [Option.any_none, ServerAction.leaves, waits, Option.any_some, decide_eq_true_eq,
      ServerAction.arrival, Option.isSome_none, Bool.false_eq_true, if_false, Nat.add_zero]
    exact inFlight_over waits (h.lt_next waits) (s.drop r req).lookups s.apps i

end Server

/-- The requests that came to instance `i` are answered, or have left, or are in flight. -/
def Balanced (i : Nat) (past : List (ServerStep governor)) (s : Server governor) : Prop :=
  past.countP (fun x => (x.event.action.arrival i).isSome) =
    past.countP (fun x => x.out.any (·.i = i)) +
      past.countP (fun x => x.event.action.leaves i x.pre) + s.inFlight i

theorem Balanced.concat {i : Nat} {past : List (ServerStep governor)} {x : ServerStep governor}
    (h : Balanced i past x.pre)
    (hx : x.post.inFlight i + (if x.out.any (·.i = i) then 1 else 0) +
        (if x.event.action.leaves i x.pre then 1 else 0) =
      x.pre.inFlight i + if (x.event.action.arrival i).isSome then 1 else 0) :
    Balanced i (past ++ [x]) x.post := by
  rw [Balanced] at h ⊢
  rw [countP_concat, countP_concat, countP_concat, h]
  omega

/-- **The metrics tell the truth.** In every run, however the requests interleave, the counters of an
instance are the numbers of what happened: its requests by their labels, those that were refused by the
reason, its responses from the cache and past it, those that are throttled, and its timeouts; and every
request that came to it is answered, or its client is gone, or it is in flight. -/
theorem accounts_of_run (parseDnsName : DnsNameParser) (moka : MokaCalls) (config : Config)
    (backed : Bool) (es : List ServerEvent) (i : Nat) :
    let xs := (serverMachine parseDnsName).run (.new moka config backed : Server governor) es
    let s := (serverMachine parseDnsName).final (.new moka config backed : Server governor) es
    Accounts parseDnsName i xs (s.apps i).metrics ∧ Balanced i xs s := by
  intro xs s
  constructor
  · have hbooks := agree_books parseDnsName i es (.new moka config backed : Server governor)
    have haccounts := accounts_books parseDnsName i xs
    have hnone : ∀ errorType ∈ ["invalid_domain".toList, "invalid_ip", "invalid_query",
        "upstream_rate_limited", "request_timeout"], ¬ IsWarning errorType := by
      intro errorType hkind
      simp only [List.mem_cons, List.not_mem_nil, or_false] at hkind
      rcases hkind with rfl | rfl | rfl | rfl | rfl <;> rintro (h | h) <;> revert h <;> decide
    refine ⟨fun label => ?_, fun errorType hkind => ?_, ?_, ?_, ?_, ?_, ?_⟩
    · rw [← haccounts.requests label]
      exact congrFun hbooks.requests label
    · rw [← haccounts.refusals errorType hkind]
      exact hbooks.errors errorType (hnone errorType (List.mem_append_left _ hkind))
    · exact hbooks.cacheHits.trans haccounts.hits
    · exact hbooks.cacheMisses.trans haccounts.misses
    · exact (hbooks.errors _ (hnone _ (by simp))).trans haccounts.throttled
    · exact (hbooks.errors _ (hnone _ (by simp))).trans haccounts.timeouts
    · exact hbooks.durations.trans haccounts.durations
  · have hboth : Balanced i xs s ∧ s.Tracked := by
      refine Machine.history_of_step (H := fun past t => Balanced i past t ∧ t.Tracked)
        (fun past t e h => ?_) ?_ _
      · obtain ⟨hbalanced, htracked⟩ := h
        have hstep := (Server.acts_act parseDnsName (t.tick e.waited) e.action).books.balance
          (htracked.tick e.waited) i
        exact ⟨Balanced.concat (x := (serverMachine parseDnsName).step t e) hbalanced hstep,
          htracked.next parseDnsName e⟩
      · exact ⟨rfl, Server.tracked_new moka config backed⟩
    exact hboth.1

end RustWhois
