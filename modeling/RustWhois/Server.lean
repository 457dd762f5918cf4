import RustWhois.Answers

/-!
# The HTTP service

The handlers of `main.rs`, with the counters of `metrics.rs` and the limits of `rate_limiter.rs`.

* `Metrics`, `extractTld`: the counters and the label of a query;
* `Governor`, `RateLimiter`: the limits, which only warn;
* `performWhoisLookup` and its endpoints, `beginLookup` and `endLookup`: a handler before and after
  it waits for the lookup;
* `Metrics.Agree`, **`agree_beginLookup`**: limits that are exceeded change warnings only;
* **`handler_eq`**: a handler is the two, with the lookup between them.
-/

namespace RustWhois

open Rust

/-- `extract_tld_simple`. -/
def extractTldSimple (domain : Text) : Text :=
  toLowercase ((domain.split '.').getLast?.getD "unknown")

/-! ## Metrics -/

/-- The series of one instance. The durations are in milliseconds here. -/
structure Metrics where
  /-- `whois_requests_total`, by the label of the query. -/
  requests : Text → Nat
  cacheHits : Nat
  cacheMisses : Nat
  /-- `whois_errors_total`, by the type of the error. -/
  errors : Text → Nat
  /-- `whois_request_duration_seconds`. -/
  durations : List Nat

namespace Metrics

/-- `init_metrics`. The histogram starts with a zero. -/
def init : Metrics := ⟨fun _ => 0, 0, 0, fun _ => 0, [0]⟩

/-- `extract_tld`, the label of a query: addresses share one for each family. -/
def extractTld (domain : Text) : Text :=
  match IpAddr.parse domain with
  | some (.v4 _) => "ipv4"
  | some (.v6 _) => "ipv6"
  | none => extractTldSimple domain

/-- A counter with labels, one more at `label`. -/
def increment (counter : Text → Nat) (label : Text) : Text → Nat :=
  Function.update counter label (counter label + 1)

/-- `increment_requests`. -/
def incrementRequests (domain : Text) (self : Metrics) : Metrics :=
  { self with requests := increment self.requests (extractTld domain) }

/-- `increment_cache_hits`. -/
def incrementCacheHits (self : Metrics) : Metrics := { self with cacheHits := self.cacheHits + 1 }

/-- `increment_cache_misses`. -/
def incrementCacheMisses (self : Metrics) : Metrics :=
  { self with cacheMisses := self.cacheMisses + 1 }

/-- `increment_errors`. -/
def incrementErrors (errorType : Text) (self : Metrics) : Metrics :=
  { self with errors := increment self.errors errorType }

/-- `record_query_time`. -/
def recordQueryTime (durationMs : Nat) (self : Metrics) : Metrics :=
  { self with durations := self.durations ++ [durationMs] }

theorem increment_apply (counter : Text → Nat) (label other : Text) :
    increment counter label other = counter other + if label = other then 1 else 0 := by
  by_cases h : label = other
  · subst h
    simp [increment]
  · rw [increment, Function.update_of_ne (Ne.symm h), if_neg h, Nat.add_zero]

end Metrics

/-! ## Limits -/

/-- The rate limiters of the governor crate: one with a quota per hour, and the check at a time, which
says whether the quota allows it. -/
structure Governor where
  State : Type
  direct : Nat → State
  check : Nat → State → Bool × State

/-- No quota. -/
def Governor.unlimited : Governor := ⟨Unit, fun _ => (), fun _ state => (true, state)⟩

/-- `RateLimiter`. -/
structure RateLimiter (governor : Governor) where
  freshLimiter : governor.State
  debugLimiter : governor.State

namespace RateLimiter

variable {governor : Governor}

/-- `RateLimiter::new`. -/
def new : RateLimiter governor := ⟨governor.direct 1000, governor.direct 100⟩

/-- `check_fresh_query`: whether the limit is exceeded. -/
def checkFreshQuery (now : Nat) (self : RateLimiter governor) : Bool × RateLimiter governor :=
  let (within, freshLimiter) := governor.check now self.freshLimiter
  (!within, { self with freshLimiter })

/-- `check_debug_query`. -/
def checkDebugQuery (now : Nat) (self : RateLimiter governor) : Bool × RateLimiter governor :=
  let (within, debugLimiter) := governor.check now self.debugLimiter
  (!within, { self with debugLimiter })

end RateLimiter

/-! ## Handlers -/

/-- What the handlers of one instance share, next to its client. -/
structure AppState (governor : Governor) where
  metrics : Metrics
  rateLimiter : RateLimiter governor

/-- The parameters of a request with the query among them. -/
structure WhoisQuery where
  domain : Text
  fresh : Bool

/-- The parameters of a request with the query in its path. -/
structure PathQueryParams where
  fresh : Bool

/-- The arguments of `perform_whois_lookup`. -/
structure LookupArgs where
  query : Text
  fresh : Bool
  includeDebug : Bool
  deriving DecidableEq

/-- Debug requests always bypass the cache. -/
def LookupArgs.bypass (self : LookupArgs) : Bool := self.fresh || self.includeDebug

namespace AppState

variable {governor : Governor} (parseDnsName : DnsNameParser)

/-- A new instance. -/
def new : AppState governor := ⟨.init, .new⟩

/-- The metrics change. -/
def count (change : Metrics → Metrics) (self : AppState governor) : AppState governor :=
  { self with metrics := change self.metrics }

/-- The error type under which a rejected query is counted. -/
def rejection : WhoisError → Text
  | .invalidDomain _ => "invalid_domain"
  | .invalidIpAddress _ => "invalid_ip"
  | _ => "invalid_query"

/-- `validate_query_with_metrics`. -/
def validateQueryWithMetrics (query : Text) : Eff (AppState governor) WhoisError ValidatedQuery :=
  fun self => match ValidatedQuery.new parseDnsName query with
    | .ok validated => (.ok validated, self)
    | .error e => (.error e, self.count (Metrics.incrementErrors (rejection e)))

/-- A limit that is checked, and counted if it is exceeded. -/
def warn (check : RateLimiter governor → Bool × RateLimiter governor) (warning : Text)
    (self : AppState governor) : AppState governor :=
  let (exceeded, rateLimiter) := check self.rateLimiter
  let self := { self with rateLimiter }
  if exceeded then self.count (Metrics.incrementErrors warning) else self

/-- `perform_whois_lookup`, before it waits for the lookup. -/
def beginLookup (now : Nat) (args : LookupArgs) (self : AppState governor) : AppState governor :=
  let self := self.count (Metrics.incrementRequests args.query)
  let self := if args.fresh then
      self.warn (RateLimiter.checkFreshQuery now) "fresh_rate_limit_warning" else self
  if args.includeDebug then
    self.warn (RateLimiter.checkDebugQuery now) "debug_rate_limit_warning" else self

/-- What is counted for a response. -/
def countResponse (response : WhoisResponse) (self : Metrics) : Metrics :=
  let self := if response.cached then self.incrementCacheHits else self.incrementCacheMisses
  let self := if response.lookupStatus = .rateLimited then
      self.incrementErrors "upstream_rate_limited" else self
  self.recordQueryTime response.queryTimeMs

/-- The response as it is sent: the parsing analysis is debug-only output. -/
def shown (args : LookupArgs) (response : WhoisResponse) : WhoisResponse :=
  if args.includeDebug then response else { response with parsingAnalysis := none }

/-- `perform_whois_lookup`, after the lookup. -/
def endLookup (args : LookupArgs) (outcome : Except WhoisError WhoisResponse) :
    Eff (AppState governor) WhoisError WhoisResponse :=
  fun self => match outcome with
    | .ok response => (.ok (shown args response), self.count (countResponse response))
    | .error e => (.error e, self)

/-- `perform_whois_lookup`, with the lookup as a function of the query and of whether the cache is
bypassed. -/
def performWhoisLookup (now : Nat) (lookup : Text → Bool → Except WhoisError WhoisResponse)
    (query : Text) (fresh includeDebug : Bool) : Eff (AppState governor) WhoisError WhoisResponse := do
  Eff.modify (beginLookup now ⟨query, fresh, includeDebug⟩)
  endLookup ⟨query, fresh, includeDebug⟩ (lookup query (fresh || includeDebug))

/-- A query is validated, and looked up. -/
def serve (now : Nat) (lookup : Text → Bool → Except WhoisError WhoisResponse) (domain : Text)
    (fresh includeDebug : Bool) : Eff (AppState governor) WhoisError WhoisResponse := do
  let validated ← validateQueryWithMetrics parseDnsName domain
  performWhoisLookup now lookup validated.asStr fresh includeDebug

section Endpoints

variable (now : Nat) (lookup : Text → Bool → Except WhoisError WhoisResponse)

/-- `GET /whois`. -/
def whoisLookup (params : WhoisQuery) : Eff (AppState governor) WhoisError WhoisResponse :=
  serve parseDnsName now lookup params.domain params.fresh false

/-- `POST /whois`. -/
def whoisLookupPost (payload : WhoisQuery) : Eff (AppState governor) WhoisError WhoisResponse :=
  whoisLookup parseDnsName now lookup payload

/-- `GET /whois/{domain}`. -/
def whoisLookupPath (domain : Text) (params : PathQueryParams) :
    Eff (AppState governor) WhoisError WhoisResponse :=
  serve parseDnsName now lookup domain params.fresh false

/-- `GET /whois/debug`. The parameter `fresh` is ignored. -/
def whoisDebug (params : WhoisQuery) : Eff (AppState governor) WhoisError WhoisResponse :=
  serve parseDnsName now lookup params.domain true true

/-- `GET /whois/debug/{domain}`. -/
def whoisDebugPath (domain : Text) : Eff (AppState governor) WhoisError WhoisResponse :=
  serve parseDnsName now lookup domain true true

end Endpoints

/-- Whether an error of the layers around a handler is a timeout. -/
inductive LayerError
  | elapsed
  | other

/-- `handle_timeout_error`. -/
def handleTimeoutError (err : LayerError) (self : AppState governor) :
    ErrorResponse × AppState governor :=
  match err with
  | .elapsed => (⟨408, "Request timed out"⟩, self.count (Metrics.incrementErrors "request_timeout"))
  | .other => (⟨500, "Internal server error"⟩, self.count (Metrics.incrementErrors "internal_error"))

end AppState

/-! ## Limits only warn -/

/-- The error types of the warnings. -/
def IsWarning (errorType : Text) : Prop :=
  errorType = "fresh_rate_limit_warning" ∨ errorType = "debug_rate_limit_warning"

/-- The metrics agree but for warnings. -/
structure Metrics.Agree (m m' : Metrics) : Prop where
  requests : m'.requests = m.requests
  cacheHits : m'.cacheHits = m.cacheHits
  cacheMisses : m'.cacheMisses = m.cacheMisses
  errors : ∀ errorType, ¬ IsWarning errorType → m'.errors errorType = m.errors errorType
  durations : m'.durations = m.durations

namespace Metrics.Agree

variable {m m' m'' : Metrics}

theorem refl (m : Metrics) : Agree m m := ⟨rfl, rfl, rfl, fun _ _ => rfl, rfl⟩

theorem symm (h : Agree m m') : Agree m' m :=
  ⟨h.requests.symm, h.cacheHits.symm, h.cacheMisses.symm, fun k hk => (h.errors k hk).symm,
    h.durations.symm⟩

theorem trans (h : Agree m m') (h' : Agree m' m'') : Agree m m'' :=
  ⟨h'.requests.trans h.requests, h'.cacheHits.trans h.cacheHits,
    h'.cacheMisses.trans h.cacheMisses, fun k hk => (h'.errors k hk).trans (h.errors k hk),
    h'.durations.trans h.durations⟩

theorem warn {warning : Text} (hwarning : IsWarning warning) (m : Metrics) :
    Agree m (m.incrementErrors warning) := by
  refine ⟨rfl, rfl, rfl, fun errorType hkind => ?_, rfl⟩
  have hne : warning ≠ errorType := fun heq => hkind (heq ▸ hwarning)
  show increment m.errors warning errorType = m.errors errorType
  rw [increment_apply, if_neg hne, Nat.add_zero]

theorem incrementErrors (h : Agree m m') (errorType : Text) :
    Agree (m.incrementErrors errorType) (m'.incrementErrors errorType) := by
  refine ⟨h.requests, h.cacheHits, h.cacheMisses, fun k hk => ?_, h.durations⟩
  simp only [Metrics.incrementErrors, increment_apply, h.errors k hk]

theorem incrementRequests (h : Agree m m') (domain : Text) :
    Agree (m.incrementRequests domain) (m'.incrementRequests domain) := by
  refine ⟨?_, h.cacheHits, h.cacheMisses, h.errors, h.durations⟩
  simp only [Metrics.incrementRequests, h.requests]

theorem countResponse (h : Agree m m') (response : WhoisResponse) :
    Agree (AppState.countResponse response m) (AppState.countResponse response m') := by
  have hcached : Agree
      (if response.cached then m.incrementCacheHits else m.incrementCacheMisses)
      (if response.cached then m'.incrementCacheHits else m'.incrementCacheMisses) := by
    split_ifs
    · exact ⟨h.requests, congrArg (· + 1) h.cacheHits, h.cacheMisses, h.errors, h.durations⟩
    · exact ⟨h.requests, h.cacheHits, congrArg (· + 1) h.cacheMisses, h.errors, h.durations⟩
  have hrecorded : ∀ {n n' : Metrics}, Agree n n' →
      Agree (n.recordQueryTime response.queryTimeMs) (n'.recordQueryTime response.queryTimeMs) :=
    fun hn => ⟨hn.requests, hn.cacheHits, hn.cacheMisses, hn.errors,
      congrArg (· ++ [response.queryTimeMs]) hn.durations⟩
  simp only [AppState.countResponse]
  refine hrecorded ?_
  by_cases hthrottled : response.lookupStatus = .rateLimited
  · rw [if_pos hthrottled, if_pos hthrottled]
    exact hcached.incrementErrors _
  · rw [if_neg hthrottled, if_neg hthrottled]
    exact hcached

end Metrics.Agree

/-- **A lookup that begins is counted under its label**, and but for warnings nothing else is. -/
theorem AppState.agree_beginLookup {governor : Governor} (app : AppState governor) (now : Nat)
    (args : LookupArgs) :
    Metrics.Agree (app.metrics.incrementRequests args.query) (app.beginLookup now args).metrics := by
  have hwarn : ∀ (check : RateLimiter governor → Bool × RateLimiter governor) (warning : Text)
      (app' : AppState governor), IsWarning warning →
      Metrics.Agree app'.metrics (app'.warn check warning).metrics := by
    intro check warning app' hwarning
    simp only [AppState.warn]
    split_ifs
    · exact .warn hwarning app'.metrics
    · exact .refl app'.metrics
  have hfresh : ∀ app' : AppState governor, Metrics.Agree app'.metrics
      (if args.fresh then app'.warn (RateLimiter.checkFreshQuery now) "fresh_rate_limit_warning"
        else app').metrics := by
    intro app'
    split_ifs
    · exact hwarn _ _ app' (.inl rfl)
    · exact .refl app'.metrics
  have hdebug : ∀ app' : AppState governor, Metrics.Agree app'.metrics
      (if args.includeDebug then
        app'.warn (RateLimiter.checkDebugQuery now) "debug_rate_limit_warning" else app').metrics := by
    intro app'
    split_ifs
    · exact hwarn _ _ app' (.inr rfl)
    · exact .refl app'.metrics
  exact (hfresh (app.count (Metrics.incrementRequests args.query))).trans (hdebug _)

/-! ## Requests -/

/-- A request for a lookup. -/
inductive HttpRequest
  | whoisLookup (params : WhoisQuery)
  | whoisLookupPost (payload : WhoisQuery)
  | whoisLookupPath (domain : Text) (params : PathQueryParams)
  | whoisDebug (params : WhoisQuery)
  | whoisDebugPath (domain : Text)

namespace HttpRequest

/-- The query, as it arrives, with what its endpoint makes of the parameters. -/
def args : HttpRequest → LookupArgs
  | whoisLookup params => ⟨params.domain, params.fresh, false⟩
  | whoisLookupPost payload => ⟨payload.domain, payload.fresh, false⟩
  | whoisLookupPath domain params => ⟨domain, params.fresh, false⟩
  | whoisDebug params => ⟨params.domain, true, true⟩
  | whoisDebugPath domain => ⟨domain, true, true⟩

variable {governor : Governor} (parseDnsName : DnsNameParser) (now : Nat)
  (lookup : Text → Bool → Except WhoisError WhoisResponse)

/-- The handler of a request. -/
def handler : HttpRequest → Eff (AppState governor) WhoisError WhoisResponse
  | whoisLookup params => AppState.whoisLookup parseDnsName now lookup params
  | whoisLookupPost payload => AppState.whoisLookupPost parseDnsName now lookup payload
  | whoisLookupPath domain params => AppState.whoisLookupPath parseDnsName now lookup domain params
  | whoisDebug params => AppState.whoisDebug parseDnsName now lookup params
  | whoisDebugPath domain => AppState.whoisDebugPath parseDnsName now lookup domain

/-- A request up to its lookup: the arguments of the lookup, if the query is accepted. -/
def accept (request : HttpRequest) : Eff (AppState governor) WhoisError LookupArgs := do
  let validated ← AppState.validateQueryWithMetrics parseDnsName request.args.query
  let args := { request.args with query := validated.asStr }
  Eff.modify (AppState.beginLookup now args)
  pure args

variable {parseDnsName now lookup} {request : HttpRequest}

theorem accept_of_ok {v : ValidatedQuery}
    (h : ValidatedQuery.new parseDnsName request.args.query = .ok v) (app : AppState governor) :
    request.accept parseDnsName now app = (.ok { request.args with query := v.asStr },
      app.beginLookup now { request.args with query := v.asStr }) := by
  have hv : AppState.validateQueryWithMetrics parseDnsName request.args.query app =
      (.ok v, app) := by
    rw [AppState.validateQueryWithMetrics, h]
  rw [accept, Eff.bind_of_ok hv]
  rfl

theorem accept_of_error {e : WhoisError}
    (h : ValidatedQuery.new parseDnsName request.args.query = .error e) (app : AppState governor) :
    request.accept parseDnsName now app =
      (.error e, app.count (Metrics.incrementErrors (AppState.rejection e))) := by
  have hv : AppState.validateQueryWithMetrics parseDnsName request.args.query app =
      (.error e, app.count (Metrics.incrementErrors (AppState.rejection e))) := by
    rw [AppState.validateQueryWithMetrics, h]
  rw [accept, Eff.bind_of_error hv]

theorem handler_serve (request : HttpRequest) (parseDnsName : DnsNameParser) (now : Nat)
    (lookup : Text → Bool → Except WhoisError WhoisResponse) :
    (request.handler parseDnsName now lookup : Eff (AppState governor) WhoisError WhoisResponse) =
      AppState.serve parseDnsName now lookup request.args.query request.args.fresh
        request.args.includeDebug := by
  cases request <;> rfl

/-- **A handler accepts the request, waits for the lookup, and ends with its outcome.** -/
theorem handler_eq (request : HttpRequest) (parseDnsName : DnsNameParser) (now : Nat)
    (lookup : Text → Bool → Except WhoisError WhoisResponse) :
    request.handler parseDnsName now lookup = (do
      let args ← request.accept parseDnsName now
      AppState.endLookup args (lookup args.query args.bypass) :
        Eff (AppState governor) WhoisError WhoisResponse) := by
  rw [handler_serve]
  funext app
  cases hnew : ValidatedQuery.new parseDnsName request.args.query with
  | error e =>
    rw [Eff.bind_of_error (accept_of_error hnew app)]
    refine Eff.bind_of_error ?_
    rw [AppState.validateQueryWithMetrics, hnew]
  | ok v =>
    have hv : AppState.validateQueryWithMetrics parseDnsName request.args.query app =
        (.ok v, app) := by
      rw [AppState.validateQueryWithMetrics, hnew]
    rw [Eff.bind_of_ok (accept_of_ok hnew app), AppState.serve, Eff.bind_of_ok hv]
    rfl

end HttpRequest

end RustWhois
