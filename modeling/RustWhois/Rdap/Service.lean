import RustWhois.Query
import RustWhois.Rdap.Discovery
import RustWhois.Rdap.Response
import RustWhois.Std.Effect

/-!
# RDAP lookups

`RdapService`: the query over HTTP, and the lookups for domains and IP addresses.

HTTP is an oracle, like the network of the WHOIS service: every `send` is answered according to the
number of those before it, after whatever redirects the client followed. The trace records the answers
that queries ended with; no function of the service reads it.

* `Url`, `rdapUrl`: the URL of a query;
* `queryRdapResource`: the attempts and what each makes of the HTTP status;
* `lookup`, `lookupIp`;
* `Silent`: nothing was added to the trace;
* `Leaves`: a run that returned left one answer in the trace, and one that failed left none;
* **`leaves_lookup`**, **`leaves_lookupIp`**: a lookup makes its result of the one answer in its
  trace.
-/

namespace RustWhois

open Rust

/-! ## HTTP -/

/-- A URL, by what is before its path and the segments of the path; `/` is one empty segment. -/
structure Url where
  origin : Text
  segments : List Text
  /-- The query and the fragment. -/
  tail : Text
  cannotBeABase : Bool
  deriving DecidableEq

/-- A segment behind the path, in the place of the empty one of `/`. -/
def Url.append (self : Url) (segment : Text) : Url :=
  { self with segments := (if self.segments = [[]] then [] else self.segments) ++ [segment] }

structure HttpStatus where
  code : Nat
  reason : Text

/-- `Display`. -/
def HttpStatus.toText (self : HttpStatus) : Text := natText self.code ++ " ".toList ++ self.reason

def HttpStatus.isSuccess (self : HttpStatus) : Bool := 200 ≤ self.code && self.code ≤ 299

/-- What `send` comes back with; the body may fail while it is downloaded. -/
inductive HttpReply
  | failed (msg : Text)
  | answered (status : HttpStatus) (contentLength : Option Nat) (body : Except Text Text)

/-- What the RDAP service runs with. -/
structure RdapEnv where
  config : Config
  clock : Clock
  suffix : SuffixList
  http : Nat → Url → HttpReply
  /-- The clock readings of a call for the bootstrap data. -/
  waits : Nat → Waits
  serde : Serde
  bootstrapFromStr : Text → Except Text RdapBootstrap
  parseUrl : Text → Except Text Url
  /-- `PathSegmentsMut::push`. -/
  pushSegment : Url → Text → Url
  bootstrapUrl : Url

/-- The answer a query ended with. -/
structure RdapAnswer where
  status : LookupStatus
  rawData : Text
  deriving DecidableEq

/-- The shared state of the service, with the number of sends so far and the trace. -/
structure RdapWorld where
  service : RdapState
  now : Nat
  tick : Nat
  trace : List RdapAnswer

abbrev Rdap (α : Type) : Type := Eff RdapWorld WhoisError α

namespace RdapService

def record (a : RdapAnswer) : Rdap Unit := Eff.modify fun w => { w with trace := w.trace ++ [a] }

/-- The index of the next `send`. -/
def nextTick : Rdap Nat := fun w => (.ok w.tick, { w with tick := w.tick + 1 })

/-- `map_err(WhoisError::HttpError)`. -/
def httpResult {α : Type} (r : Except Text α) : Except WhoisError α := r.mapError .httpError

section Env

variable (env : RdapEnv)

/-! ## The server -/

/-- `fetch_bootstrap_data`. -/
def fetchBootstrapData (t : Nat) : Except WhoisError RdapBootstrap :=
  match env.http t env.bootstrapUrl with
  | .failed msg => .error (.httpError msg)
  | .answered status _ body =>
    if status.isSuccess then httpResult (body.bind env.bootstrapFromStr)
    else .error (.internal ("Bootstrap fetch failed with status: ".toList ++ status.toText))

/-- `find_rdap_server`. Its caller is not dropped here, so that it returns
(`findRdapServer_returned`). -/
def findRdapServer (tld : Text) : Rdap Text := do
  let t ← nextTick
  let w ← Eff.reads id
  let times := (env.waits t).times w.now
  let outcome := match fetchBootstrapData env t with
    | .ok data => FetchOutcome.ok data
    | .error e => .error e
  let ((_, result), service) := w.service.findRdapServer times outcome tld
  Eff.modify fun w => { w with service, now := times.done }
  match result with
  | .returned r => Eff.lift r
  | .dropped | .panicked => Eff.throw (.internal "unreachable")

/-! ## The query -/

/-- `MAX_RETRY_ATTEMPTS`. -/
def maxRetryAttempts : Nat := 3

/-- The errors that are worth another attempt. -/
def isTransient : WhoisError → Bool
  | .timeout | .httpError _ => true
  | _ => false

/-- The URL of a query. -/
def rdapUrl (server resourceType query : Text) : Except WhoisError Url :=
  match env.parseUrl server with
  | .error e =>
    .error (.internal ("Invalid RDAP server URL '".toList ++ server ++ "': ".toList ++ e))
  | .ok url =>
    if url.cannotBeABase then
      .error (.internal "Cannot construct RDAP URL (base URL cannot be a base)")
    else .ok (env.pushSegment (env.pushSegment url resourceType) query)

/-- What one attempt makes of a reply. -/
def readReply (resourceType : Text) : HttpReply → Except WhoisError (Text × LookupStatus)
  | .failed msg => .error (.httpError msg)
  | .answered status contentLength body =>
    if status.code = 404 then .ok (body.toOption.getD [], .notFound)
    else if status.code = 429 then
      .error (.rateLimited
        ("RDAP server returned 429 for ".toList ++ resourceType ++ " query".toList))
    else if !status.isSuccess then
      .error (.internal ("RDAP ".toList ++ resourceType ++ " query failed with status: ".toList ++
        status.toText))
    else if contentLength.any (env.config.maxResponseSize < ·) then .error .responseTooLarge
    else match httpResult body with
      | .error e => .error e
      | .ok rawData =>
        if env.config.maxResponseSize < rawData.len then .error .responseTooLarge
        else .ok (rawData, .found)

/-- One attempt, with one `send`. -/
def request (url : Url) (resourceType : Text) : Rdap (Text × LookupStatus) := do
  let t ← nextTick
  Eff.lift (readReply env resourceType (env.http t url))

/-- `query_rdap_resource`. -/
def queryRdapResource (server resourceType query : Text) : Rdap (Text × LookupStatus) := do
  let url ← Eff.lift (rdapUrl env server resourceType query)
  let (rawData, status) ← Eff.retry (request env url resourceType) isTransient maxRetryAttempts
  record ⟨status, rawData⟩
  pure (rawData, status)

/-- `query_rdap_server`. -/
def queryRdapServer (server domain : Text) : Rdap (Text × LookupStatus) :=
  queryRdapResource env server "domain" domain

/-- `query_rdap_server_ip`. -/
def queryRdapServerIp (server ip : Text) : Rdap (Text × LookupStatus) :=
  queryRdapResource env server "ip" ip

/-! ## The lookups -/

/-- The result of an answer; one of "not found" is not parsed. -/
def resultOf (parse : Text → Option ParsedWhoisData × List Text) (server missing : Text)
    (answer : RdapAnswer) : LookupResult :=
  if answer.status = .notFound then
    { server, rawData := answer.rawData, parsedData := none, parsingAnalysis := [missing]
      status := answer.status }
  else
    let (parsedData, parsingAnalysis) := parse answer.rawData
    { server, rawData := answer.rawData, parsedData, parsingAnalysis, status := answer.status }

/-- `lookup`. -/
def lookup (domain : Text) : Rdap LookupResult := do
  let tld ← Eff.lift (extractTld env.suffix domain)
  let rdapServer ← findRdapServer env tld
  let (rawData, status) ← queryRdapServer env rdapServer domain
  pure (resultOf (parseRdapResponse env.serde env.clock) rdapServer
    ("Domain ".toList ++ domain ++ " is not registered (RDAP 404)".toList) ⟨status, rawData⟩)

/-- `lookup_ip`. -/
def lookupIp (ipAddr : Text) : Rdap LookupResult := do
  let validatedIp ← Eff.lift (ValidatedIpAddress.new ipAddr)
  let rir ← Eff.lift (detectRir validatedIp)
  let (rawData, status) ← queryRdapServerIp env rir.rdapServer ipAddr
  pure (resultOf (parseRdapIpResponse env.serde env.clock) rir.rdapServer
    ("IP ".toList ++ ipAddr ++ " has no registration record (RDAP 404)".toList) ⟨status, rawData⟩)

end Env

/-! ## What a lookup leaves in the trace -/

/-- Nothing was added to the trace. -/
def Silent (w w' : RdapWorld) : Prop := w'.trace = w.trace

instance : Std.Refl Silent := ⟨fun _ => rfl⟩

instance : IsTrans RdapWorld Silent := ⟨fun _ _ _ h h' => h'.trans h⟩

theorem silent_nextTick : Eff.Keeps Silent nextTick := fun _ => rfl

theorem silent_findRdapServer (env : RdapEnv) (tld : Text) :
    Eff.Keeps Silent (findRdapServer env tld) := by
  refine silent_nextTick.bind fun t => (Eff.Keeps.reads id).bind fun w => ?_
  dsimp only
  refine Eff.Keeps.bind (R := Silent) (Eff.Keeps.modify fun _ => rfl) fun _ => ?_
  split
  · exact Eff.Keeps.lift _
  · exact Eff.Keeps.throw _
  · exact Eff.Keeps.throw _

theorem silent_request (env : RdapEnv) (url : Url) (resourceType : Text) :
    Eff.Keeps Silent (request env url resourceType) :=
  silent_nextTick.bind fun _ => Eff.Keeps.lift _

/-- A run that returned left one answer in the trace, which its value fits; one that failed left
none. -/
def Leaves {α : Type} (fits : α → RdapAnswer → Prop) (x : Rdap α) : Prop :=
  ∀ w, match x w with
    | (.ok a, w') => ∃ answer, w'.trace = w.trace ++ [answer] ∧ fits a answer
    | (.error _, w') => w'.trace = w.trace

namespace Leaves

variable {α β : Type} {fits : α → RdapAnswer → Prop}

theorem of_ok {x : Rdap α} (h : Leaves fits x) {w w' : RdapWorld} {a : α} (hx : x w = (.ok a, w')) :
    ∃ answer, w'.trace = w.trace ++ [answer] ∧ fits a answer := by
  have hw := h w
  rwa [hx] at hw

theorem of_error {x : Rdap α} (h : Leaves fits x) {w w' : RdapWorld} {e : WhoisError}
    (hx : x w = (.error e, w')) : w'.trace = w.trace := by
  have hw := h w
  rwa [hx] at hw

theorem imp {x : Rdap α} {fits' : α → RdapAnswer → Prop} (h : Leaves fits x)
    (himp : ∀ a answer, fits a answer → fits' a answer) : Leaves fits' x := by
  intro w
  rcases hw : x w with ⟨e | a, w'⟩
  · exact h.of_error hw
  · obtain ⟨answer, htr, hfits⟩ := h.of_ok hw
    exact ⟨answer, htr, himp a answer hfits⟩

theorem bind_silent {x : Rdap β} (hx : Eff.Keeps Silent x) {f : β → Rdap α}
    (hf : ∀ b, Leaves fits (f b)) : Leaves fits (x >>= f) := by
  intro w
  rcases hw : x w with ⟨e | b, w₁⟩
  · rw [Eff.bind_of_error hw]
    exact hx.of_eq hw
  · have htr : w₁.trace = w.trace := hx.of_eq hw
    have hfb := hf b w₁
    rw [Eff.bind_of_ok hw, ← htr]
    exact hfb

theorem bind_pure {x : Rdap β} {fits' : β → RdapAnswer → Prop} (hx : Leaves fits' x) {g : β → α}
    (hg : ∀ b answer, fits' b answer → fits (g b) answer) :
    Leaves fits (x >>= fun b => pure (g b)) := by
  intro w
  rcases hw : x w with ⟨e | b, w₁⟩
  · rw [Eff.bind_of_error hw]
    exact hx.of_error hw
  · obtain ⟨answer, htr, hfits⟩ := hx.of_ok hw
    rw [Eff.bind_of_ok hw]
    exact ⟨answer, htr, hg b answer hfits⟩

theorem record (a : RdapAnswer) {b : α} (h : fits b a) :
    Leaves fits (RdapService.record a >>= fun _ => pure b) := fun _ => ⟨a, rfl, h⟩

end Leaves

section Env

variable (env : RdapEnv)

theorem leaves_queryRdapResource (server resourceType query : Text) :
    Leaves (fun p answer => answer = ⟨p.2, p.1⟩)
      (queryRdapResource env server resourceType query) := by
  refine Leaves.bind_silent (Eff.Keeps.lift _) fun url => ?_
  refine Leaves.bind_silent ((silent_request env url resourceType).retry _ _) fun p => ?_
  exact Leaves.record _ rfl

/-- **A lookup makes its result of the one answer in its trace.** -/
theorem leaves_lookup (domain : Text) :
    Leaves (fun r answer => ∃ server missing,
      r = resultOf (parseRdapResponse env.serde env.clock) server missing answer)
      (lookup env domain) := by
  refine Leaves.bind_silent (Eff.Keeps.lift _) fun tld => ?_
  refine Leaves.bind_silent (silent_findRdapServer env tld) fun rdapServer => ?_
  refine Leaves.bind_pure (leaves_queryRdapResource env rdapServer "domain" domain) ?_
  rintro p answer rfl
  exact ⟨_, _, rfl⟩

theorem leaves_lookupIp (ipAddr : Text) :
    Leaves (fun r answer => ∃ server missing,
      r = resultOf (parseRdapIpResponse env.serde env.clock) server missing answer)
      (lookupIp env ipAddr) := by
  refine Leaves.bind_silent (Eff.Keeps.lift _) fun ip => ?_
  refine Leaves.bind_silent (Eff.Keeps.lift _) fun rir => ?_
  refine Leaves.bind_pure (leaves_queryRdapResource env rir.rdapServer "ip" ipAddr) ?_
  rintro p answer rfl
  exact ⟨_, _, rfl⟩

end Env

end RdapService

end RustWhois
