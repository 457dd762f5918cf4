import RustWhois.Std.Effect
import RustWhois.BufferPool
import RustWhois.Dates
import RustWhois.Query

/-!
# WHOIS over the network

The part of `WhoisService` that talks to servers: connecting, sending the query line and reading the
answer, for registry servers and for referral servers.

The network is an oracle (`Network`): every operation is answered according to the number of
operations before it, so an arbitrary oracle is an arbitrary, time-varying behaviour of all servers.
A semaphore only delays a query and is left out. The state carries a trace of what was done
(`Event`); no function of the service reads it.

* `connectToWhoisServer`, `connectToReferralServer`, `sendQuery`, `readWhoisResponse`;
* `rawWhoisQuery`, `discoveryWhoisQuery`, `referralWhoisQuery`: whole queries;
* `Wire`: only connections and sent bytes were added to the trace;
* **`executeWhoisQuery_spec`**, **`referralWhoisQuery_spec`**: what a query leaves in the trace.
-/

namespace RustWhois

open Rust

/-- What an operation on a socket comes back with; `pending` if its deadline passes first. -/
inductive Io (α : Type)
  | ready (a : α)
  | failed (msg : Text)
  | pending

/-- `timeout(..).await??`. -/
def Io.result {α : Type} : Io α → Except WhoisError α
  | ready a => .ok a
  | failed msg => .error (.ioError msg)
  | pending => .error .timeout

/-- The servers and the DNS: the answer to an operation, by the number of operations before. -/
structure Network where
  lookupHost : Nat → Text → Io (List IpAddr)
  connect : Nat → IpAddr → Io Unit
  write : Nat → List UInt8 → Except Text Unit
  /-- The next bytes from the server, of which at most the given number are taken. -/
  read : Nat → Nat → Io (List UInt8)
  /-- A deadline has passed. -/
  elapsed : Nat → Bool

/-- What a service runs with. -/
structure Env where
  config : Config
  net : Network
  clock : Clock
  suffix : SuffixList

inductive QueryKind
  | raw
  | discovery
  | referral
  deriving DecidableEq

/-- What a service does to the outside. -/
inductive Event
  | connected (host : Text) (addr : IpAddr)
  | sent (bytes : List UInt8)
  | referralQuery (server query : Text)
  | answered (kind : QueryKind) (server query answer : Text)
  deriving DecidableEq

/-- The shared state of a service, with the number of network operations so far and the trace. -/
structure World where
  tldServers : Text → Option Text
  pool : BufferPool
  tick : Nat
  trace : List Event

abbrev Whois (α : Type) : Type := Eff World WhoisError α

def record (e : Event) : Whois Unit := Eff.modify fun w => { w with trace := w.trace ++ [e] }

/-- The index of the next network operation. -/
def nextTick : Whois Nat := fun w => (.ok w.tick, { w with tick := w.tick + 1 })

theorem bind_record {α : Type} (e : Event) (f : Unit → Whois α) (w : World) :
    (record e >>= f) w = f () { w with trace := w.trace ++ [e] } := rfl

theorem bind_nextTick {α : Type} (f : Nat → Whois α) (w : World) :
    (nextTick >>= f) w = f w.tick { w with tick := w.tick + 1 } := rfl

/-! ## Connecting -/

section Env

variable (env : Env)

/-- `TcpStream::connect` to the first address that answers. -/
def connectAny (host lastErr : Text) : List IpAddr → Whois (Io Unit)
  | [] => pure (.failed lastErr)
  | addr :: addrs => do
    let t ← nextTick
    match env.net.connect t addr with
    | .ready () => do
      record (.connected host addr)
      pure (.ready ())
    | .failed msg => connectAny host msg addrs
    | .pending => pure .pending

/-- `TcpStream::connect((server, WHOIS_PORT))`. -/
def connectHost (server : Text) : Whois (Io Unit) := do
  let t ← nextTick
  match env.net.lookupHost t server with
  | .ready addrs => connectAny env server "could not resolve to any address" addrs
  | .failed msg => pure (.failed msg)
  | .pending => pure .pending

/-- `test_whois_server`. -/
def testWhoisServer (server : Text) : Whois Bool := do
  match ← connectHost env server with
  | .ready () => pure true
  | .failed _ => pure false
  | .pending => pure false

/-- `connect_to_whois_server`. -/
def connectToWhoisServer (server : Text) : Whois Unit := do
  let stream ← connectHost env server
  Eff.lift stream.result

/-- The addresses `connect_to_referral_server` keeps of a DNS answer. -/
def publicAddrs (resolved : List IpAddr) : List IpAddr :=
  resolved.filter fun addr => !isPrivateOrSpecial addr

/-- `connect_to_referral_server`. -/
def connectToReferralServer (server : Text) : Whois Unit := do
  let t ← nextTick
  let resolved ← Eff.lift (env.net.lookupHost t server).result
  if (publicAddrs resolved).isEmpty then
    Eff.throw (.internal ("Referral server ".toList ++ server ++
      " resolves to private address space".toList))
  else do
    let stream ← connectAny env server "could not resolve to any address" (publicAddrs resolved)
    Eff.lift stream.result

/-! ## Sending and reading -/

/-- The line that carries a query. -/
def queryLine (query : Text) : List UInt8 := asBytes (query ++ ['\r', '\n'])

/-- `send_query`. -/
def sendQuery (query : Text) : Whois Unit := do
  record (.sent (queryLine query))
  let t ← nextTick
  match env.net.write t (queryLine query) with
  | .ok () => pure ()
  | .error msg => Eff.throw (.ioError msg)

/-- The read loop, with the buffer it ends with. The number bounds the reads that are left: every
read but the last brings a byte, and the response may not outgrow `max_response_size`. -/
def readLoop : Nat → Buffer → List UInt8 → Whois (Except WhoisError (List UInt8) × Buffer)
  | 0, buffer, _ => pure (.error .responseTooLarge, buffer)
  | n + 1, buffer, response => do
    let t ← nextTick
    -- total timeout, against servers that send one byte per read timeout
    if env.net.elapsed t then pure (.error .timeout, buffer)
    else do
      let t ← nextTick
      match env.net.read t buffer.bytes.length with
      | .pending => pure (.error .timeout, buffer)
      | .failed msg => pure (.error (.ioError msg), buffer)
      | .ready bytes =>
        let chunk := bytes.take buffer.bytes.length
        if chunk.isEmpty then pure (.ok response, buffer)
        else
          let buffer := buffer.fill chunk
          let response := response ++ buffer.bytes.take chunk.length
          if env.config.maxResponseSize < response.length then
            pure (.error .responseTooLarge, buffer)
          else readLoop n buffer response

/-- `String::from_utf8` under `map_err`. -/
def decodeResponse (response : List UInt8) : Except WhoisError Text :=
  match fromUtf8 response with
  | some s => .ok s
  | none => .error .invalidUtf8

/-- `read_whois_response`. -/
def readWhoisResponse : Whois Text := do
  let size := env.config.bufferSize
  let pool ← Eff.reads World.pool
  let (buffer, pool) := PooledBuffer.take pool size
  Eff.modify fun w => { w with pool }
  let (response, buffer) ← readLoop env (env.config.maxResponseSize + 1) buffer []
  Eff.modify fun w => { w with pool := PooledBuffer.drop w.pool size buffer }
  Eff.lift (response.bind decodeResponse)

/-! ## Queries -/

/-- `MAX_RETRY_ATTEMPTS`. -/
def maxRetryAttempts : Nat := 3

/-- The errors that are worth another attempt. -/
def isTransient : WhoisError → Bool
  | .timeout | .ioError _ => true
  | _ => false

/-- One attempt: the query over a new connection. -/
def exchange (connect : Whois Unit) (query : Text) : Whois Text := do
  connect
  sendQuery env query
  readWhoisResponse env

/-- `execute_whois_query`. -/
def executeWhoisQuery (kind : QueryKind) (server query : Text) : Whois Text := do
  let answer ←
    Eff.retry (exchange env (connectToWhoisServer env server) query) isTransient maxRetryAttempts
  record (.answered kind server query answer)
  pure answer

/-- `raw_whois_query`. -/
def rawWhoisQuery (server query : Text) : Whois Text := executeWhoisQuery env .raw server query

/-- `discovery_whois_query`. -/
def discoveryWhoisQuery (server query : Text) : Whois Text :=
  executeWhoisQuery env .discovery server query

/-- `timeout(budget, x).await?`: the budget can run out while `x` waits. -/
def withBudget {α : Type} (x : Whois α) : Whois α := do
  let r ← Eff.attempt x
  let t ← nextTick
  if env.net.elapsed t then Eff.throw .timeout else Eff.lift r

/-- `referral_whois_query`. -/
def referralWhoisQuery (server query : Text) : Whois Text := do
  record (.referralQuery server query)
  let answer ← withBudget env (exchange env (connectToReferralServer env server) query)
  record (.answered .referral server query answer)
  pure answer

end Env

/-- **The read loop never exhausts its bound**: more of it changes nothing. -/
theorem readLoop_add (env : Env) (k : Nat) : ∀ (n : Nat) (buffer : Buffer) (response : List UInt8),
    response.length ≤ env.config.maxResponseSize →
    env.config.maxResponseSize < n + response.length →
    readLoop env (n + k) buffer response = readLoop env n buffer response
  | 0, _, _, hle, hlt => by omega
  | n + 1, buffer, response, hle, hlt => by
    rw [Nat.add_right_comm, readLoop, readLoop]
    refine congrArg (nextTick >>= ·) (funext fun t => ?_)
    split_ifs
    · rfl
    refine congrArg (nextTick >>= ·) (funext fun t => ?_)
    rcases env.net.read t buffer.bytes.length with bytes | msg | _
    · dsimp only
      split_ifs with hempty hlarge
      · rfl
      · rfl
      · rw [Buffer.take_fill, List.length_append] at hlarge
        have hpos : 0 < (bytes.take buffer.bytes.length).length :=
          List.length_pos_iff.mpr (by simpa using hempty)
        exact readLoop_add env k n _ _ (by rw [Buffer.take_fill, List.length_append]; omega)
          (by rw [Buffer.take_fill, List.length_append]; omega)
    · rfl
    · rfl

/-! ## A network to run on -/

/-- A network on which every operation succeeds. The bytes read by an operation are those listed
under its number; the others read the end of the stream. -/
def Network.playing (replies : List (Nat × Text)) : Network where
  lookupHost _ _ := .ready [.v4 ⟨8, 8, 8, 8⟩]
  connect _ _ := .ready ()
  write _ _ := .ok ()
  read t _ := .ready (asBytes ((replies.lookup t).getD []))
  elapsed _ := false

/-- The settings of the crate's tests, with small buffers. -/
def Config.small : Config where
  port := 3000
  whoisTimeoutSeconds := 30
  maxResponseSize := 4096
  cacheTtlSeconds := 3600
  negativeCacheTtlSeconds := 300
  cacheMaxEntries := 100
  maxReferrals := 5
  discoveryTimeoutSeconds := 10
  concurrentWhoisQueries := 4
  bufferPoolSize := 10
  bufferSize := 256

/-- A service on that network on 1 January 2020. No suffix is listed. -/
def Env.playing (replies : List (Nat × Text)) : Env where
  config := .small
  net := .playing replies
  clock := .using rfc3339Libs (18262 * dayNanos)
  suffix _ := none

/-- The state of a new service that knows the servers. -/
def World.knowing (servers : List (Text × Text)) : World where
  tldServers tld := servers.lookup tld
  pool := ⟨[], 10⟩
  tick := 0
  trace := []

/-! ## What an operation leaves in the trace -/

/-- Connections and sent bytes. -/
def Event.isWire : Event → Bool
  | connected _ _ | sent _ => true
  | referralQuery _ _ | answered _ _ _ _ => false

/-- The server cache is as before, and only connections and sent bytes were added to the trace. -/
def Wire (w w' : World) : Prop :=
  w'.tldServers = w.tldServers ∧ ∃ t, (∀ e ∈ t, e.isWire = true) ∧ w'.trace = w.trace ++ t

namespace Wire

instance : Std.Refl Wire := ⟨fun w => ⟨rfl, [], by simp, by simp⟩⟩

instance : IsTrans World Wire := ⟨by
  rintro w₁ w₂ w₃ ⟨hs, t, ht, htr⟩ ⟨hs', t', ht', htr'⟩
  refine ⟨hs'.trans hs, t ++ t', ?_, by rw [htr', htr, List.append_assoc]⟩
  intro e he
  rcases List.mem_append.mp he with h | h
  · exact ht e h
  · exact ht' e h⟩

open Eff (Keeps)

variable {env : Env}

theorem record {e : Event} (he : e.isWire = true) : Keeps Wire (record e) :=
  Keeps.modify fun w => ⟨rfl, [e], by simpa using he, rfl⟩

theorem nextTick : Keeps Wire nextTick := fun w => ⟨rfl, [], by simp, (List.append_nil _).symm⟩

theorem connectAny (host : Text) : ∀ (lastErr : Text) (addrs : List IpAddr),
    Keeps Wire (connectAny env host lastErr addrs)
  | _, [] => Keeps.pure _
  | lastErr, addr :: addrs => by
    rw [RustWhois.connectAny]
    refine nextTick.bind fun t => ?_
    cases env.net.connect t addr with
    | ready _ => exact (record rfl).bind fun _ => Keeps.pure _
    | failed msg => exact connectAny host msg addrs
    | pending => exact Keeps.pure _

theorem connectHost (server : Text) : Keeps Wire (connectHost env server) := by
  refine nextTick.bind fun t => ?_
  cases env.net.lookupHost t server with
  | ready addrs => exact connectAny server _ addrs
  | failed msg => exact Keeps.pure _
  | pending => exact Keeps.pure _

theorem testWhoisServer (server : Text) : Keeps Wire (testWhoisServer env server) := by
  refine (connectHost server).bind fun r => ?_
  cases r <;> exact Keeps.pure _

theorem connectToWhoisServer (server : Text) : Keeps Wire (connectToWhoisServer env server) :=
  (connectHost server).bind fun _ => Keeps.lift _

theorem connectToReferralServer (server : Text) :
    Keeps Wire (connectToReferralServer env server) := by
  refine nextTick.bind fun t => (Keeps.lift _).bind fun resolved => ?_
  split_ifs
  · exact Keeps.throw _
  · exact (connectAny server _ _).bind fun _ => Keeps.lift _

theorem sendQuery (query : Text) : Keeps Wire (sendQuery env query) := by
  refine (record rfl).bind fun _ => nextTick.bind fun t => ?_
  cases env.net.write t (queryLine query) with
  | ok _ => exact Keeps.pure _
  | error msg => exact Keeps.throw _

theorem readLoop : ∀ (n : Nat) (buffer : Buffer) (response : List UInt8),
    Keeps Wire (readLoop env n buffer response)
  | 0, _, _ => Keeps.pure _
  | n + 1, buffer, response => by
    rw [RustWhois.readLoop]
    refine nextTick.bind fun t => ?_
    split_ifs
    · exact Keeps.pure _
    refine nextTick.bind fun t => ?_
    cases env.net.read t buffer.bytes.length with
    | ready bytes =>
      dsimp only
      split_ifs
      · exact Keeps.pure _
      · exact Keeps.pure _
      · exact readLoop n _ _
    | failed msg => exact Keeps.pure _
    | pending => exact Keeps.pure _

theorem readWhoisResponse : Keeps Wire (readWhoisResponse env) := by
  have hpool : ∀ f : World → BufferPool,
      Keeps Wire (Eff.modify fun w => { w with pool := f w } : Whois Unit) :=
    fun f => Keeps.modify fun w => ⟨rfl, [], by simp, by simp⟩
  exact (Keeps.reads _).bind fun pool => (hpool _).bind fun _ => (readLoop _ _ _).bind fun r =>
    (hpool _).bind fun _ => Keeps.lift _

theorem exchange {connect : Whois Unit} (h : Keeps Wire connect) (query : Text) :
    Keeps Wire (exchange env connect query) :=
  h.bind fun _ => (sendQuery query).bind fun _ => readWhoisResponse

theorem withBudget {α : Type} {x : Whois α} (hx : Keeps Wire x) :
    Keeps Wire (withBudget env x) := by
  refine hx.attempt.bind fun r => nextTick.bind fun t => ?_
  split_ifs
  · exact Keeps.throw _
  · exact Keeps.lift _

end Wire

/-! ## Queries in the trace -/

/-- The servers to which a referral query was issued. -/
def issued (t : List Event) : List Text :=
  t.filterMap fun
    | .referralQuery server _ => some server
    | _ => none

/-- The answers to queries of a kind, with the servers that gave them. -/
def answers (kind : QueryKind) (t : List Event) : List (Text × Text) :=
  t.filterMap fun
    | .answered k server _ answer => if k = kind then some (server, answer) else none
    | _ => none

/-- The event of a query that was answered. -/
def answerEvent (kind : QueryKind) (server query : Text) : Except WhoisError Text → List Event
  | .ok answer => [.answered kind server query answer]
  | .error _ => []

@[simp] theorem issued_append (t t' : List Event) : issued (t ++ t') = issued t ++ issued t' :=
  List.filterMap_append

@[simp] theorem answers_append (kind : QueryKind) (t t' : List Event) :
    answers kind (t ++ t') = answers kind t ++ answers kind t' :=
  List.filterMap_append

theorem issued_wire {t : List Event} (h : ∀ e ∈ t, e.isWire = true) : issued t = [] := by
  refine List.filterMap_eq_nil_iff.mpr fun e he => ?_
  have := h e he
  cases e <;> first | rfl | cases this

theorem answers_wire {t : List Event} (h : ∀ e ∈ t, e.isWire = true) (kind : QueryKind) :
    answers kind t = [] := by
  refine List.filterMap_eq_nil_iff.mpr fun e he => ?_
  have := h e he
  cases e <;> first | rfl | cases this

@[simp] theorem issued_answerEvent (kind : QueryKind) (server query : Text)
    (r : Except WhoisError Text) : issued (answerEvent kind server query r) = [] := by
  cases r <;> rfl

theorem answers_answerEvent_ok (kind : QueryKind) (server query answer : Text) :
    answers kind (answerEvent kind server query (.ok answer)) = [(server, answer)] :=
  List.filterMap_cons_some (if_pos rfl)

theorem answers_answerEvent_of_ne {kind kind' : QueryKind} (h : kind ≠ kind') (server query : Text)
    (r : Except WhoisError Text) : answers kind' (answerEvent kind server query r) = [] := by
  cases r with
  | ok answer => exact List.filterMap_cons_none (if_neg h)
  | error e => rfl

section Spec

variable {env : Env} {kind : QueryKind} {server query : Text} {w w' : World}
  {r : Except WhoisError Text}

theorem record_spec {x : Whois Text} {e : Text → Event} (hx : Eff.Keeps Wire x)
    (h : (do let answer ← x; record (e answer); pure answer : Whois Text) w = (r, w')) :
    w'.tldServers = w.tldServers ∧ ∃ t, (∀ e ∈ t, e.isWire = true) ∧
      w'.trace = w.trace ++ t ++ match r with | .ok a => [e a] | .error _ => [] := by
  rcases h1 : x w with ⟨f | a, w₁⟩
  · rw [Eff.bind_of_error h1] at h
    cases h
    obtain ⟨hs, t, ht, htr⟩ := hx.of_eq h1
    exact ⟨hs, t, ht, by simpa using htr⟩
  · rw [Eff.bind_of_ok h1] at h
    cases h
    obtain ⟨hs, t, ht, htr⟩ := hx.of_eq h1
    exact ⟨hs, t, ht, congrArg (· ++ [e a]) htr⟩

/-- **A registry query adds wire events and its answer.** -/
theorem executeWhoisQuery_spec (h : executeWhoisQuery env kind server query w = (r, w')) :
    w'.tldServers = w.tldServers ∧ ∃ t, (∀ e ∈ t, e.isWire = true) ∧
      w'.trace = w.trace ++ t ++ answerEvent kind server query r := by
  have hx : Eff.Keeps Wire (exchange env (connectToWhoisServer env server) query) :=
    Wire.exchange (Wire.connectToWhoisServer server) query
  obtain ⟨hs, t, ht, htr⟩ := record_spec (hx.retry isTransient maxRetryAttempts) h
  refine ⟨hs, t, ht, ?_⟩
  cases r <;> exact htr

/-- **A referral query adds its own event, wire events and its answer.** -/
theorem referralWhoisQuery_spec (h : referralWhoisQuery env server query w = (r, w')) :
    w'.tldServers = w.tldServers ∧ ∃ t, (∀ e ∈ t, e.isWire = true) ∧
      w'.trace = w.trace ++ .referralQuery server query :: t ++
        answerEvent .referral server query r := by
  have hx : Eff.Keeps Wire (exchange env (connectToReferralServer env server) query) :=
    Wire.exchange (Wire.connectToReferralServer server) query
  obtain ⟨hs, t, ht, htr⟩ := record_spec (Wire.withBudget hx) ((bind_record _ _ w).symm.trans h)
  refine ⟨hs, t, ht, ?_⟩
  rw [htr]
  cases r <;> simp [answerEvent]

end Spec

end RustWhois
