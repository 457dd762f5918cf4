import RustWhois.Server

/-!
# Requests in flight

The HTTP service as a machine: any number of instances with one backend, and their requests. A request
is accepted, waits for its lookup, as the leader of a key or behind one or past the cache, and is
answered; or it times out, or its client is gone, and its future is dropped. The lookups are the calls
of `Cache/Coalescing`.

* `Request`, `Server`, `serverMachine`: the state and the steps;
* `Coalesced.slotOf`, `Moves`: the call that a request stands for, and what a step makes of it;
* `Tracked`: the calls and the waiting calls are those of the requests in flight;
* **`tracked_final`**: so it is after every run.
-/

namespace RustWhois

open Rust

/-- How a request gets at the outcome of its lookup. -/
inductive Handle
  /-- It fetches past the cache. -/
  | direct
  /-- It runs a call. -/
  | call (c : Nat)
  /-- It waits for the call of another one. -/
  | waiter (w : Nat)
  deriving DecidableEq

/-- A request that waits for its lookup. -/
structure Request where
  i : Nat
  args : LookupArgs
  /-- The query as the lookup validates it once more. -/
  query : ValidatedQuery
  arrivedAt : Nat
  handle : Handle
  deriving DecidableEq

def Request.slot (self : Request) : Slot := (self.i, CacheService.normalizeDomain self.query.asStr)

/-- A cached response is given the time that this request took. -/
def Request.timed (self : Request) (now : Nat) (outcome : Except WhoisError WhoisResponse) :
    Except WhoisError WhoisResponse :=
  outcome.map fun response =>
    if response.cached then
      { response with queryTimeMs := (now - self.arrivedAt) / 1000000 % 2 ^ 64 }
    else response

/-- A response to a request. -/
inductive Reply
  /-- 200. -/
  | json (body : WhoisResponse)
  | error (body : ErrorResponse)
  deriving DecidableEq

/-- The response to the outcome of a handler. -/
def Reply.of : Except WhoisError WhoisResponse → Reply
  | .ok response => .json response
  | .error e => .error e.intoResponse

/-- A response that is sent, with its instance and the number of its request. -/
structure HttpAnswer where
  i : Nat
  request : Nat
  reply : Reply
  deriving DecidableEq

structure Server (governor : Governor) where
  lookups : Coalesced
  apps : Nat → AppState governor
  requests : Nat → Option Request
  /-- The number of the next request. -/
  next : Nat

inductive ServerAction
  | arrive (i : Nat) (request : HttpRequest)
  /-- The call of a request takes a step. -/
  | resume (r : Nat) (step : CallStep) (sole : Bool)
  /-- A request looks at the call it waits for. -/
  | wake (r : Nat) (fresh sole : Bool)
  /-- The fetch of a request that bypasses the cache returns. -/
  | returned (r : Nat) (outcome : Except WhoisError WhoisResponse)
  /-- The time of a request is over. -/
  | timeout (r : Nat)
  /-- The client of a request is gone. -/
  | disconnect (r : Nat)
  /-- An instance drops an entry. -/
  | evict (slot : Slot)

/-- A step, taken `waited` after the last one. -/
structure ServerEvent where
  waited : Nat
  action : ServerAction

/-- `REQUEST_TIMEOUT_SECS`. -/
def requestTimeoutSecs : Nat := 60

/-- What a request waits with after a step of the lookups: a waiting call that is none any more runs
the next call. -/
def Handle.settle (before after : Coalesced) : Handle → Handle
  | .waiter w => if (after.waiters w).isNone then .call before.fleet.next else .waiter w
  | h => h

/-- What a request waits with after a step that answers it, or does not. -/
def Handle.after (h : Handle) (a : Option CallAnswer) (before after : Coalesced) : Option Handle :=
  if a.isSome then none else some (h.settle before after)

namespace Server

variable {governor : Governor}

/-- New instances with one configuration. -/
def new (moka : MokaCalls) (config : Config) (backed : Bool) : Server governor where
  lookups := .new moka config backed
  apps _ := .new
  requests _ := none
  next := 0

variable (parseDnsName : DnsNameParser) (s : Server governor)

def now : Nat := s.lookups.fleet.now

def tick (waited : Nat) : Server governor := { s with lookups := s.lookups.tick waited }

/-- The handler of a request ends with the outcome of its lookup. -/
def conclude (r : Nat) (req : Request) (outcome : Except WhoisError WhoisResponse) :
    Option HttpAnswer × Server governor :=
  let (result, app) := AppState.endLookup req.args outcome (s.apps req.i)
  (some ⟨req.i, r, .of result⟩,
    { s with
      requests := Function.update s.requests r none
      apps := Function.update s.apps req.i app })

/-- What a step of the lookups means for its request. -/
def follow (r : Nat) (req : Request) (step : Option CallAnswer × Coalesced) :
    Option HttpAnswer × Server governor :=
  match step with
  | (some answer, lookups) =>
    { s with lookups }.conclude r req (req.timed s.now answer.result)
  | (none, lookups) => (none,
    { s with
      lookups
      requests := Function.update s.requests r
        (some { req with handle := req.handle.settle s.lookups lookups }) })

/-- The future of a request is dropped. -/
def drop (r : Nat) (req : Request) : Server governor :=
  { s with
    requests := Function.update s.requests r none
    lookups := match req.handle with
      | .direct => s.lookups
      | .call c => (s.lookups.act (.resume c .cancel true)).2
      | .waiter w => (s.lookups.act (.leave w)).2 }

/-- A request arrives; it is refused, answered, or waits for its lookup. -/
def arrive (i : Nat) (request : HttpRequest) : Option HttpAnswer × Server governor :=
  let (accepted, app) := request.accept parseDnsName s.now (s.apps i)
  let next := { s with apps := Function.update s.apps i app, next := s.next + 1 }
  match accepted with
  | .error e => (some ⟨i, s.next, .error e.intoResponse⟩, next)
  | .ok args => match ValidatedQuery.new parseDnsName args.query with
    -- `lookup_with_options` validates the text again
    | .error e => (some ⟨i, s.next, .error e.intoResponse⟩, next)
    | .ok query =>
      if args.bypass then (none,
        { next with
          requests := Function.update s.requests s.next (some ⟨i, args, query, s.now, .direct⟩) })
      else next.follow s.next ⟨i, args, query, s.now, .waiter s.lookups.next⟩
        (s.lookups.act (.start i query.asStr))

/-- A request is accepted. -/
def accepted (i : Nat) (args : LookupArgs) : Server governor :=
  { s with
    apps := Function.update s.apps i ((s.apps i).beginLookup s.now args)
    next := s.next + 1 }

/-- A step, at its time; one that is not of its request does nothing. -/
def act : ServerAction → Option HttpAnswer × Server governor
  | .arrive i request => s.arrive parseDnsName i request
  | .resume r step sole => match s.requests r with
    | some req => match req.handle, step with
      | .call _, .cancel => (none, s)
      | .call c, step => s.follow r req (s.lookups.act (.resume c step sole))
      | _, _ => (none, s)
    | none => (none, s)
  | .wake r fresh sole => match s.requests r with
    | some req => match req.handle with
      | .waiter w => s.follow r req (s.lookups.act (.wake w fresh sole))
      | _ => (none, s)
    | none => (none, s)
  | .returned r outcome => match s.requests r with
    | some req => match req.handle with
      | .direct => s.conclude r req outcome
      | _ => (none, s)
    | none => (none, s)
  | .timeout r => match s.requests r with
    | some req =>
      if req.arrivedAt + fromSecs requestTimeoutSecs ≤ s.now then
        let (error, app) := AppState.handleTimeoutError .elapsed (s.apps req.i)
        (some ⟨req.i, r, .error error⟩,
          { s.drop r req with apps := Function.update s.apps req.i app })
      else (none, s)
    | none => (none, s)
  | .disconnect r => match s.requests r with
    | some req => (none, s.drop r req)
    | none => (none, s)
  | .evict slot => (none, { s with lookups := (s.lookups.act (.evict slot)).2 })

end Server

/-- The HTTP service. -/
def serverMachine {governor : Governor} (parseDnsName : DnsNameParser) :
    Machine (Server governor) ServerEvent (Option HttpAnswer) where
  next s e := (s.tick e.waited).act parseDnsName e.action

@[simp] theorem serverMachine_next {governor : Governor} (parseDnsName : DnsNameParser)
    (s : Server governor) (e : ServerEvent) :
    (serverMachine parseDnsName).next s e = (s.tick e.waited).act parseDnsName e.action := rfl

/-! ## Calls and their requests -/

namespace Coalesced

/-- The slot of a call in flight, or of a waiting call. -/
def slotOf (s : Coalesced) : Handle → Option Slot
  | .direct => none
  | .call c => (s.fleet.calls c).map FleetCall.slot
  | .waiter w => (s.waiters w).map Waiter.slot

/-- What a step makes of the call or waiting call `h` on the slot: it is over, or stands as `after`. No
other one changes. -/
structure Moves (s : Coalesced) (h : Handle) (slot : Slot) (after : Option Handle) (s' : Coalesced) :
    Prop where
  others : ∀ k, k ≠ h → after ≠ some k → s'.slotOf k = s.slotOf k
  gone : after ≠ some h → s'.slotOf h = none
  stands : ∀ k, after = some k → k ≠ .direct ∧ s'.slotOf k = some slot
  fresh : ∀ k, after = some k → k ≠ h → s.slotOf k = none

variable {s s' : Coalesced} {a : Option CallAnswer}

theorem slotOf_update_waiter {moka : MokaCalls} {w : Nat} {waiter : Option Waiter} {fleet : Fleet}
    {next : Nat} {landed : Nat → Option (Except WhoisError WhoisResponse)}
    (hcalls : fleet.calls = s.fleet.calls) {k : Handle} (hk : k ≠ .waiter w) :
    slotOf ⟨moka, fleet, Function.update s.waiters w waiter, next, landed⟩ k = s.slotOf k := by
  cases k with
  | direct => rfl
  | call c => simp only [slotOf, hcalls]
  | waiter w' =>
    have hne : w' ≠ w := fun heq => hk (by rw [heq])
    simp only [slotOf, Function.update_of_ne hne]

/-- **A call that looks its key up is answered, waits, or leads.** -/
theorem Joins.moves {w i : Nat} {domain : Text} (hj : Joins s w i domain a s')
    (hunused : s.fleet.calls s.fleet.next = none) :
    Moves s (.waiter w) (i, CacheService.normalizeDomain domain) ((Handle.waiter w).after a s s')
      s' := by
  cases hj with
  | hit live =>
    show Moves s _ _ none _
    refine ⟨fun k hk _ => slotOf_update_waiter rfl hk, fun _ => ?_, by simp, by simp⟩
    simp [slotOf]
  | @waits c busy =>
    have hafter : (Handle.waiter w).after none s
        { s with waiters := Function.update s.waiters w (some ⟨i, domain, c⟩) } =
          some (.waiter w) := by
      simp [Handle.after, Handle.settle]
    rw [hafter]
    refine ⟨fun k hk _ => slotOf_update_waiter rfl hk, by simp, ?_, ?_⟩
    · rintro k hk
      obtain rfl : Handle.waiter w = k := by simpa using hk
      exact ⟨by simp, by simp [slotOf, Waiter.slot]⟩
    · rintro k hk hne
      exact absurd (by simpa using hk.symm) hne
  | leads miss free =>
    have hafter : (Handle.waiter w).after none s
        { s with
          fleet := s.fleet.lead (i, CacheService.normalizeDomain domain)
          waiters := Function.update s.waiters w none } = some (.call s.fleet.next) := by
      simp [Handle.after, Handle.settle]
    rw [hafter]
    refine ⟨fun k hk hafter => ?_, fun _ => by simp [slotOf], ?_, ?_⟩
    · cases k with
      | direct => rfl
      | call c =>
        have hne : c ≠ s.fleet.next := by
          rintro rfl
          exact hafter rfl
        simp only [slotOf, Fleet.lead, Function.update_of_ne hne]
      | waiter w' =>
        have hne : w' ≠ w := fun heq => hk (by rw [heq])
        simp only [slotOf, Function.update_of_ne hne]
    · rintro k hk
      obtain rfl : Handle.call s.fleet.next = k := by simpa using hk
      exact ⟨by simp, by simp [slotOf, Fleet.lead]⟩
    · rintro k hk -
      obtain rfl : Handle.call s.fleet.next = k := by simpa using hk
      simp [slotOf, hunused]

end Coalesced

namespace Fleet

variable {s : Fleet} {c : Nat} {step : CallStep}

theorem calls_resume_of_ne {c' : Nat} (h : c' ≠ c) :
    (s.act (.resume c step)).2.calls c' = s.calls c' := by
  rcases hrun : s.calls c with _ | call
  · simp only [act, hrun]
  simp only [act, hrun, resume]
  split
  · next answer _ =>
    simp only [ask]
    split
    · exact Function.update_of_ne h _ _
    · cases call.kind <;> exact Function.update_of_ne h _ _
  · exact Function.update_of_ne h _ _
  · next outcome _ => cases outcome <;> exact Function.update_of_ne h _ _
  · exact Function.update_of_ne h _ _
  · exact Function.update_of_ne h _ _
  · exact Function.update_of_ne h _ _
  · rfl

theorem calls_resume_self {call : FleetCall} (hrun : s.calls c = some call)
    (hkind : call.kind = .getOrFetch) (hland : s.landing c step = none) (hstep : step ≠ .cancel) :
    ∃ call', (s.act (.resume c step)).2.calls c = some call' ∧ call'.slot = call.slot := by
  obtain ⟨kind, slot, phase⟩ := call
  obtain rfl : kind = .getOrFetch := hkind
  have hproceed : ∀ phase', ∃ call',
      (s.proceed c ⟨.getOrFetch, slot, phase⟩ phase').calls c = some call' ∧ call'.slot = slot :=
    fun phase' => ⟨_, Function.update_self _ _ _, rfl⟩
  simp only [landing, hrun] at hland
  simp only [act, hrun, resume]
  split
  · next answer =>
    simp only [ask]
    split <;> exact hproceed _
  · cases hland
  · next outcome =>
    cases outcome with
    | error e => cases hland
    | ok r => exact hproceed _
  · exact hproceed _
  · cases hland
  · exact absurd rfl hstep
  · exact ⟨_, hrun, rfl⟩

end Fleet

namespace Coalesced

variable {s : Coalesced}

theorem moves_resume (h : s.Attended) {c : Nat} {call : FleetCall} {step : CallStep} {sole : Bool}
    (hrun : s.fleet.calls c = some call) (hstep : step ≠ .cancel) :
    Moves s (.call c) call.slot
      ((Handle.call c).after (s.act (.resume c step sole)).1 s (s.act (.resume c step sole)).2)
      (s.act (.resume c step sole)).2 := by
  have hothers : ∀ k, k ≠ .call c → slotOf (s.act (.resume c step sole)).2 k = s.slotOf k := by
    intro k hk
    cases k with
    | direct => rfl
    | waiter w =>
      simp only [act, resume]
      split <;> rfl
    | call c' =>
      have hne : c' ≠ c := fun heq => hk (by rw [heq])
      have hcalls : (s.act (.resume c step sole)).2.fleet = (s.fleet.act (.resume c step)).2 :=
        fleet_resume s c step sole
      simp only [slotOf, hcalls, Fleet.calls_resume_of_ne hne]
  have hfleet : (s.act (.resume c step sole)).2.fleet = (s.fleet.act (.resume c step)).2 :=
    fleet_resume s c step sole
  rcases hland : s.fleet.landing c step with _ | outcome
  · have hquiet : (s.act (.resume c step sole)).1 = none := by
      simp only [act, resume, hrun, hland]
    have hkind := h.exclusive.led.kind c call hrun
    obtain ⟨call', hcall', hslot⟩ := Fleet.calls_resume_self hrun hkind hland hstep
    rw [hquiet]
    refine ⟨fun k hk _ => hothers k hk, fun hne => absurd rfl hne, ?_, ?_⟩
    · rintro k hk
      obtain rfl : Handle.call c = k := Option.some.inj hk
      refine ⟨by simp, ?_⟩
      simp only [slotOf, hfleet, hcall', Option.map_some, hslot]
    · rintro k hk hne
      exact absurd (Option.some.inj hk).symm hne
  · have hloud : ((s.act (.resume c step sole)).1).isSome := by
      simp only [act, resume, hrun, hland, Option.isSome_some]
    rw [Handle.after, if_pos hloud]
    refine ⟨fun k hk _ => hothers k hk, fun _ => ?_, by simp, by simp⟩
    simp only [slotOf, hfleet, Fleet.calls_of_landing hland, Option.map_none]

theorem moves_cancel {c : Nat} {call : FleetCall} (hrun : s.fleet.calls c = some call) :
    Moves s (.call c) call.slot none (s.act (.resume c .cancel true)).2 := by
  have hfleet : (s.act (.resume c .cancel true)).2.fleet = (s.fleet.act (.resume c .cancel)).2 :=
    fleet_resume s c .cancel true
  refine ⟨fun k hk _ => ?_, fun _ => ?_, by simp, by simp⟩
  · cases k with
    | direct => rfl
    | waiter w =>
      simp only [act, resume]
      split <;> rfl
    | call c' =>
      have hne : c' ≠ c := fun heq => hk (by rw [heq])
      simp only [slotOf, hfleet, Fleet.calls_resume_of_ne hne]
  · simp [slotOf, hfleet, Fleet.act, hrun, Fleet.resume, Fleet.release]

theorem moves_leave {w : Nat} {waiter : Waiter} :
    Moves s (.waiter w) waiter.slot none (s.act (.leave w)).2 := by
  refine ⟨fun k hk _ => slotOf_update_waiter rfl hk, fun _ => ?_, by simp, by simp⟩
  simp [act, slotOf]

theorem moves_wake (h : s.Attended) {w : Nat} {waiter : Waiter} {fresh sole : Bool}
    (hw : s.waiters w = some waiter) :
    Moves s (.waiter w) waiter.slot
      ((Handle.waiter w).after (s.act (.wake w fresh sole)).1 s (s.act (.wake w fresh sole)).2)
      (s.act (.wake w fresh sole)).2 := by
  rw [act]
  rcases hlanded : s.landed waiter.leader with _ | outcome
  · rcases hcall : s.fleet.calls waiter.leader with _ | call
    · rw [wake_of_dropped fresh sole hw hlanded hcall]
      exact (joins_join s w waiter.i waiter.domain).moves (h.exclusive.led.unused _ (Nat.le_refl _)).1
    · rw [wake_of_flying fresh sole hw hlanded hcall]
      have hafter : (Handle.waiter w).after none s s = some (.waiter w) := by
        simp [Handle.after, Handle.settle, hw]
      dsimp only
      rw [hafter]
      refine ⟨fun k _ _ => rfl, fun hne => absurd rfl hne, ?_, ?_⟩
      · rintro k hk
        obtain rfl : Handle.waiter w = k := Option.some.inj hk
        exact ⟨by simp, by simp [slotOf, hw]⟩
      · rintro k hk hne
        exact absurd (Option.some.inj hk).symm hne
  · rw [wake_of_landed fresh sole hw hlanded]
    show Moves s _ _ none _
    refine ⟨fun k hk _ => slotOf_update_waiter rfl hk, fun _ => ?_, by simp, by simp⟩
    simp [slotOf]

theorem moves_start (h : s.Attended) (i : Nat) (domain : Text) :
    Moves s (.waiter s.next) (i, CacheService.normalizeDomain domain)
      ((Handle.waiter s.next).after (s.act (.start i domain)).1 s (s.act (.start i domain)).2)
      (s.act (.start i domain)).2 := by
  have hslot : ∀ k, slotOf { s with next := s.next + 1 } k = s.slotOf k := by
    intro k
    cases k <;> rfl
  obtain ⟨others, gone, stands, fresh⟩ :=
    (joins_join { s with next := s.next + 1 } s.next i domain).moves
      (h.exclusive.led.unused _ (Nat.le_refl _)).1
  exact ⟨fun k hk ha => (others k hk ha).trans (hslot k), gone, stands,
    fun k ha hk => (hslot k).symm.trans (fresh k ha hk)⟩

/-- A call that looks its key up is answered for the key. -/
theorem Joins.slot_of {s' : Coalesced} {w i : Nat} {domain : Text} {answer : CallAnswer}
    (hj : Joins s w i domain (some answer) s') :
    answer.slot = (i, CacheService.normalizeDomain domain) := by
  cases hj
  rfl

theorem slot_of_resume {c : Nat} {call : FleetCall} {step : CallStep} {sole : Bool}
    {answer : CallAnswer} (hrun : s.fleet.calls c = some call)
    (h : (s.act (.resume c step sole)).1 = some answer) : answer.slot = call.slot := by
  simp only [act, resume, hrun] at h
  split at h
  · next hcall _ =>
    cases hcall
    cases h
    rfl
  · cases h

theorem slot_of_wake {w : Nat} {waiter : Waiter} {fresh sole : Bool} {answer : CallAnswer}
    (hw : s.waiters w = some waiter) (h : (s.act (.wake w fresh sole)).1 = some answer) :
    answer.slot = waiter.slot := by
  rw [act] at h
  rcases hlanded : s.landed waiter.leader with _ | outcome
  · rcases hcall : s.fleet.calls waiter.leader with _ | call
    · rw [wake_of_dropped fresh sole hw hlanded hcall] at h
      have hj := joins_join s w waiter.i waiter.domain
      rw [h] at hj
      exact hj.slot_of
    · rw [wake_of_flying fresh sole hw hlanded hcall] at h
      cases h
  · rw [wake_of_landed fresh sole hw hlanded] at h
    cases h
    rfl

theorem slot_of_start {i : Nat} {domain : Text} {answer : CallAnswer}
    (h : (s.act (.start i domain)).1 = some answer) :
    answer.slot = (i, CacheService.normalizeDomain domain) := by
  have hj := joins_join { s with next := s.next + 1 } s.next i domain
  rw [act] at h
  rw [h] at hj
  exact hj.slot_of

/-- Numbers from the next one on are not those of waiting calls. -/
def Numbered (s : Coalesced) : Prop := ∀ w, s.next ≤ w → s.waiters w = none

theorem Joins.numbered {s' : Coalesced} {a : Option CallAnswer} {w i : Nat} {domain : Text}
    (hj : Joins s w i domain a s') (h : Numbered s) (hw : w < s.next) : Numbered s' := by
  intro w' hle
  cases hj with
  | hit live =>
    dsimp only at hle ⊢
    rw [Function.update_of_ne (by omega), h w' hle]
  | waits busy =>
    dsimp only at hle ⊢
    rw [Function.update_of_ne (by omega), h w' hle]
  | leads miss free =>
    dsimp only at hle ⊢
    rw [Function.update_of_ne (by omega), h w' hle]

theorem numbered_act (h : Numbered s) (action : CoalescedAction) : Numbered (s.act action).2 := by
  have hremoved : ∀ {w : Nat}, Numbered { s with waiters := Function.update s.waiters w none } := by
    intro w w' hle
    show Function.update s.waiters w none w' = none
    rw [Function.update_apply, h w' hle, ite_self]
  cases action with
  | start i domain =>
    refine (joins_join { s with next := s.next + 1 } s.next i domain).numbered (fun w hle => h w ?_)
      (Nat.lt_succ_self _)
    exact Nat.le_of_succ_le hle
  | resume c step sole =>
    rw [act, resume]
    split <;> exact h
  | leave w => exact hremoved
  | evict slot => exact h
  | wake w fresh sole =>
    rw [act, wake]
    split
    · next waiter hw =>
      have hlt : w < s.next := by
        by_contra hle
        rw [h w (Nat.le_of_not_lt hle)] at hw
        cases hw
      split
      · exact hremoved
      · exact h
      · exact (joins_join s w waiter.i waiter.domain).numbered h hlt
    · exact h

end Coalesced

namespace Server

variable {governor : Governor} {s : Server governor}

/-- The calls and the waiting calls are those of the requests in flight, one each. -/
structure Tracked (s : Server governor) : Prop where
  attended : s.lookups.Attended
  alive : ∀ r req, s.requests r = some req → req.handle ≠ .direct →
    s.lookups.slotOf req.handle = some req.slot
  owned : ∀ k slot, s.lookups.slotOf k = some slot → ∃ r req, s.requests r = some req ∧ req.handle = k
  sole : ∀ r r' req req', s.requests r = some req → s.requests r' = some req' →
    req.handle = req'.handle → req.handle ≠ .direct → r = r'
  unused : ∀ r, s.next ≤ r → s.requests r = none
  numbered : s.lookups.Numbered

/-- **A step of the lookup of one request keeps track of all.** -/
theorem Tracked.moves (h : Tracked s) {r : Nat} {req : Request} {after : Option Handle}
    {lookups : Coalesced} {next : Nat} {apps : Nat → AppState governor}
    (hm : s.lookups.Moves req.handle req.slot after lookups) (hattended : lookups.Attended)
    (hnumbered : lookups.Numbered)
    (hmine : ∀ r' req', s.requests r' = some req' → (req'.handle = req.handle ↔ r' = r))
    (hnext : s.next ≤ next) (hr : r < next) :
    Tracked ⟨lookups, apps,
      Function.update s.requests r (after.map fun handle => { req with handle }), next⟩ := by
  -- the other requests stand for calls and waiting calls that the step leaves alone
  have hothers : ∀ {r' req'}, r' ≠ r → s.requests r' = some req' → req'.handle ≠ .direct →
      req'.handle ≠ req.handle ∧ after ≠ some req'.handle := by
    intro r' req' hne h' hkind
    have hkeep : req'.handle ≠ req.handle := fun heq => hne ((hmine r' req' h').mp heq)
    refine ⟨hkeep, fun hafter => ?_⟩
    have hold := h.alive r' req' h' hkind
    rw [hm.fresh _ hafter hkeep] at hold
    cases hold
  have hupdated : ∀ {r' req'}, Function.update s.requests r
      (after.map fun handle => { req with handle }) r' = some req' →
      (r' = r ∧ ∃ k, after = some k ∧ req' = { req with handle := k }) ∨
        r' ≠ r ∧ s.requests r' = some req' := by
    intro r' req' h'
    rcases eq_or_ne r' r with rfl | hne
    · rw [Function.update_self] at h'
      obtain ⟨k, hafter, rfl⟩ := Option.map_eq_some_iff.mp h'
      exact .inl ⟨rfl, k, hafter, rfl⟩
    · rw [Function.update_of_ne hne] at h'
      exact .inr ⟨hne, h'⟩
  refine ⟨hattended, ?_, ?_, ?_, ?_, hnumbered⟩
  · intro r' req' h' hkind
    rcases hupdated h' with ⟨rfl, k, hafter, rfl⟩ | ⟨hne, h'⟩
    · exact (hm.stands k hafter).2
    · obtain ⟨hkeep, hafter⟩ := hothers hne h' hkind
      dsimp only
      rw [hm.others req'.handle hkeep hafter]
      exact h.alive r' req' h' hkind
  · intro k slot hk
    dsimp only at hk ⊢
    by_cases hafter : after = some k
    · refine ⟨r, { req with handle := k }, ?_, rfl⟩
      rw [Function.update_self, hafter, Option.map_some]
    by_cases heq : k = req.handle
    · subst heq
      rw [hm.gone hafter] at hk
      cases hk
    · rw [hm.others k heq hafter] at hk
      obtain ⟨r', req', h', rfl⟩ := h.owned k slot hk
      have hne : r' ≠ r := fun hr' => heq ((hmine r' req' h').mpr hr')
      exact ⟨r', req', by rw [Function.update_of_ne hne, h'], rfl⟩
  · intro r₁ r₂ req₁ req₂ h₁ h₂ heq hkind
    have hkind₂ : req₂.handle ≠ .direct := fun hdirect => hkind (heq.trans hdirect)
    rcases hupdated h₁ with ⟨hr₁, k₁, hafter₁, rfl⟩ | ⟨hne₁, hold₁⟩
    · rcases hupdated h₂ with ⟨hr₂, -⟩ | ⟨hne₂, hold₂⟩
      · rw [hr₁, hr₂]
      · have hafter := (hothers hne₂ hold₂ hkind₂).2
        rw [← heq] at hafter
        exact absurd hafter₁ hafter
    · rcases hupdated h₂ with ⟨hr₂, k₂, hafter₂, rfl⟩ | ⟨hne₂, hold₂⟩
      · have hafter := (hothers hne₁ hold₁ hkind).2
        rw [heq] at hafter
        exact absurd hafter₂ hafter
      · exact h.sole r₁ r₂ req₁ req₂ hold₁ hold₂ heq hkind
  · intro r' hle
    dsimp only at hle ⊢
    rw [Function.update_of_ne (by omega)]
    exact h.unused r' (by omega)

/-- What is known of a step on behalf of request `r`. -/
structure Steps (s : Server governor) (r : Nat) (req : Request) (action : CoalescedAction) : Prop where
  moves : s.lookups.Moves req.handle req.slot
    (req.handle.after (s.lookups.act action).1 s.lookups (s.lookups.act action).2)
    (s.lookups.act action).2
  slot : ∀ answer, (s.lookups.act action).1 = some answer → answer.slot = req.slot
  mine : ∀ r' req', s.requests r' = some req' → (req'.handle = req.handle ↔ r' = r)
  lt : r < s.next

theorem Tracked.follow (h : Tracked s) {r : Nat} {req : Request} {action : CoalescedAction}
    (hs : Steps s r req action) : Tracked (s.follow r req (s.lookups.act action)).2 := by
  have hattended := Coalesced.attended_act h.attended (Coalesced.acts_act s.lookups action)
  have hnumbered := Coalesced.numbered_act h.numbered action
  obtain ⟨hm, -, hmine, hlt⟩ := hs
  generalize s.lookups.act action = step at *
  obtain ⟨_ | answer, lookups⟩ := step
  · exact h.moves hm hattended hnumbered hmine (Nat.le_refl _) hlt
  · exact h.moves hm hattended hnumbered hmine (Nat.le_refl _) hlt

/-- The request of a number, with the call or waiting call that it stands for, is the only one. -/
theorem Tracked.mine (h : Tracked s) {r : Nat} {req : Request} (hr : s.requests r = some req)
    (hkind : req.handle ≠ .direct) (r' : Nat) (req' : Request) (hr' : s.requests r' = some req') :
    req'.handle = req.handle ↔ r' = r := by
  constructor
  · intro heq
    exact h.sole r' r req' req hr' hr heq (by rw [heq]; exact hkind)
  · rintro rfl
    rw [Option.some.inj (hr.symm.trans hr')]

theorem Tracked.lt_next (h : Tracked s) {r : Nat} {req : Request} (hr : s.requests r = some req) :
    r < s.next := by
  by_contra hle
  rw [h.unused r (Nat.le_of_not_lt hle)] at hr
  cases hr

theorem Tracked.over (h : Tracked s) {r : Nat} {req : Request} (hr : s.requests r = some req)
    (hdirect : req.handle = .direct) (apps : Nat → AppState governor) :
    Tracked { s with apps, requests := Function.update s.requests r none } := by
  refine ⟨h.attended, ?_, ?_, ?_, ?_, h.numbered⟩
  · intro r' req' h' hkind
    exact h.alive r' req' (of_update_none h').2 hkind
  · intro k slot hk
    obtain ⟨r', req', h', rfl⟩ := h.owned k slot hk
    have hne : r' ≠ r := by
      rintro rfl
      rw [Option.some.inj (h'.symm.trans hr), hdirect] at hk
      cases hk
    exact ⟨r', req', (Function.update_of_ne hne _ _).trans h', rfl⟩
  · intro r₁ r₂ req₁ req₂ h₁ h₂ heq hkind
    exact h.sole r₁ r₂ req₁ req₂ (of_update_none h₁).2 (of_update_none h₂).2 heq hkind
  · intro r' hle
    show Function.update s.requests r none r' = none
    rw [Function.update_apply, h.unused r' hle, ite_self]

theorem Tracked.drop (h : Tracked s) {r : Nat} {req : Request} (hr : s.requests r = some req)
    (apps : Nat → AppState governor) : Tracked { s.drop r req with apps } := by
  rcases hhandle : req.handle with _ | c | w
  · simp only [Server.drop, hhandle]
    exact h.over hr hhandle apps
  all_goals
    have hkind : req.handle ≠ .direct := by
      rw [hhandle]
      rintro ⟨⟩
    have halive := h.alive r req hr hkind
    rw [hhandle] at halive
    obtain ⟨call, hcall, hslot⟩ := Option.map_eq_some_iff.mp halive
    have hmoves : ∀ action, s.lookups.Moves req.handle req.slot none (s.lookups.act action).2 →
        Tracked ⟨(s.lookups.act action).2, apps, Function.update s.requests r none, s.next⟩ :=
      fun action hm => h.moves hm (Coalesced.attended_act h.attended (Coalesced.acts_act _ _))
        (Coalesced.numbered_act h.numbered _) (h.mine hr hkind) (Nat.le_refl _) (h.lt_next hr)
    simp only [Server.drop, hhandle]
    refine hmoves _ ?_
    rw [hhandle, ← hslot]
  · exact Coalesced.moves_cancel hcall
  · exact Coalesced.moves_leave

/-! ## What a step can do -/

/-- The steps, each with its answer and what it does. -/
inductive Acts (parseDnsName : DnsNameParser) (s : Server governor) :
    ServerAction → Option HttpAnswer × Server governor → Prop
  | idle {action : ServerAction} (comes : ∀ i request, action ≠ .arrive i request)
    (goes : ∀ r req, action = .disconnect r → s.requests r ≠ some req) :
    Acts parseDnsName s action (none, s)
  | refused {i : Nat} {request : HttpRequest} {e : WhoisError}
    (invalid : ValidatedQuery.new parseDnsName request.args.query = .error e) :
    Acts parseDnsName s (.arrive i request)
      (some ⟨i, s.next, .error e.intoResponse⟩,
        { s with
          apps := Function.update s.apps i
            ((s.apps i).count (Metrics.incrementErrors (AppState.rejection e)))
          next := s.next + 1 })
  | rejected {i : Nat} {request : HttpRequest} {v : ValidatedQuery} {e : WhoisError}
    (valid : ValidatedQuery.new parseDnsName request.args.query = .ok v)
    (invalid : ValidatedQuery.new parseDnsName v.asStr = .error e) :
    Acts parseDnsName s (.arrive i request)
      (some ⟨i, s.next, .error e.intoResponse⟩, s.accepted i { request.args with query := v.asStr })
  | bypassed {i : Nat} {request : HttpRequest} {v query : ValidatedQuery}
    (valid : ValidatedQuery.new parseDnsName request.args.query = .ok v)
    (again : ValidatedQuery.new parseDnsName v.asStr = .ok query)
    (bypass : request.args.bypass = true) :
    Acts parseDnsName s (.arrive i request)
      (none,
        { s.accepted i { request.args with query := v.asStr } with
          requests := Function.update s.requests s.next
            (some ⟨i, { request.args with query := v.asStr }, query, s.now, .direct⟩) })
  | started {i : Nat} {request : HttpRequest} {v query : ValidatedQuery}
    (valid : ValidatedQuery.new parseDnsName request.args.query = .ok v)
    (again : ValidatedQuery.new parseDnsName v.asStr = .ok query)
    (bypass : request.args.bypass = false) :
    Acts parseDnsName s (.arrive i request)
      ((s.accepted i { request.args with query := v.asStr }).follow s.next
        ⟨i, { request.args with query := v.asStr }, query, s.now, .waiter s.lookups.next⟩
        (s.lookups.act (.start i query.asStr)))
  | resumed {r c : Nat} {req : Request} {step : CallStep} {sole : Bool}
    (waits : s.requests r = some req) (handle : req.handle = .call c) (goes : step ≠ .cancel) :
    Acts parseDnsName s (.resume r step sole)
      (s.follow r req (s.lookups.act (.resume c step sole)))
  | woken {r w : Nat} {req : Request} {fresh sole : Bool}
    (waits : s.requests r = some req) (handle : req.handle = .waiter w) :
    Acts parseDnsName s (.wake r fresh sole) (s.follow r req (s.lookups.act (.wake w fresh sole)))
  | returned {r : Nat} {req : Request} {outcome : Except WhoisError WhoisResponse}
    (waits : s.requests r = some req) (handle : req.handle = .direct) :
    Acts parseDnsName s (.returned r outcome) (s.conclude r req outcome)
  | timedOut {r : Nat} {req : Request} (waits : s.requests r = some req)
    (late : req.arrivedAt + fromSecs requestTimeoutSecs ≤ s.now) :
    Acts parseDnsName s (.timeout r)
      (some ⟨req.i, r, .error ⟨408, "Request timed out"⟩⟩,
        { s.drop r req with
          apps := Function.update s.apps req.i
            ((s.apps req.i).count (Metrics.incrementErrors "request_timeout")) })
  | disconnected {r : Nat} {req : Request} (waits : s.requests r = some req) :
    Acts parseDnsName s (.disconnect r) (none, s.drop r req)
  | evicted (slot : Slot) :
    Acts parseDnsName s (.evict slot) (none, { s with lookups := (s.lookups.act (.evict slot)).2 })

/-- **A step is one of these.** -/
theorem acts_act (parseDnsName : DnsNameParser) (s : Server governor) (action : ServerAction) :
    Acts parseDnsName s action (s.act parseDnsName action) := by
  cases action with
  | arrive i request =>
    simp only [act, arrive]
    cases hv : ValidatedQuery.new parseDnsName request.args.query with
    | error e =>
      rw [HttpRequest.accept_of_error hv]
      exact .refused hv
    | ok v =>
      rw [HttpRequest.accept_of_ok hv]
      dsimp only
      cases hagain : ValidatedQuery.new parseDnsName v.asStr with
      | error e => exact .rejected hv hagain
      | ok query =>
        dsimp only
        split_ifs with hbypass
        · exact .bypassed hv hagain hbypass
        · exact .started hv hagain (eq_false_of_ne_true hbypass)
  | resume r step sole =>
    rw [act]
    rcases hr : s.requests r with _ | req
    · exact .idle (by rintro _ _ ⟨⟩) (by rintro _ _ ⟨⟩)
    dsimp only
    split
    · exact .idle (by rintro _ _ ⟨⟩) (by rintro _ _ ⟨⟩)
    · next hhandle hne => exact .resumed hr hhandle hne
    · exact .idle (by rintro _ _ ⟨⟩) (by rintro _ _ ⟨⟩)
  | wake r fresh sole =>
    rw [act]
    rcases hr : s.requests r with _ | req
    · exact .idle (by rintro _ _ ⟨⟩) (by rintro _ _ ⟨⟩)
    dsimp only
    split
    · next w hhandle => exact .woken hr hhandle
    · exact .idle (by rintro _ _ ⟨⟩) (by rintro _ _ ⟨⟩)
  | returned r outcome =>
    rw [act]
    rcases hr : s.requests r with _ | req
    · exact .idle (by rintro _ _ ⟨⟩) (by rintro _ _ ⟨⟩)
    dsimp only
    split
    · next hhandle => exact .returned hr hhandle
    · exact .idle (by rintro _ _ ⟨⟩) (by rintro _ _ ⟨⟩)
  | timeout r =>
    rw [act]
    rcases hr : s.requests r with _ | req
    · exact .idle (by rintro _ _ ⟨⟩) (by rintro _ _ ⟨⟩)
    dsimp only
    split_ifs with hlate
    · exact .timedOut hr hlate
    · exact .idle (by rintro _ _ ⟨⟩) (by rintro _ _ ⟨⟩)
  | disconnect r =>
    rw [act]
    rcases hr : s.requests r with _ | req
    · refine .idle (by rintro _ _ ⟨⟩) ?_
      rintro r' req ⟨⟩
      rw [hr]
      rintro ⟨⟩
    · exact .disconnected hr
  | evict slot => exact .evicted slot

theorem Tracked.accepted (h : Tracked s) (apps : Nat → AppState governor) :
    Tracked { s with apps, next := s.next + 1 } :=
  ⟨h.attended, h.alive, h.owned, h.sole, fun r hle => h.unused r (Nat.le_of_succ_le hle), h.numbered⟩

theorem Tracked.steps_start (h : Tracked s) {i : Nat} {args : LookupArgs} {query : ValidatedQuery} :
    Steps (s.accepted i args) s.next ⟨i, args, query, s.now, .waiter s.lookups.next⟩
      (.start i query.asStr) := by
  refine ⟨Coalesced.moves_start h.attended i query.asStr, fun _ => Coalesced.slot_of_start,
    fun r' req' h' => ?_, Nat.lt_succ_self _⟩
  constructor
  · intro heq
    have halive := h.alive r' req' h' (by rw [heq]; rintro ⟨⟩)
    rw [heq, Coalesced.slotOf, h.numbered _ (Nat.le_refl _)] at halive
    cases halive
  · rintro rfl
    cases h'.symm.trans (h.unused s.next (Nat.le_refl _))

theorem Tracked.steps_resume (h : Tracked s) {r c : Nat} {req : Request} {step : CallStep}
    {sole : Bool} (hr : s.requests r = some req) (hhandle : req.handle = .call c)
    (hstep : step ≠ .cancel) : Steps s r req (.resume c step sole) := by
  have hkind : req.handle ≠ .direct := by
    rw [hhandle]
    rintro ⟨⟩
  have halive := h.alive r req hr hkind
  rw [hhandle] at halive
  obtain ⟨call, hcall, hslot⟩ := Option.map_eq_some_iff.mp halive
  refine ⟨?_, fun _ hout => (Coalesced.slot_of_resume hcall hout).trans hslot, h.mine hr hkind,
    h.lt_next hr⟩
  rw [hhandle, ← hslot]
  exact Coalesced.moves_resume h.attended hcall hstep

theorem Tracked.steps_wake (h : Tracked s) {r w : Nat} {req : Request} {fresh sole : Bool}
    (hr : s.requests r = some req) (hhandle : req.handle = .waiter w) :
    Steps s r req (.wake w fresh sole) := by
  have hkind : req.handle ≠ .direct := by
    rw [hhandle]
    rintro ⟨⟩
  have halive := h.alive r req hr hkind
  rw [hhandle] at halive
  obtain ⟨waiter, hw, hslot⟩ := Option.map_eq_some_iff.mp halive
  refine ⟨?_, fun _ hout => (Coalesced.slot_of_wake hw hout).trans hslot, h.mine hr hkind,
    h.lt_next hr⟩
  rw [hhandle, ← hslot]
  exact Coalesced.moves_wake h.attended hw

theorem Tracked.evicted (h : Tracked s) (slot : Slot) :
    Tracked { s with lookups := (s.lookups.act (.evict slot)).2 } :=
  ⟨Coalesced.attended_act h.attended (Coalesced.acts_act s.lookups (.evict slot)), h.alive, h.owned,
    h.sole, h.unused, h.numbered⟩

theorem Tracked.bypassed (h : Tracked s) {req : Request} (hdirect : req.handle = .direct)
    (apps : Nat → AppState governor) :
    Tracked ⟨s.lookups, apps, Function.update s.requests s.next (some req), s.next + 1⟩ := by
  refine ⟨h.attended, ?_, ?_, ?_, ?_, h.numbered⟩
  · intro r req' h' hkind
    rcases of_update_some h' with ⟨-, rfl⟩ | ⟨-, h'⟩
    · exact absurd hdirect hkind
    · exact h.alive r req' h' hkind
  · intro k slot hk
    obtain ⟨r, req', h', rfl⟩ := h.owned k slot hk
    have hne : r ≠ s.next := Nat.ne_of_lt (h.lt_next h')
    exact ⟨r, req', (Function.update_of_ne hne _ _).trans h', rfl⟩
  · intro r₁ r₂ req₁ req₂ h₁ h₂ heq hkind
    rcases of_update_some h₁ with ⟨-, rfl⟩ | ⟨-, h₁⟩
    · exact absurd hdirect hkind
    · rcases of_update_some h₂ with ⟨-, rfl⟩ | ⟨-, h₂⟩
      · exact absurd (heq.trans hdirect) hkind
      · exact h.sole r₁ r₂ req₁ req₂ h₁ h₂ heq hkind
  · intro r hle
    have hlt : s.next + 1 ≤ r := hle
    show Function.update s.requests s.next (some req) r = none
    rw [Function.update_of_ne (by omega), h.unused r (by omega)]

/-- **A step keeps track of the requests.** -/
theorem tracked_act (h : Tracked s) {parseDnsName : DnsNameParser} {action : ServerAction}
    {result : Option HttpAnswer × Server governor} (ha : Acts parseDnsName s action result) :
    Tracked result.2 := by
  cases ha with
  | idle => exact h
  | refused invalid => exact h.accepted _
  | rejected valid invalid => exact h.accepted _
  | bypassed valid again bypass => exact h.bypassed rfl _
  | started valid again bypass => exact (h.accepted _).follow h.steps_start
  | resumed waits handle goes => exact h.follow (h.steps_resume waits handle goes)
  | woken waits handle => exact h.follow (h.steps_wake waits handle)
  | returned waits handle => exact h.over waits handle _
  | timedOut waits late => exact h.drop waits _
  | disconnected waits => exact h.drop waits s.apps
  | evicted slot => exact h.evicted slot

/-! ## Every run -/

theorem tracked_new (moka : MokaCalls) (config : Config) (backed : Bool) :
    Tracked (new moka config backed : Server governor) := by
  refine ⟨Coalesced.attended_new moka config backed, by rintro _ _ ⟨⟩, ?_, by rintro _ _ _ _ ⟨⟩,
    fun _ _ => rfl, fun _ _ => rfl⟩
  intro k slot hk
  cases k <;> cases hk

theorem Tracked.tick (h : Tracked s) (waited : Nat) : Tracked (s.tick waited) :=
  ⟨h.attended.tick waited, h.alive, h.owned, h.sole, h.unused, h.numbered⟩

theorem Tracked.next (h : Tracked s) (parseDnsName : DnsNameParser) (e : ServerEvent) :
    Tracked ((serverMachine parseDnsName).next s e).2 :=
  tracked_act (h.tick e.waited) (acts_act parseDnsName _ e.action)

theorem tracked_final (parseDnsName : DnsNameParser) (moka : MokaCalls) (config : Config)
    (backed : Bool) (es : List ServerEvent) :
    Tracked ((serverMachine parseDnsName).final (.new moka config backed : Server governor) es) :=
  Machine.final_of_step (fun _ e h => h.next parseDnsName e) (tracked_new moka config backed) es

end Server

end RustWhois
