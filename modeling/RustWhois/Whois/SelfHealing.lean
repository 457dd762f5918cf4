import RustWhois.Std.Machine
import RustWhois.Whois.Lookup

/-!
# Lookups in flight

Concurrent calls of `WhoisService::lookup`. The machine interleaves them: each access to
`tld_servers` under its lock is one step, and so is the end of each discovery and each query, with any
outcome. A call can be dropped wherever it awaits.

* `Lookups`, `lookupsMachine`: the calls in flight and their steps;
* **`runs_queryRegistry`**: the steps of one call in a row are the call;
* `Rightful`: a step that removes an entry only if a query of its own call to that server failed;
* `OwnEntry`: the entry that a step removes is the one its call found failing;
* `rightful_iff`: the steps of a run are rightful exactly if those that remove an entry remove their
  own.
-/

namespace RustWhois

open Rust

/-! ## Calls in flight -/

/-- What a call does next. -/
inductive LookupPhase
  /-- `tld_servers` has no entry; a server is discovered. -/
  | discovering
  /-- A server was discovered; it is inserted unless there is one. -/
  | entering (server : Text)
  | querying (server : Text)
  /-- The query failed; the entry is purged. -/
  | purging (failed : Text)
  | rediscovering (failed : Text)
  | retrying (failed server : Text)
  /-- The rediscovered server has answered; it is inserted. -/
  | storing (failed server : Text)
  deriving DecidableEq

namespace LookupPhase

/-- The server whose query is awaited. -/
def asked : LookupPhase → Option Text
  | querying server | retrying _ server => some server
  | _ => none

/-- The server whose query failed. -/
def failed : LookupPhase → Option Text
  | purging failed | rediscovering failed | retrying failed _ | storing failed _ => some failed
  | _ => none

/-- The call has purged the entry. -/
def purged : LookupPhase → Bool
  | rediscovering _ | retrying _ _ | storing _ _ => true
  | _ => false

/-- The entry as the call has left it. -/
def entry : LookupPhase → Option Text
  | querying server | purging server => some server
  | _ => none

end LookupPhase

structure LookupCall where
  tld : Text
  phase : LookupPhase
  deriving DecidableEq

/-- The servers that are known and the calls in flight. -/
structure Lookups where
  tldServers : Text → Option Text
  calls : Nat → Option LookupCall
  /-- The number of the next call. -/
  next : Nat

/-- A step of a call in flight. -/
inductive LookupMove
  | discovered (server : Option Text)
  | enter
  /-- The query ends, with an answer or without. -/
  | answered (ok : Bool)
  | purge
  | store
  /-- The future of the call is dropped. -/
  | cancel
  deriving DecidableEq

inductive LookupAction
  | start (tld : Text)
  | resume (call : Nat) (move : LookupMove)
  deriving DecidableEq

namespace Lookups

/-- A service that knows the servers, with no call in flight. -/
def knowing (servers : Text → Option Text) : Lookups := ⟨servers, fun _ => none, 0⟩

variable (s : Lookups)

/-- The call goes on with the next phase, or is over. -/
def goOn (c : Nat) (call : Option LookupCall) : Lookups :=
  { s with calls := Function.update s.calls c call }

def withEntry (tld : Text) (server : Option Text) : Lookups :=
  { s with tldServers := Function.update s.tldServers tld server }

/-- The look into `tld_servers`. -/
def start (tld : Text) : Lookups :=
  let phase := match s.tldServers tld with
    | some server => .querying server
    | none => .discovering
  { s.goOn s.next (some ⟨tld, phase⟩) with next := s.next + 1 }

/-- The insertion of a discovered server, unless another call was faster. -/
def enter (tld server : Text) : Lookups :=
  if (s.tldServers tld).isSome then s else s.withEntry tld (some server)

theorem calls_enter (tld server : Text) : (s.enter tld server).calls = s.calls := by
  unfold enter
  split_ifs <;> rfl

theorem next_enter (tld server : Text) : (s.enter tld server).next = s.next := by
  unfold enter
  split_ifs <;> rfl

/-- A step of a call in flight, with the server that the call returns with, if it ends; one that is
not its next step does nothing. -/
def resume (c : Nat) (tld : Text) (phase : LookupPhase) (move : LookupMove) :
    Option (Option Text) × Lookups :=
  match move, phase with
  | .discovered (some server), .discovering => (none, s.goOn c (some ⟨tld, .entering server⟩))
  | .discovered none, .discovering => (some none, s.goOn c none)
  | .enter, .entering server =>
    (none, (s.enter tld server).goOn c (some ⟨tld, .querying server⟩))
  | .answered true, .querying server => (some (some server), s.goOn c none)
  | .answered false, .querying server => (none, s.goOn c (some ⟨tld, .purging server⟩))
  | .purge, .purging failed =>
    (none, (s.withEntry tld none).goOn c (some ⟨tld, .rediscovering failed⟩))
  | .discovered (some server), .rediscovering failed =>
    if server ≠ failed then (none, s.goOn c (some ⟨tld, .retrying failed server⟩))
    else (some none, s.goOn c none)
  | .discovered none, .rediscovering _ => (some none, s.goOn c none)
  | .answered true, .retrying failed server =>
    (none, s.goOn c (some ⟨tld, .storing failed server⟩))
  | .answered false, .retrying _ _ => (some none, s.goOn c none)
  | .store, .storing _ server =>
    (some (some server), (s.withEntry tld (some server)).goOn c none)
  | .cancel, _ => (none, s.goOn c none)
  | _, _ => (none, s)

/-- A step, and the server that a call returns with. -/
def act : LookupAction → Option (Option Text) × Lookups
  | .start tld => (none, s.start tld)
  | .resume c move => match s.calls c with
    | some call => s.resume c call.tld call.phase move
    | none => (none, s)

/-- The call, the TLD and the server of a query that fails in the step. -/
def failing : LookupAction → Option (Nat × Text × Text)
  | .resume c (.answered false) =>
    (s.calls c).bind fun call => call.phase.asked.map fun server => (c, call.tld, server)
  | _ => none

end Lookups

abbrev LookupStep : Type := Machine.Step Lookups LookupAction (Option (Option Text))

def lookupsMachine : Machine Lookups LookupAction (Option (Option Text)) where
  next s action := s.act action

@[simp] theorem lookupsMachine_next (s : Lookups) (action : LookupAction) :
    lookupsMachine.next s action = s.act action := rfl

/-! ## Calls without interruption -/

/-- What neither discoveries nor queries change. -/
def SameServers (w w' : World) : Prop := w'.tldServers = w.tldServers

namespace SameServers

instance : Std.Refl SameServers := ⟨fun _ => rfl⟩

instance : IsTrans World SameServers := ⟨fun _ _ _ h h' => h'.trans h⟩

variable {env : Env}

theorem executeWhoisQuery (kind : QueryKind) (server query : Text) :
    Eff.Keeps SameServers (executeWhoisQuery env kind server query) :=
  fun _ => (executeWhoisQuery_spec rfl).1

theorem discoverWhoisServerDynamic (tld : Text) :
    Eff.Keeps SameServers (discoverWhoisServerDynamic env tld) :=
  keeps_discover (fun server w => (Wire.testWhoisServer server w).1)
    (executeWhoisQuery .discovery) tld

end SameServers

section Find

variable (env : Env) {tld server : Text} {w : World}

theorem findWhoisServer_of_entry (hentry : w.tldServers tld = some server) :
    findWhoisServer env tld w = (.ok server, w) := by
  unfold findWhoisServer
  rw [Eff.bind_of_ok (Eff.reads_apply _ _), hentry]
  rfl

theorem findWhoisServer_of_found (hentry : w.tldServers tld = none)
    (hfound : (discoverWhoisServerDynamic env tld w).1.toOption.join = some server) :
    findWhoisServer env tld w =
      (.ok server, { (discoverWhoisServerDynamic env tld w).2 with
        tldServers := Function.update w.tldServers tld (some server) }) := by
  have hsame : (discoverWhoisServerDynamic env tld w).2.tldServers = w.tldServers :=
    SameServers.discoverWhoisServerDynamic tld w
  unfold findWhoisServer
  rw [Eff.bind_of_ok (Eff.reads_apply _ _), hentry]
  dsimp only
  rcases hd : discoverWhoisServerDynamic env tld w with ⟨e | found, w₁⟩
  · rw [hd] at hfound
    cases hfound
  rw [hd] at hfound hsame
  obtain rfl : found = some server := hfound
  have hmiss : w₁.tldServers tld = none := (congrFun hsame tld).trans hentry
  rw [Eff.bind_of_ok hd]
  dsimp only
  rw [Eff.bind_of_ok (Eff.modify_apply _ _), hmiss, Option.isSome_none,
    if_neg Bool.false_ne_true]
  dsimp only at hsame
  rw [hsame]
  rfl

theorem findWhoisServer_of_not_found (hentry : w.tldServers tld = none)
    (hfound : (discoverWhoisServerDynamic env tld w).1.toOption.join = none) :
    ∃ e, findWhoisServer env tld w = (.error e, (discoverWhoisServerDynamic env tld w).2) := by
  unfold findWhoisServer
  rw [Eff.bind_of_ok (Eff.reads_apply _ _), hentry]
  dsimp only
  rcases hd : discoverWhoisServerDynamic env tld w with ⟨e | found, w₁⟩
  · exact ⟨e, Eff.bind_of_error hd⟩
  · rw [hd] at hfound
    obtain rfl : found = none := hfound
    rw [Eff.bind_of_ok hd]
    exact ⟨_, rfl⟩

end Find

/-- The query to the server that was found, and the self-healing retry. -/
def askRegistry (env : Env) (tld domain server : Text) : Whois (Text × Text) := do
  match ← Eff.attempt (rawWhoisQuery env server domain) with
  | .ok data => pure (server, data)
  | .error e => rediscoverAndRetry env tld server domain e

theorem queryRegistry_eq (env : Env) (tld domain : Text) :
    queryRegistry env tld domain = findWhoisServer env tld >>= askRegistry env tld domain := rfl

namespace Lookups

/-- The steps of a call from its first query on. A step that the call does not come to does
nothing. -/
def querySteps (c : Nat) (ok : Bool) (again : Option Text) (ok' : Bool) : List LookupAction :=
  [.resume c (.answered ok), .resume c .purge, .resume c (.discovered again),
    .resume c (.answered ok'), .resume c .store]

/-- The steps of one call in a row. -/
def callSteps (c : Nat) (tld : Text) (first : Option Text) (ok : Bool) (again : Option Text)
    (ok' : Bool) : List LookupAction :=
  [.start tld, .resume c (.discovered first), .resume c .enter] ++ querySteps c ok again ok'

/-- The steps end with the servers of a run, and return what it returns. -/
def Runs (s : Lookups) (es : List LookupAction) (r : Except WhoisError (Text × Text) × World) :
    Prop :=
  (lookupsMachine.final s es).tldServers = r.2.tldServers ∧
    (lookupsMachine.run s es).filterMap (·.out) = [r.1.toOption.map Prod.fst]

section Steps

variable {s s' : Lookups} {c : Nat} {tld : Text} {phase : LookupPhase}
  {r : Except WhoisError (Text × Text) × World}

theorem act_of_running (running : s.calls c = some ⟨tld, phase⟩) (move : LookupMove) :
    s.act (.resume c move) = s.resume c tld phase move := by
  simp only [act, running]

theorem calls_goOn (s : Lookups) (c : Nat) (call : Option LookupCall) :
    (s.goOn c call).calls c = call := Function.update_self _ _ _

/-- A call that is over does nothing more. -/
theorem silent_of_over (hover : s.calls c = none) (moves : List LookupMove) :
    lookupsMachine.final s (moves.map (.resume c)) = s ∧
      (lookupsMachine.run s (moves.map (.resume c))).filterMap (·.out) = [] := by
  have hidle : ∀ move, s.act (.resume c move) = (none, s) := fun move => by simp only [act, hover]
  induction moves with
  | nil => exact ⟨rfl, rfl⟩
  | cons move moves ih =>
    rw [List.map_cons, Machine.final, Machine.run_cons, lookupsMachine_next, hidle,
      List.filterMap_cons, Machine.step_out, lookupsMachine_next, hidle]
    exact ih

theorem Runs.cons {action : LookupAction} {es : List LookupAction}
    (hact : s.act action = (none, s')) (h : s'.Runs es r) : s.Runs (action :: es) r := by
  obtain ⟨hservers, hout⟩ := h
  refine ⟨?_, ?_⟩
  · rw [Machine.final, lookupsMachine_next, hact]
    exact hservers
  · rw [Machine.run_cons, lookupsMachine_next, hact, List.filterMap_cons, Machine.step_out,
      lookupsMachine_next, hact]
    exact hout

theorem Runs.ended {move : LookupMove}
    (hact : s.act (.resume c move) = (some (r.1.toOption.map Prod.fst), s'))
    (hover : s'.calls c = none) (hservers : s'.tldServers = r.2.tldServers)
    (moves : List LookupMove) : s.Runs (.resume c move :: moves.map (.resume c)) r := by
  obtain ⟨hfinal, hout⟩ := silent_of_over hover moves
  refine ⟨?_, ?_⟩
  · rw [Machine.final, lookupsMachine_next, hact]
    exact (congrArg tldServers hfinal).trans hservers
  · rw [Machine.run_cons, lookupsMachine_next, hact, List.filterMap_cons, Machine.step_out,
      lookupsMachine_next, hact]
    exact congrArg (_ :: ·) hout

end Steps

/-- **The steps from the query on are the query and the retry.** -/
theorem runs_askRegistry (env : Env) (domain : Text) {tld server : Text} {s : Lookups} {w : World}
    {c : Nat}
    (hservers : s.tldServers = w.tldServers) (running : s.calls c = some ⟨tld, .querying server⟩) :
    ∃ ok again ok', s.Runs (querySteps c ok again ok') (askRegistry env tld domain server w) := by
  have hquery : ∀ {server' w' r w''}, rawWhoisQuery env server' domain w' = (r, w'') →
      w''.tldServers = w'.tldServers :=
    fun h => (SameServers.executeWhoisQuery .raw _ domain).of_eq h
  unfold askRegistry
  rw [Eff.bind_of_ok (Eff.attempt_apply _ _)]
  rcases hq : rawWhoisQuery env server domain w with ⟨e | data, w₁⟩
  · have hsame := hquery hq
    dsimp only
    unfold rediscoverAndRetry
    rw [Eff.bind_of_ok (Eff.modify_apply _ _)]
    -- the query fails, and the entry is purged
    set s₁ := ((s.goOn c (some ⟨tld, .purging server⟩)).withEntry tld none).goOn c
      (some ⟨tld, .rediscovering server⟩)
    have running₁ : s₁.calls c = some ⟨tld, .rediscovering server⟩ := calls_goOn _ _ _
    have hpurge : ∀ {again ok' r}, s₁.Runs [.resume c (.discovered again),
          .resume c (.answered ok'), .resume c .store] r →
        s.Runs (querySteps c false again ok') r := fun h =>
      .cons (act_of_running running _) (.cons (act_of_running (calls_goOn _ _ _) _) h)
    have hpurged : s₁.tldServers = Function.update w₁.tldServers tld none := by
      rw [hsame, ← hservers]
      rfl
    rcases hd : discoverWhoisServerDynamic env tld
      { w₁ with tldServers := Function.update w₁.tldServers tld none } with ⟨e' | found, w₂⟩
    · have hsame₂ := hpurged.trans ((SameServers.discoverWhoisServerDynamic tld).of_eq hd).symm
      rw [Eff.bind_of_error hd]
      refine ⟨false, none, true, hpurge ?_⟩
      exact .ended (act_of_running running₁ _) (calls_goOn _ _ _) hsame₂ [.answered true, .store]
    have hsame₂ := hpurged.trans ((SameServers.discoverWhoisServerDynamic tld).of_eq hd).symm
    rw [Eff.bind_of_ok hd]
    cases found with
    | none =>
      refine ⟨false, none, true, hpurge ?_⟩
      exact .ended (act_of_running running₁ _) (calls_goOn _ _ _) hsame₂ [.answered true, .store]
    | some again =>
      dsimp only
      by_cases hagain : again ≠ server
      · rw [if_pos hagain]
        have hretry := (act_of_running running₁ (.discovered (some again))).trans (if_pos hagain)
        rcases hr : rawWhoisQuery env again domain w₂ with ⟨e' | data, w₃⟩
        · have hsame₃ := hsame₂.trans (hquery hr).symm
          rw [Eff.bind_of_error hr]
          refine ⟨false, some again, false, hpurge (.cons hretry ?_)⟩
          exact .ended (act_of_running (calls_goOn _ _ _) _) (calls_goOn _ _ _) hsame₃ [.store]
        · have hsame₃ := hsame₂.trans (hquery hr).symm
          rw [Eff.bind_of_ok hr, Eff.bind_of_ok (Eff.modify_apply _ _)]
          refine ⟨false, some again, true, hpurge (.cons hretry ?_)⟩
          refine .cons (act_of_running (calls_goOn _ _ _) _) ?_
          refine .ended (act_of_running (calls_goOn _ _ _) _) (calls_goOn _ _ _) ?_ []
          exact congrArg (Function.update · tld (some again)) hsame₃
      · rw [if_neg hagain]
        have hgivesUp := (act_of_running running₁ (.discovered (some again))).trans (if_neg hagain)
        refine ⟨false, some again, true, hpurge ?_⟩
        exact .ended hgivesUp (calls_goOn _ _ _) hsame₂ [.answered true, .store]
  · refine ⟨true, none, true, ?_⟩
    exact .ended (act_of_running running _) (calls_goOn _ _ _) (hservers.trans (hquery hq).symm)
      [.purge, .discovered none, .answered true, .store]

/-- **The steps of a call in a row are the call.** -/
theorem runs_queryRegistry (env : Env) (tld domain : Text) {s : Lookups} {w : World}
    (hservers : s.tldServers = w.tldServers) : ∃ first ok again ok',
    s.Runs (callSteps s.next tld first ok again ok') (queryRegistry env tld domain w) := by
  rw [queryRegistry_eq]
  cases hentry : w.tldServers tld with
  | some server =>
    rw [Eff.bind_of_ok (findWhoisServer_of_entry env hentry)]
    have running : (s.start tld).calls s.next = some ⟨tld, .querying server⟩ := by
      simp [start, goOn, hservers, hentry]
    obtain ⟨ok, again, ok', hruns⟩ :=
      runs_askRegistry env domain (s := s.start tld) hservers running
    -- there is nothing to discover and to enter
    refine ⟨none, ok, again, ok', .cons rfl ?_⟩
    exact .cons (act_of_running running _) (.cons (act_of_running running _) hruns)
  | none =>
    have running : (s.start tld).calls s.next = some ⟨tld, .discovering⟩ := by
      simp [start, goOn, hservers, hentry]
    cases hfound : (discoverWhoisServerDynamic env tld w).1.toOption.join with
    | none =>
      obtain ⟨e, hfails⟩ := findWhoisServer_of_not_found env hentry hfound
      rw [Eff.bind_of_error hfails]
      have hstart : (s.start tld).tldServers =
          (discoverWhoisServerDynamic env tld w).2.tldServers :=
        hservers.trans (SameServers.discoverWhoisServerDynamic tld w).symm
      refine ⟨none, true, none, true, .cons rfl ?_⟩
      refine .ended (act_of_running running _) (calls_goOn _ _ _) ?_
        [.enter, .answered true, .purge, .discovered none, .answered true, .store]
      exact hstart
    | some server =>
      rw [Eff.bind_of_ok (findWhoisServer_of_found env hentry hfound)]
      set s₁ := (s.start tld).goOn s.next (some ⟨tld, .entering server⟩)
      have hmiss : s₁.tldServers tld = none := by
        rw [← hentry, ← hservers]
        rfl
      have hentered : (s₁.enter tld server).tldServers =
          Function.update w.tldServers tld (some server) := by
        rw [enter, hmiss, ← hservers]
        rfl
      obtain ⟨ok, again, ok', hruns⟩ :=
        runs_askRegistry env domain (w := { (discoverWhoisServerDynamic env tld w).2 with
          tldServers := Function.update w.tldServers tld (some server) })
          (s := (s₁.enter tld server).goOn s.next (some ⟨tld, .querying server⟩))
          hentered (calls_goOn _ _ _)
      refine ⟨some server, ok, again, ok', .cons rfl (.cons (act_of_running running _) ?_)⟩
      exact .cons (act_of_running (calls_goOn _ _ _) _) hruns

end Lookups

/-! ## What a step can do -/

namespace Lookups

/-- The steps, each with what it does. -/
inductive Acts (s : Lookups) : LookupAction → Lookups → Prop
  | idle {action : LookupAction} (quiet : s.failing action = none) : Acts s action s
  | opened {tld : Text} {phase : LookupPhase} (fresh : phase.failed = none)
    (finds : phase.purged = false ∧ phase.entry = s.tldServers tld) :
    Acts s (.start tld) { s.goOn s.next (some ⟨tld, phase⟩) with next := s.next + 1 }
  | entered {c : Nat} {tld server : Text} (running : s.calls c = some ⟨tld, .entering server⟩) :
    Acts s (.resume c .enter) ((s.enter tld server).goOn c (some ⟨tld, .querying server⟩))
  | failed {c : Nat} {tld server : Text} (running : s.calls c = some ⟨tld, .querying server⟩) :
    Acts s (.resume c (.answered false)) (s.goOn c (some ⟨tld, .purging server⟩))
  | purged {c : Nat} {tld failed : Text} (running : s.calls c = some ⟨tld, .purging failed⟩) :
    Acts s (.resume c .purge) ((s.withEntry tld none).goOn c (some ⟨tld, .rediscovering failed⟩))
  | stored {c : Nat} {tld failed server : Text}
    (running : s.calls c = some ⟨tld, .storing failed server⟩) :
    Acts s (.resume c .store) ((s.withEntry tld (some server)).goOn c none)
  | moved {c : Nat} {tld : Text} {phase phase' : LookupPhase} {move : LookupMove}
    (running : s.calls c = some ⟨tld, phase⟩) (same : phase'.failed = phase.failed)
    (leaves : phase'.purged = phase.purged ∧ phase'.entry = phase.entry)
    (quiet : s.failing (.resume c move) = none) :
    Acts s (.resume c move) (s.goOn c (some ⟨tld, phase'⟩))
  | ended {c : Nat} {call : LookupCall} {move : LookupMove} (running : s.calls c = some call) :
    Acts s (.resume c move) (s.goOn c none)

/-- **A step is one of these.** -/
theorem acts_act (s : Lookups) (action : LookupAction) : Acts s action (s.act action).2 := by
  cases action with
  | start tld =>
    simp only [act, start]
    cases hentry : s.tldServers tld with
    | some server => exact .opened rfl ⟨rfl, hentry.symm⟩
    | none => exact .opened rfl ⟨rfl, hentry.symm⟩
  | resume c move =>
    cases hrun : s.calls c with
    | none =>
      simp only [act, hrun]
      refine .idle ?_
      unfold failing
      split
      · next c' heq =>
        cases heq
        rw [hrun, Option.bind_none]
      · rfl
    | some call =>
      obtain ⟨tld, phase⟩ := call
      simp only [act, hrun]
      cases move with
      | discovered server =>
        cases server with
        | none =>
          cases phase with
          | discovering | rediscovering _ => exact .ended hrun
          | _ => exact .idle rfl
        | some server =>
          cases phase with
          | discovering => exact .moved hrun rfl ⟨rfl, rfl⟩ rfl
          | rediscovering failed =>
            simp only [resume]
            split_ifs
            · exact .moved hrun rfl ⟨rfl, rfl⟩ rfl
            · exact .ended hrun
          | _ => exact .idle rfl
      | enter =>
        cases phase with
        | entering server => exact .entered hrun
        | _ => exact .idle rfl
      | answered ok =>
        cases ok with
        | true =>
          cases phase with
          | querying server => exact .ended hrun
          | retrying failed server => exact .moved hrun rfl ⟨rfl, rfl⟩ rfl
          | _ => exact .idle rfl
        | false =>
          cases phase with
          | querying server => exact .failed hrun
          | retrying failed server => exact .ended hrun
          | _ =>
            -- no query is awaited
            refine .idle ?_
            simp [failing, hrun, LookupPhase.asked]
      | purge =>
        cases phase with
        | purging failed => exact .purged hrun
        | _ => exact .idle rfl
      | store =>
        cases phase with
        | storing failed server => exact .stored hrun
        | _ => exact .idle rfl
      | cancel =>
        cases phase <;> exact .ended hrun

/-! ## What a run remembers -/

/-- In the step a query of the call, for the TLD, to the server failed. -/
def QueryFailed (c : Nat) (tld server : Text) (x : LookupStep) : Prop :=
  x.pre.failing x.event = some (c, tld, server)

theorem failing_eq_some {s : Lookups} {action : LookupAction} {c : Nat} {tld server : Text}
    (h : s.failing action = some (c, tld, server)) : action = .resume c (.answered false) ∧
      ∃ call, s.calls c = some call := by
  unfold failing at h
  split at h
  · next c' =>
    obtain ⟨call, hrun, h⟩ := Option.bind_eq_some_iff.mp h
    obtain ⟨server', -, h⟩ := Option.map_eq_some_iff.mp h
    cases h
    exact ⟨rfl, call, hrun⟩
  · cases h

variable {s s' : Lookups} {action : LookupAction} {past : List LookupStep}

/-- The phase of a call says which of its queries failed in the past. -/
structure History (past : List LookupStep) (s : Lookups) : Prop where
  fresh : ∀ c, s.next ≤ c → s.calls c = none
  numbered : ∀ y ∈ past, ∀ c tld server, QueryFailed c tld server y → c < s.next
  failed_iff : ∀ c call, s.calls c = some call → ∀ tld server,
    (∃ y ∈ past, QueryFailed c tld server y) ↔ tld = call.tld ∧ call.phase.failed = some server

theorem history_knowing (servers : Text → Option Text) : History [] (knowing servers) where
  fresh _ _ := rfl
  numbered _ hy := absurd hy List.not_mem_nil
  failed_iff _ _ hrun := by cases hrun

theorem History.lt (h : History past s) {c : Nat} {call : LookupCall}
    (running : s.calls c = some call) : c < s.next := by
  by_contra hge
  rw [h.fresh c (Nat.le_of_not_lt hge)] at running
  cases running

theorem exists_concat {P : LookupStep → Prop} {x : LookupStep} :
    (∃ y ∈ past ++ [x], P y) ↔ (∃ y ∈ past, P y) ∨ P x := by
  simp only [List.mem_append, List.mem_singleton, or_and_right, exists_or, exists_eq_left]

theorem History.numbered_concat (h : History past s) (hnext : s.next ≤ s'.next) :
    ∀ y ∈ past ++ [lookupsMachine.step s action], ∀ c tld server,
      QueryFailed c tld server y → c < s'.next := by
  intro y hy c tld server hfail
  refine Nat.lt_of_lt_of_le ?_ hnext
  rcases List.mem_append.mp hy with hy | hy
  · exact h.numbered y hy c tld server hfail
  · rw [List.mem_singleton.mp hy] at hfail
    obtain ⟨-, call, hrun⟩ := failing_eq_some hfail
    exact h.lt hrun

theorem History.goOn (h : History past s) {c : Nat} {call : LookupCall} {move : LookupMove}
    {call' : Option LookupCall} (running : s.calls c = some call)
    (hcalls : s'.calls = Function.update s.calls c call') (hnext : s'.next = s.next)
    (hfailed : ∀ call'', call' = some call'' → ∀ tld server,
      ((tld = call.tld ∧ call.phase.failed = some server) ∨
        s.failing (.resume c move) = some (c, tld, server)) ↔
      tld = call''.tld ∧ call''.phase.failed = some server) :
    History (past ++ [lookupsMachine.step s (.resume c move)]) s' where
  fresh c' hle := by
    rw [hnext] at hle
    have hne : c' ≠ c := fun heq => Nat.not_lt.mpr hle (heq ▸ h.lt running)
    rw [hcalls, Function.update_of_ne hne]
    exact h.fresh c' hle
  numbered := h.numbered_concat (Nat.le_of_eq hnext.symm)
  failed_iff c' call'' hrun tld server := by
    rw [hcalls] at hrun
    rw [exists_concat]
    by_cases hc : c' = c
    · subst hc
      rw [Function.update_self] at hrun
      rw [h.failed_iff c' call running]
      exact hfailed call'' hrun tld server
    · rw [Function.update_of_ne hc] at hrun
      rw [h.failed_iff c' call'' hrun]
      refine or_iff_left fun hfail => ?_
      obtain ⟨haction, -⟩ := failing_eq_some hfail
      cases haction
      exact hc rfl

/-- **Every step keeps the history.** -/
theorem History.act (h : History past s) (ha : Acts s action s') :
    History (past ++ [lookupsMachine.step s action]) s' := by
  cases ha with
  | idle quiet =>
    refine ⟨h.fresh, h.numbered_concat le_rfl, fun c call hrun tld server => ?_⟩
    rw [exists_concat, h.failed_iff c call hrun]
    refine or_iff_left fun hfail => ?_
    rw [QueryFailed, Machine.step_pre, Machine.step_event, quiet] at hfail
    cases hfail
  | @opened tld phase fresh finds =>
    refine ⟨fun c hle => ?_, h.numbered_concat (Nat.le_succ _), fun c call hrun tld' server => ?_⟩
    · have hlt : s.next < c := hle
      show Function.update s.calls s.next _ c = none
      rw [Function.update_of_ne (by omega)]
      exact h.fresh c (by omega)
    · rw [exists_concat, or_iff_left (by rintro ⟨⟩)]
      rcases of_update_some hrun with ⟨rfl, rfl⟩ | ⟨-, hold⟩
      · -- the number is new
        rw [fresh]
        refine iff_of_false ?_ (by rintro ⟨-, ⟨⟩⟩)
        rintro ⟨y, hy, hfail⟩
        exact Nat.lt_irrefl _ (h.numbered y hy _ _ _ hfail)
      · exact h.failed_iff c call hold tld' server
  | @entered c tld server running =>
    have hcalls : ((s.enter tld server).goOn c (some ⟨tld, .querying server⟩)).calls =
        Function.update s.calls c (some ⟨tld, .querying server⟩) :=
      congrArg (Function.update · c _) (calls_enter s tld server)
    refine h.goOn running hcalls (next_enter s tld server) ?_
    rintro call'' ⟨⟩ tld' server'
    simp [failing, LookupPhase.failed]
  | failed running =>
    refine h.goOn running rfl rfl ?_
    rintro call'' ⟨⟩ tld server
    simp [failing, running, LookupPhase.failed, LookupPhase.asked, eq_comm]
  | purged running =>
    refine h.goOn running rfl rfl ?_
    rintro call'' ⟨⟩ tld server
    simp [failing, LookupPhase.failed]
  | stored running => exact h.goOn running rfl rfl nofun
  | moved running same leaves quiet =>
    refine h.goOn running rfl rfl ?_
    rintro call'' ⟨⟩ tld server
    rw [quiet, same]
    simp
  | ended running => exact h.goOn running rfl rfl nofun

/-! ## Entries that are removed -/

/-- **Only the call that moves changes an entry, and only that of its TLD**: where there is none, or
in a purge or a store. -/
theorem Acts.changes (ha : Acts s action s') {tld : Text}
    (hne : s'.tldServers tld ≠ s.tldServers tld) :
    ∃ c move phase, action = .resume c move ∧ s.calls c = some ⟨tld, phase⟩ ∧
      (s.tldServers tld = none ∨ (∃ failed, move = .purge ∧ phase = .purging failed) ∨
        ∃ failed server, move = .store ∧ phase = .storing failed server ∧
          s'.tldServers tld = some server) := by
  have hother : ∀ tld' server, s'.tldServers = Function.update s.tldServers tld' server →
      tld = tld' := by
    intro tld' server hs'
    by_contra hdiff
    exact hne (by rw [hs', Function.update_of_ne hdiff])
  cases ha with
  | idle | opened | failed | moved | ended => exact absurd rfl hne
  | @entered c tld' server running =>
    by_cases hentry : (s.tldServers tld').isSome = true
    · refine absurd ?_ hne
      show (s.enter tld' server).tldServers tld = _
      rw [enter, if_pos hentry]
    · have hs' : (s.enter tld' server).tldServers =
          Function.update s.tldServers tld' (some server) := by
        rw [enter, if_neg hentry]
        rfl
      obtain rfl := hother tld' (some server) hs'
      exact ⟨c, _, _, rfl, running, .inl (by simpa using hentry)⟩
  | @purged c tld' failed running =>
    obtain rfl := hother tld' none rfl
    exact ⟨c, _, _, rfl, running, .inr (.inl ⟨failed, rfl, rfl⟩)⟩
  | @stored c tld' failed server running =>
    obtain rfl := hother tld' (some server) rfl
    exact ⟨c, _, _, rfl, running, .inr (.inr ⟨failed, server, rfl, rfl, Function.update_self _ _ _⟩)⟩

/-- After the steps of the past, the step changes only the entry of its call's TLD, and removes it
only if a query of the call to that server failed. -/
structure Rightful (past : List LookupStep) (x : LookupStep) : Prop where
  own : ∀ tld, x.post.tldServers tld ≠ x.pre.tldServers tld →
    ∃ c move phase, x.event = .resume c move ∧ x.pre.calls c = some ⟨tld, phase⟩
  failed : ∀ tld server, x.pre.tldServers tld = some server →
    x.post.tldServers tld ≠ some server →
    ∃ c move, x.event = .resume c move ∧ ∃ y ∈ past, QueryFailed c tld server y

/-- A purge finds the entry of the server that failed, and a store that entry or its own, if there is
an entry at all. -/
def OwnEntry (s : Lookups) : LookupAction → Prop
  | .resume c .purge => ∀ tld failed, s.calls c = some ⟨tld, .purging failed⟩ →
      ∀ server, s.tldServers tld = some server → server = failed
  | .resume c .store => ∀ tld failed new, s.calls c = some ⟨tld, .storing failed new⟩ →
      ∀ server, s.tldServers tld = some server → server = failed ∨ server = new
  | _ => True

/-- **A step that finds its own entry is rightful.** -/
theorem History.rightful (h : History past s) (hown : s.OwnEntry action) :
    Rightful past (lookupsMachine.step s action) := by
  have ha := acts_act s action
  constructor
  · intro tld hne
    obtain ⟨c, move, phase, haction, running, -⟩ := ha.changes hne
    exact ⟨c, move, phase, haction, running⟩
  · intro tld server hentry hgone
    have hne : (s.act action).2.tldServers tld ≠ s.tldServers tld := fun heq =>
      hgone (heq.trans hentry)
    obtain ⟨c, move, phase, rfl, running, hwhy⟩ := ha.changes hne
    refine ⟨c, move, rfl, (h.failed_iff c _ running tld server).mpr ⟨rfl, ?_⟩⟩
    rcases hwhy with hnone | ⟨failed, rfl, rfl⟩ | ⟨failed, new, rfl, rfl, hnew⟩
    · rw [Machine.step_pre, hnone] at hentry
      cases hentry
    · rw [hown tld failed running server hentry]
      rfl
    · rcases hown tld failed new running server hentry with rfl | rfl
      · rfl
      · exact absurd hnew hgone

/-- **A rightful step finds its own entry.** -/
theorem History.ownEntry (h : History past s)
    (hright : Rightful past (lookupsMachine.step s action)) : s.OwnEntry action := by
  unfold OwnEntry
  split
  · next c =>
    intro tld failed running server hentry
    have hgone : (s.act (.resume c .purge)).2.tldServers tld ≠ some server := by
      simp [Lookups.act, running, resume, Lookups.goOn, withEntry]
    obtain ⟨c', move, haction, hfail⟩ := hright.failed tld server hentry hgone
    cases haction
    obtain ⟨-, hphase⟩ := (h.failed_iff c _ running tld server).mp hfail
    exact (Option.some.inj hphase).symm
  · next c =>
    intro tld failed new running server hentry
    by_cases hnew : server = new
    · exact .inr hnew
    have hgone : (s.act (.resume c .store)).2.tldServers tld ≠ some server := by
      simpa [Lookups.act, running, resume, Lookups.goOn, withEntry] using Ne.symm hnew
    obtain ⟨c', move, haction, hfail⟩ := hright.failed tld server hentry hgone
    cases haction
    obtain ⟨-, hphase⟩ := (h.failed_iff c _ running tld server).mp hfail
    exact .inl (Option.some.inj hphase).symm
  · trivial

end Lookups

theorem history_run (servers : Text → Option Text) (es : List LookupAction) :
    Lookups.History (lookupsMachine.run (.knowing servers) es)
      (lookupsMachine.final (.knowing servers) es) :=
  lookupsMachine.history_of_step (fun _ s action h => h.act (Lookups.acts_act s action))
    (Lookups.history_knowing servers) es

/-- Every step of the run is rightful. -/
def Lookups.AllRightful (servers : Text → Option Text) (es : List LookupAction) : Prop :=
  ∀ past x rest, lookupsMachine.run (.knowing servers) es = past ++ x :: rest →
    Lookups.Rightful past x

theorem ownEntry_of_rightful {servers : Text → Option Text} {es : List LookupAction}
    (h : Lookups.AllRightful servers es) :
    ∀ x ∈ lookupsMachine.run (.knowing servers) es, x.pre.OwnEntry x.event := by
  intro x hx
  obtain ⟨past, rest, hrun⟩ := List.append_of_mem hx
  have hright := h past x rest hrun
  obtain ⟨es', e, rfl, rfl⟩ := lookupsMachine.run_eq_append_cons hrun
  exact (history_run servers es').ownEntry hright

/-- No lookup discards what another one has repaired, in exactly the runs in which every purge and every
store finds no entry or its own. -/
theorem rightful_iff (servers : Text → Option Text) (es : List LookupAction) :
    Lookups.AllRightful servers es ↔
      ∀ x ∈ lookupsMachine.run (.knowing servers) es, x.pre.OwnEntry x.event := by
  refine ⟨ownEntry_of_rightful, fun hown past x rest hrun => ?_⟩
  have hx : x ∈ lookupsMachine.run (.knowing servers) es := by simp [hrun]
  have hentry := hown x hx
  obtain ⟨es', e, rfl, rfl⟩ := lookupsMachine.run_eq_append_cons hrun
  exact (history_run servers es').rightful hentry

/-- A lookup finds a server. When that server has died, two lookups ask it and fail; the first one
repairs the entry before the second one purges it. -/
def repaired : List LookupAction :=
  [.start "com", .resume 0 (.discovered (some "old")), .resume 0 .enter, .resume 0 (.answered true),
    .start "com", .start "com", .resume 1 (.answered false), .resume 1 .purge,
    .resume 1 (.discovered (some "new")), .resume 1 (.answered true), .resume 2 (.answered false),
    .resume 1 .store]

/-- The second purge removes the repaired entry. -/
theorem not_rightful_repaired :
    ¬ Lookups.AllRightful (fun _ => none) (repaired ++ [.resume 2 .purge]) := by
  intro h
  have hown := ownEntry_of_rightful h
    (lookupsMachine.step (lookupsMachine.final (.knowing fun _ => none) repaired)
      (.resume 2 .purge)) (by rw [Machine.run_concat]; simp)
  have heq := hown "com" "old" (by decide +kernel) "new" (by decide +kernel)
  revert heq
  decide +kernel

end RustWhois
