import RustWhois.Rdap.Discovery

/-!
# Finds in flight

Concurrent calls of `find_rdap_server`. The machine interleaves them: each critical section of the
bootstrap mutex and of the lock of `tld_servers` is one step, any time passes before the data is
consulted, and a call can be dropped wherever it awaits.

* `BootstrapState.consult`: the critical section of the mutex;
* `Finds`, `findsMachine`: the calls in flight and their steps;
* **`finds_findRdapServer`**: the steps of one call in a row are the call;
* `RdapState.Agrees`: every entry of `tld_servers` is what the held data names;
* `Strands`: a step after which nothing clears an entry that the data does not name;
* **`agrees_of_finds`**: without such a step the servers agree with the data whenever no call is in
  flight, and with one they can come not to.
-/

namespace RustWhois

open Rust

/-! ## The critical section -/

/-- `get_or_fetch_bootstrap` while it holds the mutex: the data, and whether the servers found in
older data are to be cleared. Without a result of the fetch the caller is dropped during it. -/
def BootstrapState.consult (self : BootstrapState) (t : CallTimes)
    (fetch : Option (Except WhoisError RdapBootstrap)) :
    CallResult (RdapBootstrap × Bool) × BootstrapState :=
  match self.decide (fromSecs bootstrapRefreshSecs) (fromSecs bootstrapRetrySecs) t.asked
    t.recent with
  | .useCached | .serveStale => match self.data with
    | some data => (.returned (.ok (data, false)), self)
    -- expect("decide() guarantees data")
    | none => (.panicked, self)
  | .unavailable =>
    (.returned (.error (.internal "RDAP bootstrap data unavailable, retry pending")), self)
  | .fetch =>
    let isRefresh := self.data.isSome
    let state := { self with lastAttempt := some t.begun }
    match fetch with
    | none => (.dropped, state)
    | some (.error e) => match self.data with
      | some stale => (.returned (.ok (stale, false)), state)
      | none => (.returned (.error e), state)
    | some (.ok data) =>
      (.returned (.ok (data, isRefresh)),
        { state with data := some data, fetchedAt := some t.done })

/-- **Data that was there is replaced only by a call that clears the servers.** -/
theorem BootstrapState.consult_spec (s : BootstrapState) (t : CallTimes)
    (fetch : Option (Except WhoisError RdapBootstrap)) :
    s.data = none ∨ (s.consult t fetch).2.data = s.data ∨
      ∃ data, (s.consult t fetch).1 = .returned (.ok (data, true)) := by
  unfold consult
  cases hdata : s.data with
  | none => exact .inl rfl
  | some data =>
    cases s.decide (fromSecs bootstrapRefreshSecs) (fromSecs bootstrapRetrySecs) t.asked t.recent
      with
    | useCached | serveStale | unavailable => exact .inr (.inl hdata)
    | fetch =>
      rcases fetch with _ | e | fetched
      · exact .inr (.inl rfl)
      · exact .inr (.inl rfl)
      · exact .inr (.inr ⟨fetched, rfl⟩)

/-! ## Calls in flight -/

/-- What a call does next. -/
inductive FindPhase
  /-- `tld_servers` has no entry; the bootstrap data is consulted. -/
  | consulting
  /-- The data was replaced; the servers found in older data are cleared. -/
  | clearing (data : RdapBootstrap)
  /-- A server was found in the data; it is inserted. -/
  | entering (server : Text)
  deriving DecidableEq

structure Finding where
  tld : Text
  phase : FindPhase
  deriving DecidableEq

/-- The service, the clock and the calls in flight. -/
structure Finds where
  service : RdapState
  now : Nat
  calls : Nat → Option Finding
  /-- The number of the next call. -/
  next : Nat

/-- A step of a call in flight. -/
inductive FindMove
  | consult (waits : Waits) (fetch : Option (Except WhoisError RdapBootstrap))
  | clear
  | enter
  /-- The future of the call is dropped. -/
  | cancel

inductive FindAction
  | start (tld : Text)
  | resume (call : Nat) (move : FindMove)

namespace Finds

def new : Finds := ⟨.empty, 0, fun _ => none, 0⟩

def unsupported (tld : Text) : CallResult Text :=
  .returned (.error (.unsupportedTld ("No RDAP server found for TLD: ".toList ++ tld)))

variable (s : Finds)

/-- The call goes on with the next phase, or is over. -/
def goOn (c : Nat) (call : Option Finding) : Finds :=
  { s with calls := Function.update s.calls c call }

/-- The look into `tld_servers`. -/
def start (tld : Text) : Option (CallResult Text) × Finds :=
  match s.service.tldServers tld with
  | some server => (some (.returned (.ok server)), s)
  | none => (none, { s.goOn s.next (some ⟨tld, .consulting⟩) with next := s.next + 1 })

/-- `discover_rdap_server_bootstrap`, with the data. -/
def discover (c : Nat) (tld : Text) (bootstrap : RdapBootstrap) :
    Option (CallResult Text) × Finds :=
  match bootstrap.discover tld with
  | some server => (none, s.goOn c (some ⟨tld, .entering server⟩))
  | none => (some (unsupported tld), s.goOn c none)

/-- `get_or_fetch_bootstrap`, up to the clearing. -/
def consult (c : Nat) (tld : Text) (waits : Waits)
    (fetch : Option (Except WhoisError RdapBootstrap)) : Option (CallResult Text) × Finds :=
  let t := waits.times s.now
  let (result, bootstrap) := s.service.bootstrap.consult t fetch
  let s := { s with service := { s.service with bootstrap }, now := t.done }
  match result with
  | .returned (.ok (data, true)) => (none, s.goOn c (some ⟨tld, .clearing data⟩))
  | .returned (.ok (data, false)) => s.discover c tld data
  | .returned (.error _) => (some (unsupported tld), s.goOn c none)
  | .dropped => (some .dropped, s.goOn c none)
  | .panicked => (some .panicked, s.goOn c none)

/-- `self.tld_servers.write().await.clear()`. -/
def clear (c : Nat) (tld : Text) (data : RdapBootstrap) : Option (CallResult Text) × Finds :=
  { s with service := { s.service with tldServers := fun _ => none } }.discover c tld data

/-- The insertion of a found server. -/
def enter (c : Nat) (tld server : Text) : Option (CallResult Text) × Finds :=
  (some (.returned (.ok server)), { s with service := s.service.enter tld server }.goOn c none)

/-- A step of a call in flight; one that is not its next step does nothing. -/
def resume (c : Nat) (call : Finding) (move : FindMove) : Option (CallResult Text) × Finds :=
  match move, call.phase with
  | .consult waits fetch, .consulting => s.consult c call.tld waits fetch
  | .clear, .clearing data => s.clear c call.tld data
  | .enter, .entering server => s.enter c call.tld server
  | .cancel, _ => (some .dropped, s.goOn c none)
  | _, _ => (none, s)

/-- A step, and what it returns to a caller. -/
def act : FindAction → Option (CallResult Text) × Finds
  | .start tld => s.start tld
  | .resume c move => match s.calls c with
    | some call => s.resume c call move
    | none => (none, s)

end Finds

def findsMachine : Machine Finds FindAction (Option (CallResult Text)) where
  next s action := s.act action

@[simp] theorem findsMachine_next (s : Finds) (action : FindAction) :
    findsMachine.next s action = s.act action := rfl

/-! ## Calls without interruption -/

/-- The outcome of a fetch whose caller is not dropped after it. -/
def FetchOutcome.ofFetch : Option (Except WhoisError RdapBootstrap) → FetchOutcome
  | some (.ok data) => .ok data
  | some (.error e) => .error e
  | none => .cancelled

/-- **A call of `get_or_fetch_bootstrap` is its critical section, then the clearing.** -/
theorem getOrFetchBootstrap_consult (s : RdapState) (t : CallTimes)
    (fetch : Option (Except WhoisError RdapBootstrap)) : ∃ action,
    s.getOrFetchBootstrap t (.ofFetch fetch) = match s.bootstrap.consult t fetch with
      | (.returned (.ok (data, clears)), bootstrap) => ((action, .returned (.ok data)),
          ⟨if clears then fun _ => none else s.tldServers, bootstrap⟩)
      | (.returned (.error e), bootstrap) =>
          ((action, .returned (.error e)), { s with bootstrap })
      | (.dropped, bootstrap) => ((action, .dropped), { s with bootstrap })
      | (.panicked, bootstrap) => ((action, .panicked), { s with bootstrap }) := by
  simp only [RdapState.getOrFetchBootstrap, BootstrapState.consult]
  generalize s.bootstrap.decide (fromSecs bootstrapRefreshSecs) (fromSecs bootstrapRetrySecs)
    t.asked t.recent = action
  refine ⟨action, ?_⟩
  cases action with
  | useCached | serveStale =>
    dsimp only
    cases s.bootstrap.data <;> rfl
  | unavailable => rfl
  | fetch =>
    rcases fetch with _ | e | fetched
    · rfl
    · dsimp only [FetchOutcome.ofFetch]
      cases s.bootstrap.data <;> rfl
    · rfl

namespace Finds

/-- The steps of one call in a row. A step that the call does not come to does nothing. -/
def callSteps (s : Finds) (waits : Waits) (fetch : Option (Except WhoisError RdapBootstrap))
    (tld : Text) : List FindAction :=
  [.start tld, .resume s.next (.consult waits fetch), .resume s.next .clear, .resume s.next .enter]

/-- **The steps of a call in a row are the call.** -/
theorem finds_findRdapServer (s : Finds) (waits : Waits)
    (fetch : Option (Except WhoisError RdapBootstrap)) (tld : Text)
    (hnew : s.calls s.next = none) :
    (findsMachine.final s (s.callSteps waits fetch tld)).service =
        (s.service.findRdapServer (waits.times s.now) (.ofFetch fetch) tld).2 ∧
      (findsMachine.run s (s.callSteps waits fetch tld)).filterMap (·.out) =
        [(s.service.findRdapServer (waits.times s.now) (.ofFetch fetch) tld).1.2] := by
  obtain ⟨action, hcall⟩ := getOrFetchBootstrap_consult s.service (waits.times s.now) fetch
  simp only [callSteps, Machine.final, Machine.run, findsMachine_next, Machine.step]
  unfold RdapState.findRdapServer
  cases hserver : s.service.tldServers tld with
  | some server => simp [act, start, hserver, hnew]
  | none =>
    simp only [RdapState.discoverRdapServerBootstrap, hcall]
    rcases hconsult : s.service.bootstrap.consult (waits.times s.now) fetch with
      ⟨(e | ⟨data, _ | _⟩) | _ | _, bootstrap⟩
    · simp [act, start, hserver, goOn, resume, consult, hconsult, unsupported]
    · cases hd : data.discover tld <;>
        simp [act, start, hserver, goOn, resume, consult, hconsult, unsupported, discover, hd, enter]
    · cases hd : data.discover tld <;>
        simp [act, start, hserver, goOn, resume, consult, hconsult, unsupported, discover, hd, enter,
          clear]
    · simp [act, start, hserver, goOn, resume, consult, hconsult]
    · simp [act, start, hserver, goOn, resume, consult, hconsult]

end Finds

/-! ## Servers that agree with the data -/

namespace RdapState

/-- The held data names the server for the TLD. -/
def Names (s : RdapState) (tld server : Text) : Prop :=
  ∃ data, s.bootstrap.data = some data ∧ data.discover tld = some server

instance (s : RdapState) (tld server : Text) : Decidable (s.Names tld server) :=
  decidable_of_iff (s.bootstrap.data.bind (·.discover tld) = some server) Option.bind_eq_some_iff

/-- Every entry of `tld_servers` is what the held data names. -/
def Agrees (s : RdapState) : Prop :=
  ∀ tld server, s.tldServers tld = some server → s.Names tld server

theorem agrees_empty : empty.Agrees := by
  intro tld server h
  cases h

theorem bootstrap_enter (s : RdapState) (tld server : Text) :
    (s.enter tld server).bootstrap = s.bootstrap := by
  unfold RdapState.enter
  split_ifs <;> rfl

theorem Agrees.enter {s : RdapState} (h : s.Agrees) {tld server : Text}
    (hn : s.tldServers tld = none → s.Names tld server) : (s.enter tld server).Agrees := by
  unfold RdapState.enter
  by_cases hsome : (s.tldServers tld).isSome
  · rw [if_pos hsome]
    exact h
  · rw [if_neg hsome]
    intro tld' server' hentry
    rcases of_update_some hentry with ⟨rfl, rfl⟩ | ⟨-, hold⟩
    · exact hn (by simpa using hsome)
    · exact h tld' server' hold

end RdapState

namespace Finds

variable {s s' : Finds} {action : FindAction} {c : Nat}

/-- No call is in flight. -/
def Idle (s : Finds) : Prop := ∀ c, s.calls c = none

/-- The call has replaced the data, and clears the servers next. -/
def Clearing (s : Finds) (c : Nat) : Prop := ∃ tld data, s.calls c = some ⟨tld, .clearing data⟩

/-- The step leaves an entry that the held data does not name, and no call that will clear it: it
drops the only call that would, or inserts a server found in data that is gone and cleared. -/
def Strands (s : Finds) : FindAction → Prop
  | .resume c .cancel => s.Clearing c ∧ (∀ c' ≠ c, ¬ s.Clearing c') ∧ ¬ s.service.Agrees
  | .resume c .enter => ∃ tld server, s.calls c = some ⟨tld, .entering server⟩ ∧
      (∀ c', ¬ s.Clearing c') ∧ s.service.tldServers tld = none ∧ ¬ s.service.Names tld server
  | _ => False

/-! ### What a step can do -/

/-- The steps, each with what it does. -/
inductive Acts (s : Finds) : FindAction → Finds → Prop
  | idle (action : FindAction) : Acts s action s
  | opened {tld : Text} :
    Acts s (.start tld) { s.goOn s.next (some ⟨tld, .consulting⟩) with next := s.next + 1 }
  | consulted {c : Nat} {tld : Text} {waits : Waits}
    {fetch : Option (Except WhoisError RdapBootstrap)} {bootstrap : BootstrapState} {now : Nat}
    {call : Option Finding} (running : s.calls c = some ⟨tld, .consulting⟩)
    (replaced : s.service.bootstrap.data = none ∨
      bootstrap.data = s.service.bootstrap.data ∨ ∃ data, call = some ⟨tld, .clearing data⟩) :
    Acts s (.resume c (.consult waits fetch))
      ({ s with service := { s.service with bootstrap }, now }.goOn c call)
  | cleared {c : Nat} {tld : Text} {data : RdapBootstrap} {call : Option Finding}
    (running : s.calls c = some ⟨tld, .clearing data⟩) :
    Acts s (.resume c .clear)
      ({ s with service := { s.service with tldServers := fun _ => none } }.goOn c call)
  | entered {c : Nat} {tld server : Text} (running : s.calls c = some ⟨tld, .entering server⟩) :
    Acts s (.resume c .enter) ({ s with service := s.service.enter tld server }.goOn c none)
  | cancelled {c : Nat} {call : Finding} (running : s.calls c = some call) :
    Acts s (.resume c .cancel) (s.goOn c none)

theorem discover_goOn (s : Finds) (c : Nat) (tld : Text) (bootstrap : RdapBootstrap) :
    ∃ call, (s.discover c tld bootstrap).2 = s.goOn c call := by
  unfold discover
  cases bootstrap.discover tld with
  | none => exact ⟨none, rfl⟩
  | some server => exact ⟨_, rfl⟩

theorem acts_consult {tld : Text} (waits : Waits)
    (fetch : Option (Except WhoisError RdapBootstrap))
    (running : s.calls c = some ⟨tld, .consulting⟩) :
    Acts s (.resume c (.consult waits fetch)) (s.consult c tld waits fetch).2 := by
  have hspec := s.service.bootstrap.consult_spec (waits.times s.now) fetch
  simp only [consult]
  generalize s.service.bootstrap.consult (waits.times s.now) fetch = r at hspec
  rcases r with ⟨(e | ⟨data, _ | _⟩) | _ | _, bootstrap⟩
  · exact .consulted running (by simpa using hspec)
  · dsimp only
    obtain ⟨call, hcall⟩ := discover_goOn
      { s with service := { s.service with bootstrap }, now := (waits.times s.now).done } c tld data
    rw [hcall]
    refine .consulted running (hspec.imp_right fun h => .inl ?_)
    simpa using h
  · exact .consulted running (.inr (.inr ⟨data, rfl⟩))
  · exact .consulted running (by simpa using hspec)
  · exact .consulted running (by simpa using hspec)

/-- **A step is one of these.** -/
theorem acts_act (s : Finds) (action : FindAction) : Acts s action (s.act action).2 := by
  cases action with
  | start tld =>
    simp only [act, start]
    cases s.service.tldServers tld with
    | some server => exact .idle _
    | none => exact .opened
  | resume c move =>
    cases hrun : s.calls c with
    | none =>
      simp only [act, hrun]
      exact .idle _
    | some call =>
      obtain ⟨tld, phase⟩ := call
      simp only [act, hrun, resume]
      split
      · next waits fetch => exact acts_consult waits fetch hrun
      · next data =>
        obtain ⟨call, hcall⟩ := discover_goOn
          { s with service := { s.service with tldServers := fun _ => none } } c tld data
        rw [clear, hcall]
        exact .cleared hrun
      · exact .entered hrun
      · exact .cancelled hrun
      · exact .idle _

/-! ### What every step keeps -/

/-- The calls to come are not in flight. -/
def Fresh (s : Finds) : Prop := ∀ c, s.next ≤ c → s.calls c = none

theorem Fresh.goOn (h : Fresh s) {call : Finding} (running : s.calls c = some call)
    (call' : Option Finding) : Fresh (s.goOn c call') := by
  intro c' hle
  have hne : c' ≠ c := by
    intro heq
    rw [← heq, h c' hle] at running
    cases running
  show Function.update s.calls c call' c' = none
  rw [Function.update_of_ne hne]
  exact h c' hle

theorem fresh_act (h : Fresh s) (ha : Acts s action s') : Fresh s' := by
  cases ha with
  | idle => exact h
  | opened =>
    intro c' hle
    have hlt : s.next < c' := hle
    show Function.update s.calls s.next _ c' = none
    rw [Function.update_of_ne (by omega)]
    exact h c' (by omega)
  | consulted running replaced => exact h.goOn running _
  | cleared running => exact h.goOn running _
  | entered running => exact h.goOn running _
  | cancelled running => exact h.goOn running _

theorem not_clearing_of_goOn {call : Option Finding}
    (h : ∀ c', ¬ (s.goOn c call).Clearing c') : ∀ c' ≠ c, ¬ s.Clearing c' := by
  rintro c' hne ⟨tld, data, hc'⟩
  refine h c' ⟨tld, data, ?_⟩
  show Function.update s.calls c call c' = _
  rw [Function.update_of_ne hne]
  exact hc'

theorem not_clearing_of_running {call : Finding} (running : s.calls c = some call)
    (hphase : ∀ data, call.phase ≠ .clearing data) : ¬ s.Clearing c := by
  rintro ⟨tld, data, hc⟩
  rw [running] at hc
  cases hc
  exact hphase data rfl

/-- A call that does not clear the servers leaves that to the others. -/
theorem not_clearing_of_goOn_running {call : Finding} {call' : Option Finding}
    (running : s.calls c = some call) (hphase : ∀ data, call.phase ≠ .clearing data)
    (h : ∀ c', ¬ (s.goOn c call').Clearing c') : ∀ c', ¬ s.Clearing c' := by
  intro c'
  by_cases hc : c' = c
  · rw [hc]
    exact not_clearing_of_running running hphase
  · exact not_clearing_of_goOn h c' hc

/-- The servers agree with the data, or a call in flight clears them. -/
structure Covered (s : Finds) : Prop where
  fresh : Fresh s
  agrees : (∀ c, ¬ s.Clearing c) → s.service.Agrees

theorem covered_new : Covered new where
  fresh _ _ := rfl
  agrees _ := RdapState.agrees_empty

/-- **A step that strands no entry.** -/
theorem covered_act (h : Covered s) (hno : ¬ s.Strands action) (ha : Acts s action s') :
    Covered s' := by
  refine ⟨fresh_act h.fresh ha, fun hquiet => ?_⟩
  cases ha with
  | idle => exact h.agrees hquiet
  | opened =>
    refine h.agrees fun c' => ?_
    by_cases hc : c' = s.next
    · rintro ⟨tld, data, hcall⟩
      rw [hc, h.fresh s.next le_rfl] at hcall
      cases hcall
    · exact not_clearing_of_goOn (s := s) hquiet c' hc
  | @consulted c tld waits fetch bootstrap now call running replaced =>
    have hagrees : s.service.Agrees :=
      h.agrees (not_clearing_of_goOn_running (s := s) running nofun hquiet)
    rcases replaced with hnone | hsame | ⟨data, rfl⟩
    · -- the first data: nothing was found in older data
      intro tld' server hentry
      obtain ⟨data, hdata, -⟩ := hagrees tld' server hentry
      rw [hnone] at hdata
      cases hdata
    · intro tld' server hentry
      obtain ⟨data, hdata, hdisc⟩ := hagrees tld' server hentry
      exact ⟨data, hsame.trans hdata, hdisc⟩
    · exact absurd ⟨tld, data, Function.update_self _ _ _⟩ (hquiet c)
  | cleared running =>
    intro tld server hentry
    cases hentry
  | @entered c tld server running =>
    have hclear := not_clearing_of_goOn_running (s := s) running nofun hquiet
    refine (h.agrees hclear).enter fun hmiss => ?_
    by_contra hn
    exact hno ⟨tld, server, running, hclear, hmiss, hn⟩
  | @cancelled c call running =>
    have hothers := not_clearing_of_goOn hquiet
    by_cases hc : s.Clearing c
    · by_contra hn
      exact hno ⟨hc, hothers, hn⟩
    · refine h.agrees fun c' => ?_
      by_cases heq : c' = c
      · rw [heq]
        exact hc
      · exact hothers c' heq

theorem not_strands_enter {tld server : Text} (running : s.calls c = some ⟨tld, .entering server⟩)
    (hn : s.service.Names tld server) : ¬ s.Strands (.resume c .enter) := by
  rintro ⟨tld', server', hrun, -, -, hn'⟩
  rw [running] at hrun
  cases hrun
  exact hn' hn

/-! ### A step that strands an entry -/

theorem not_agrees_of_strands (h : s.Strands action) : ¬ (s.act action).2.service.Agrees := by
  unfold Strands at h
  split at h
  · next c =>
    obtain ⟨⟨tld, data, hrun⟩, -, hn⟩ := h
    simp only [act, hrun, resume]
    exact hn
  · next c =>
    obtain ⟨tld, server, hrun, -, hmiss, hn⟩ := h
    simp only [act, hrun, resume]
    intro hagrees
    have hentry : (s.service.enter tld server).tldServers tld = some server := by
      simp [RdapState.enter, hmiss]
    obtain ⟨data, hdata, hdisc⟩ := hagrees tld server hentry
    refine hn ⟨data, ?_, hdisc⟩
    rw [← s.service.bootstrap_enter tld server]
    exact hdata
  · exact h.elim

/-- The first `n` calls are dropped. -/
def cancelAll (n : Nat) : List FindAction := (List.range n).map fun c => .resume c .cancel

theorem final_cancelAll (s : Finds) (n : Nat) :
    (findsMachine.final s (cancelAll n)).service = s.service ∧
      ∀ c, (findsMachine.final s (cancelAll n)).calls c = if c < n then none else s.calls c := by
  induction n with
  | zero => exact ⟨rfl, fun c => rfl⟩
  | succ n ih =>
    obtain ⟨hservice, hcalls⟩ := ih
    have hsplit : cancelAll (n + 1) = cancelAll n ++ [.resume n .cancel] := by
      simp [cancelAll, List.range_succ]
    rw [hsplit, Machine.final_append]
    set s₁ := findsMachine.final s (cancelAll n)
    show ((s₁.act (.resume n .cancel)).2).service = s.service ∧ ∀ c,
      ((s₁.act (.resume n .cancel)).2).calls c = if c < n + 1 then none else s.calls c
    cases hrun : s₁.calls n with
    | none =>
      simp only [act, hrun]
      refine ⟨hservice, fun c => ?_⟩
      by_cases hc : c = n
      · subst hc
        simp [hrun]
      · rw [hcalls]
        exact if_congr (by omega) rfl rfl
    | some call =>
      simp only [act, hrun, resume]
      refine ⟨hservice, fun c => ?_⟩
      show Function.update s₁.calls n none c = _
      by_cases hc : c = n
      · subst hc
        simp
      · rw [Function.update_of_ne hc, hcalls]
        exact if_congr (by omega) rfl rfl

/-- The calls in flight can all be dropped, which leaves the service as it is. -/
theorem idle_cancelAll (h : Fresh s) : (findsMachine.final s (cancelAll s.next)).Idle := by
  intro c
  rw [(final_cancelAll s s.next).2]
  by_cases hc : c < s.next
  · exact if_pos hc
  · rw [if_neg hc]
    exact h c (Nat.le_of_not_lt hc)

end Finds

/-! ## Every run -/

theorem covered_final {es : List FindAction}
    (hno : ∀ x ∈ findsMachine.run .new es, ¬ x.pre.Strands x.event) :
    (findsMachine.final .new es).Covered :=
  Machine.history_induction (C := fun s action => ¬ s.Strands action) (H := fun _ s => s.Covered)
    (fun _ s action h hno => Finds.covered_act h hno (Finds.acts_act s action)) Finds.covered_new hno

theorem fresh_final (es : List FindAction) : (findsMachine.final .new es).Fresh :=
  findsMachine.final_of_step (I := Finds.Fresh)
    (fun s action h => Finds.fresh_act h (Finds.acts_act s action)) (fun _ _ => rfl) es

/-- **With no call in flight every entry of `tld_servers` is what the held data names, after any run
that strands none**; any run that strands one can go on to a state that has one left. -/
theorem agrees_of_finds (es : List FindAction) :
    ((∀ x ∈ findsMachine.run .new es, ¬ x.pre.Strands x.event) →
      (findsMachine.final .new es).Idle → (findsMachine.final .new es).service.Agrees) ∧
    ∀ action, (findsMachine.final .new es).Strands action →
      ∃ es', (findsMachine.final .new (es ++ action :: es')).Idle ∧
        ¬ (findsMachine.final .new (es ++ action :: es')).service.Agrees := by
  constructor
  · intro hno hidle
    refine (covered_final hno).agrees fun c => ?_
    rintro ⟨tld, data, hc⟩
    rw [hidle c] at hc
    cases hc
  · intro action hstrands
    have hfresh := fresh_final (es ++ [action])
    have hn := Finds.not_agrees_of_strands hstrands
    set s := findsMachine.final .new (es ++ [action]) with hs
    refine ⟨Finds.cancelAll s.next, ?_⟩
    have hrun : findsMachine.final .new (es ++ action :: Finds.cancelAll s.next) =
        findsMachine.final s (Finds.cancelAll s.next) := by
      rw [hs, ← Machine.final_append, List.append_assoc]
      rfl
    rw [hrun]
    refine ⟨Finds.idle_cancelAll hfresh, ?_⟩
    rw [(Finds.final_cancelAll s s.next).1, hs, Machine.final_append]
    exact hn

theorem idle_of_lt {es : List FindAction}
    (h : ∀ c < (findsMachine.final .new es).next, (findsMachine.final .new es).calls c = none) :
    (findsMachine.final .new es).Idle := by
  intro c
  by_cases hc : c < (findsMachine.final .new es).next
  · exact h c hc
  · exact fresh_final es c (Nat.le_of_not_lt hc)

/-- A call consults the data `secs` after the last one did. -/
def consultAt (call secs : Nat) (fetched : RdapBootstrap) : FindAction :=
  .resume call (.consult ⟨fromSecs secs, 0, 0, 0⟩ (some (.ok fetched)))

/-- A call finds a server in the data just before that is a day old, another call refreshes the data
and clears the servers, and the first goes on. -/
def straddled : List FindAction :=
  [.start "net", consultAt 0 0 (.single "com" "a"), .start "com",
    consultAt 1 86399 (.single "com" "a"), .start "net", consultAt 2 1 (.single "com" "b"),
    .resume 2 .clear, .resume 1 .enter]

/-- The server of the old data stays. -/
theorem agrees_straddled : (findsMachine.final .new straddled).Idle ∧
    ¬ (findsMachine.final .new straddled).service.Agrees := by
  refine ⟨idle_of_lt (by decide +kernel), fun h => ?_⟩
  have hnamed := h "com" "a" (by decide +kernel)
  revert hnamed
  decide +kernel

/-- The first call goes on before the data is a day old; after the refresh another one finds the new
server. -/
def refreshed : List FindAction :=
  [.start "com", consultAt 0 0 (.single "com" "a"), .resume 0 .enter, .start "net",
    consultAt 1 86400 (.single "com" "b"), .resume 1 .clear, .start "com",
    consultAt 2 1 (.single "com" "b"), .resume 2 .enter]

theorem agrees_of_finds_refreshed : (findsMachine.final .new refreshed).service.Agrees := by
  have henter : ∀ (s : Finds) (c : Nat) (server : Text),
      s.calls c = some ⟨"com", .entering server⟩ → s.service.Names "com" server →
        ¬ s.Strands (.resume c .enter) := fun _ _ _ => Finds.not_strands_enter
  refine (agrees_of_finds refreshed).1 ?_ (idle_of_lt (by decide +kernel))
  unfold refreshed
  simp only [Machine.run, List.forall_mem_cons]
  refine ⟨id, id, henter _ _ "a" ?_ ?_, id, id, id, id, id, henter _ _ "b" ?_ ?_, ?_⟩
  · decide +kernel
  · decide +kernel
  · decide +kernel
  · decide +kernel
  · simp

end RustWhois
