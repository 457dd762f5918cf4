import RustWhois.Server.Requests

/-!
# No request is stuck

* **`tracked_of_run`**: calls in flight and waiting calls are those of requests in flight, one each, so
  that requests that timed out or whose clients are gone leave no key busy;
* `Lands`, `Fleet.lands_of_calls`: a call in flight has an outcome after at most two steps;
* **`answerable_of_run`**: every request in flight can be answered in at most four steps.
-/

namespace RustWhois

open Rust

variable {governor : Governor}

/-- A step of a run of the service. -/
abbrev ServerStep (governor : Governor) : Type :=
  Machine.Step (Server governor) ServerEvent (Option HttpAnswer)

/-- **Requests and lookups belong together**: every call in flight and every waiting call is that of
one request in flight, which asks for its key, and so is every key that is led; and every request that
does not bypass the cache has its call or waiting call, on its key. -/
theorem tracked_of_run (parseDnsName : DnsNameParser) (moka : MokaCalls) (config : Config)
    (backed : Bool) (es : List ServerEvent) :
    let s : Server governor := (serverMachine parseDnsName).final (.new moka config backed) es
    (∀ c call, s.lookups.fleet.calls c = some call →
      ∃! r, ∃ req, s.requests r = some req ∧ req.handle = .call c ∧ req.slot = call.slot) ∧
    (∀ w waiter, s.lookups.waiters w = some waiter →
      ∃! r, ∃ req, s.requests r = some req ∧ req.handle = .waiter w ∧ req.slot = waiter.slot) ∧
    (∀ slot c, s.lookups.fleet.leading slot = some c →
      ∃! r, ∃ req, s.requests r = some req ∧ req.handle = .call c ∧ req.slot = slot) ∧
    ∀ r req, s.requests r = some req → req.handle ≠ .direct →
      s.lookups.slotOf req.handle = some req.slot := by
  intro s
  have h : s.Tracked := Server.tracked_final parseDnsName moka config backed es
  have hone : ∀ k slot, s.lookups.slotOf k = some slot →
      ∃! r, ∃ req, s.requests r = some req ∧ req.handle = k ∧ req.slot = slot := by
    intro k slot hk
    have hkind : k ≠ .direct := by
      rintro rfl
      cases hk
    obtain ⟨r, req, hr, rfl⟩ := h.owned k slot hk
    have hslot : req.slot = slot := Option.some.inj ((h.alive r req hr hkind).symm.trans hk)
    refine ⟨r, ⟨req, hr, rfl, hslot⟩, ?_⟩
    rintro r' ⟨req', hr', heq, -⟩
    exact (h.mine hr hkind r' req' hr').mp heq
  have hcalls : ∀ c call, s.lookups.fleet.calls c = some call →
      ∃! r, ∃ req, s.requests r = some req ∧ req.handle = .call c ∧ req.slot = call.slot :=
    fun c call hcall => hone (.call c) call.slot (by simp [Coalesced.slotOf, hcall])
  refine ⟨hcalls, fun w waiter hw => ?_, fun slot c hlead => ?_, h.alive⟩
  · exact hone (.waiter w) waiter.slot (by simp [Coalesced.slotOf, hw])
  · obtain ⟨call, hcall, rfl⟩ := h.attended.exclusive.busy slot c hlead
    exact hcalls c call hcall

/-! ## Calls come to an end -/

/-- The actions of requests that go on. -/
inductive ServerAction.GoesOn : ServerAction → Prop
  | resume (r : Nat) (step : CallStep) (sole : Bool) : GoesOn (.resume r step sole)
  | wake (r : Nat) (fresh sole : Bool) : GoesOn (.wake r fresh sole)
  | returned (r : Nat) (outcome : Except WhoisError WhoisResponse) : GoesOn (.returned r outcome)

namespace Server

variable {parseDnsName : DnsNameParser} {s : Server governor} {r c : Nat} {req : Request}

/-- At most `n` steps of requests that go on, without waiting, lead from `s` to a state with `P`; one of
them answers request `r`. -/
def Answerable (parseDnsName : DnsNameParser) (n : Nat) (r : Nat) (s : Server governor)
    (P : Server governor → Prop) : Prop :=
  ∃ es : List ServerEvent, es.length ≤ n ∧ (∀ e ∈ es, e.waited = 0 ∧ e.action.GoesOn) ∧
    (∃ x ∈ (serverMachine parseDnsName).run s es, ∃ i reply, x.out = some ⟨i, r, reply⟩) ∧
    P ((serverMachine parseDnsName).final s es)

theorem Answerable.cons {n : Nat} {P : Server governor → Prop} {action : ServerAction}
    (hgoes : action.GoesOn) (h : Answerable parseDnsName n r (s.act parseDnsName action).2 P) :
    Answerable parseDnsName (n + 1) r s P := by
  obtain ⟨es, hlen, hes, ⟨x, hx, hout⟩, hP⟩ := h
  refine ⟨⟨0, action⟩ :: es, Nat.succ_le_succ hlen, ?_, ⟨x, List.mem_cons_of_mem _ hx, hout⟩, hP⟩
  intro e he
  rcases List.mem_cons.mp he with rfl | he
  · exact ⟨rfl, hgoes⟩
  · exact hes e he

theorem Answerable.one {P : Server governor → Prop} {action : ServerAction} (hgoes : action.GoesOn)
    {i : Nat} {reply : Reply} (hout : (s.act parseDnsName action).1 = some ⟨i, r, reply⟩)
    (hP : P (s.act parseDnsName action).2) : Answerable parseDnsName 1 r s P := by
  refine ⟨[⟨0, action⟩], Nat.le_refl _, ?_, ⟨_, List.mem_cons_self, i, reply, hout⟩, hP⟩
  intro e he
  rw [List.mem_singleton.mp he]
  exact ⟨rfl, hgoes⟩

theorem Answerable.mono {m n : Nat} {P : Server governor → Prop} (hle : m ≤ n)
    (h : Answerable parseDnsName m r s P) : Answerable parseDnsName n r s P := by
  obtain ⟨es, hlen, h⟩ := h
  exact ⟨es, hlen.trans hle, h⟩

theorem Answerable.trans {m n r' : Nat} {P Q : Server governor → Prop}
    (h : Answerable parseDnsName m r' s P) (hP : ∀ s', P s' → Answerable parseDnsName n r s' Q) :
    Answerable parseDnsName (m + n) r s Q := by
  obtain ⟨es, hlen, hes, -, hended⟩ := h
  obtain ⟨es', hlen', hes', ⟨x, hx, hout⟩, hQ⟩ := hP _ hended
  refine ⟨es ++ es', ?_, ?_, ⟨x, ?_, hout⟩, ?_⟩
  · rw [List.length_append]
    omega
  · intro e he
    rcases List.mem_append.mp he with he | he
    · exact hes e he
    · exact hes' e he
  · rw [Machine.run_append]
    exact List.mem_append_right _ hx
  · rw [Machine.final_append]
    exact hQ

/-- The call of the request is over, with an outcome, and nothing else has changed for the other
requests. -/
structure Ended (s : Server governor) (r c : Nat) (s' : Server governor) : Prop where
  landed : (s'.lookups.landed c).isSome
  others : ∀ r', r' ≠ r → s'.requests r' = s.requests r'
  waiters : s'.lookups.waiters = s.lookups.waiters

theorem answerable_of_landing (hr : s.requests r = some req) (hhandle : req.handle = .call c)
    {step : CallStep} (hstep : step ≠ .cancel) {outcome : Except WhoisError WhoisResponse}
    (hland : s.lookups.fleet.landing c step = some outcome) :
    Answerable parseDnsName 1 r s (Ended s r c) := by
  obtain ⟨call, hcall⟩ : ∃ call, s.lookups.fleet.calls c = some call := by
    rcases hrun : s.lookups.fleet.calls c with _ | call
    · rw [Fleet.landing, hrun] at hland
      cases hland
    · exact ⟨call, rfl⟩
  have hact : s.act parseDnsName (.resume r step true) =
      s.follow r req (s.lookups.act (.resume c step true)) := by
    simp only [act, hr, hhandle]
  have hresume : s.lookups.act (.resume c step true) =
      (some ⟨call.slot, step.source, outcome.mapError (unwrapError true)⟩,
        { s.lookups with
          fleet := (s.lookups.fleet.act (.resume c step)).2
          landed := Function.update s.lookups.landed c (some outcome) }) := by
    simp only [Coalesced.act, Coalesced.resume, hcall, hland]
  rw [hresume] at hact
  refine .one (.resume r step true) (by rw [hact]; rfl) ?_
  rw [hact]
  refine ⟨?_, fun r' hne => Function.update_of_ne hne _ _, rfl⟩
  show (Function.update s.lookups.landed c (some outcome) c).isSome
  rw [Function.update_self]
  rfl

theorem answerable_of_proceed (hr : s.requests r = some req) (hhandle : req.handle = .call c)
    {step : CallStep} (hstep : step ≠ .cancel) (hland : s.lookups.fleet.landing c step = none)
    {n : Nat} (h : ∀ s' : Server governor, s'.requests r = some req →
      s'.lookups.fleet = (s.lookups.fleet.act (.resume c step)).2 →
      Answerable parseDnsName n r s' (Ended s' r c)) :
    Answerable parseDnsName (n + 1) r s (Ended s r c) := by
  have hact : s.act parseDnsName (.resume r step true) =
      s.follow r req (s.lookups.act (.resume c step true)) := by
    simp only [act, hr, hhandle]
  have hresume : s.lookups.act (.resume c step true) =
      (none, { s.lookups with fleet := (s.lookups.fleet.act (.resume c step)).2 }) := by
    simp only [Coalesced.act, Coalesced.resume, hland]
    split <;> first | rfl | simp_all
  have hsame : ∀ lookups : Coalesced,
      { req with handle := req.handle.settle s.lookups lookups } = req := by
    intro lookups
    obtain ⟨i, args, query, arrivedAt, handle⟩ := req
    obtain rfl : handle = .call c := hhandle
    rfl
  rw [hresume] at hact
  refine .cons (.resume r step true) ?_
  rw [hact]
  obtain ⟨es, hlen, hes, hanswer, hended⟩ := h
    (s.follow r req (none, { s.lookups with fleet := (s.lookups.fleet.act (.resume c step)).2 })).2
    (by show Function.update s.requests r _ r = _; rw [Function.update_self, hsame]) rfl
  refine ⟨es, hlen, hes, hanswer, hended.landed, fun r' hne => ?_, hended.waiters⟩
  rw [hended.others r' hne]
  exact Function.update_of_ne hne _ _

theorem answerable_of_call (parseDnsName : DnsNameParser) (h : s.Tracked) (hr : s.requests r = some req)
    (hhandle : req.handle = .call c) :
    Answerable parseDnsName 2 r s (Ended s r c) := by
  have halive := h.alive r req hr (by rw [hhandle]; rintro ⟨⟩)
  rw [hhandle] at halive
  obtain ⟨⟨kind, slot, phase⟩, hcall, -⟩ := Option.map_eq_some_iff.mp halive
  obtain rfl : kind = .getOrFetch := h.attended.exclusive.led.kind c _ hcall
  have hone : ∀ {s' : Server governor}, s'.requests r = some req → ∀ step, step ≠ .cancel →
      ∀ outcome, s'.lookups.fleet.landing c step = some outcome →
      Answerable parseDnsName 1 r s' (Ended s' r c) :=
    fun hr' _ hstep _ hland => answerable_of_landing hr' hhandle hstep hland
  cases phase with
  | asking =>
    -- the backend fails, and so does the fetch
    refine answerable_of_proceed hr hhandle (show CallStep.ask (.failed []) ≠ .cancel by rintro ⟨⟩)
      (by simp [Fleet.landing, hcall]) fun s' hr' hfleet => ?_
    refine hone hr' (.returned (.error .timeout)) (by rintro ⟨⟩) (.error .timeout) ?_
    have hmiss : ∀ i, (s.lookups.fleet.service i).backendGet s.lookups.fleet.now slot.2
        (.failed []) = none := by
      intro i
      rw [CacheService.backendGet]
      cases (s.lookups.fleet.service i).backend <;> rfl
    simp [hfleet, Fleet.act, hcall, Fleet.resume, Fleet.ask, hmiss, Fleet.proceed, Fleet.landing]
  | fetching =>
    exact (hone hr (.returned (.error .timeout)) (by rintro ⟨⟩) (.error .timeout)
      (by simp [Fleet.landing, hcall])).mono (by omega)
  | promoting hit origin readAt =>
    exact (hone hr .promote (by rintro ⟨⟩) _ (by simp [Fleet.landing, hcall]; rfl)).mono (by omega)
  | storing response fetchedAt =>
    refine answerable_of_proceed hr hhandle (show CallStep.store ≠ .cancel by rintro ⟨⟩)
      (by simp [Fleet.landing, hcall]) fun s' hr' hfleet => ?_
    refine hone hr' .insert (by rintro ⟨⟩) (.ok response) ?_
    simp [hfleet, Fleet.act, hcall, Fleet.resume, Fleet.store, Fleet.proceed, Fleet.landing]
  | inserting response fetchedAt =>
    exact (hone hr .insert (by rintro ⟨⟩) _ (by simp [Fleet.landing, hcall]; rfl)).mono (by omega)

/-! ## Waiting requests come to an end -/

theorem answerable_of_flying (h : s.Tracked) (hr : s.requests r = some req) {w : Nat}
    (hhandle : req.handle = .waiter w) {waiter : Waiter} (hw : s.lookups.waiters w = some waiter)
    {call : FleetCall} (hcall : s.lookups.fleet.calls waiter.leader = some call) :
    Answerable parseDnsName 3 r s fun _ => True := by
  obtain ⟨r', req', hr', hhandle'⟩ := h.owned (.call waiter.leader) call.slot
    (by simp [Coalesced.slotOf, hcall])
  have hne : r ≠ r' := by
    rintro rfl
    rw [Option.some.inj (hr.symm.trans hr'), hhandle'] at hhandle
    cases hhandle
  refine (answerable_of_call parseDnsName h hr' hhandle').trans (n := 1) fun s' hended => ?_
  obtain ⟨outcome, hlanded⟩ := Option.isSome_iff_exists.mp hended.landed
  have hrs : s'.requests r = some req := (hended.others r hne).trans hr
  have hws : s'.lookups.waiters w = some waiter := by rw [hended.waiters, hw]
  have hact : s'.act parseDnsName (.wake r true true) =
      s'.follow r req (s'.lookups.act (.wake w true true)) := by
    simp only [act, hrs, hhandle]
  rw [Coalesced.act, Coalesced.wake_of_landed true true hws hlanded] at hact
  exact .one (.wake r true true) (by rw [hact]; rfl) trivial

/-- **A waiting request is answered after four steps.** -/
theorem answerable_of_waiter (h : s.Tracked) (hr : s.requests r = some req) {w : Nat}
    (hhandle : req.handle = .waiter w) : Answerable parseDnsName 4 r s fun _ => True := by
  have halive := h.alive r req hr (by rw [hhandle]; rintro ⟨⟩)
  rw [hhandle] at halive
  obtain ⟨waiter, hw, -⟩ := Option.map_eq_some_iff.mp halive
  have hact : s.act parseDnsName (.wake r true true) =
      s.follow r req (s.lookups.act (.wake w true true)) := by
    simp only [act, hr, hhandle]
  have htracked : Tracked (s.act parseDnsName (.wake r true true)).2 :=
    tracked_act h (acts_act parseDnsName s _)
  have hanswered : Coalesced.Answered waiter w (s.lookups.act (.wake w true true)).1
      (s.lookups.act (.wake w true true)).2 := h.attended.answered hw
  rw [hact] at htracked
  generalize hstep : s.lookups.act (.wake w true true) = step at hact htracked hanswered
  obtain ⟨a, lookups⟩ := step
  cases a with
  | some answer =>
    exact (Answerable.one (.wake r true true) (by rw [hact]; rfl) trivial).mono (by omega)
  | none =>
    refine .cons (n := 3) (.wake r true true) ?_
    rw [hact]
    have hrequest : (s.follow r req (none, lookups)).2.requests r =
        some { req with handle := req.handle.settle s.lookups lookups } :=
      Function.update_self _ _ _
    rcases hanswered with ⟨source, result, ⟨⟩⟩ | ⟨c, call, hcall, -, hnone | hsome⟩
    · -- it runs a call of its own now
      dsimp only at hnone
      refine Answerable.mono (Nat.le_succ 2) ?_
      obtain ⟨es, hlen, hes, hanswer, -⟩ := answerable_of_call parseDnsName
        htracked hrequest (c := s.lookups.fleet.next) (by simp [hhandle, Handle.settle, hnone])
      exact ⟨es, hlen, hes, hanswer, trivial⟩
    · dsimp only at hsome
      refine answerable_of_flying htracked hrequest (w := w) ?_ hsome hcall
      simp [hhandle, Handle.settle, hsome]

end Server

/-- **No request is stuck**: in every state that is reached, every request in flight can be answered
without waiting, in at most four steps of requests in flight. -/
theorem answerable_of_run (parseDnsName : DnsNameParser) (moka : MokaCalls) (config : Config)
    (backed : Bool) (es : List ServerEvent) :
    let s : Server governor := (serverMachine parseDnsName).final (.new moka config backed) es
    ∀ r req, s.requests r = some req → ∃ es' : List ServerEvent, es'.length ≤ 4 ∧
      (∀ e ∈ es', e.waited = 0 ∧ e.action.GoesOn) ∧
      ∃ x ∈ (serverMachine parseDnsName).run s es', ∃ i reply, x.out = some ⟨i, r, reply⟩ := by
  intro s r req hr
  have h : s.Tracked := Server.tracked_final parseDnsName moka config backed es
  have hanswerable : Server.Answerable parseDnsName 4 r s fun _ => True := by
    rcases hhandle : req.handle with _ | c | w
    · have hact : s.act parseDnsName (.returned r (.error .timeout)) =
          s.conclude r req (.error .timeout) := by
        simp only [Server.act, hr, hhandle]
      exact (Server.Answerable.one (.returned r (.error .timeout)) (by rw [hact]; rfl)
        trivial).mono (by omega)
    · obtain ⟨es', hlen, hes', hanswer, -⟩ := Server.answerable_of_call
        parseDnsName h hr hhandle
      exact ⟨es', by omega, hes', hanswer, trivial⟩
    · exact Server.answerable_of_waiter h hr hhandle
  obtain ⟨es', hlen, hes', hanswer, -⟩ := hanswerable
  exact ⟨es', hlen, hes', hanswer⟩

end RustWhois
