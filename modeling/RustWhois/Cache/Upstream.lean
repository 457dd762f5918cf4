import RustWhois.Cache.Coalescing

/-!
# What the cache spares the servers, and what it lets through

Runs of coalesced calls, over any number of instances with one backend.

* `Lasting`: an entry that lives until a given time, or that time is over;
* **`spaced_of_run`**: no call is in flight for a key within the lifetime of a response that the
  instance inserted for it, unless the entry was dropped;
* `Shielding`, **`throttled_of_run`**: a throttled response goes to the call that fetched it and to
  those that waited for that call, and to nobody else;
* `Holds`, `carried_of_run`: what every fetch for a key yields, every answer for that key has;
* **`fetched_of_run`**: every answer is the outcome of a fetch for its key.
-/

namespace RustWhois

open Rust

/-! ## Lifetimes -/

namespace Fleet

variable {s s' : Fleet} {action : FleetAction} {reply : FleetReply}

/-- The time is over, or the slot has an entry that lives until then. -/
def Lasting (s : Fleet) (slot : Slot) (time : Nat) : Prop :=
  time ≤ s.now ∨ ∃ e t, (s.caches slot.1).entries slot.2 = some e ∧ e.expiresAt = some t ∧ time ≤ t

theorem Lasting.tick {slot : Slot} {time : Nat} (h : Lasting s slot time) (waited : Nat) :
    Lasting (s.tick waited) slot time :=
  h.imp_left fun hle => Nat.le_trans hle (Nat.le_add_right _ _)

theorem Lasting.le_now {slot : Slot} {time : Nat} (h : Lasting s slot time) (hx : Exclusive s)
    {c : Nat} {call : FleetCall} (hc : s.calls c = some call) (hslot : call.slot = slot) :
    time ≤ s.now := by
  rcases h with hle | ⟨e, t, he, ht, hle⟩
  · exact hle
  · have hmiss := hx.misses c call hc
    rw [hslot] at hmiss
    have hdead : ¬ e.live s.now = true := by
      intro hlive
      simp [ExpiryCache.get, ExpiryCache.entry, he, hlive] at hmiss
    simp only [ExpiryEntry.live, ht, Option.all_some, decide_eq_true_eq] at hdead
    omega

/-- **Only the drop of the entry or its end ends a lifetime.** -/
theorem Lasting.act {slot : Slot} {time : Nat} (h : Lasting s slot time) (hx : Exclusive s)
    (hevict : action ≠ .evict slot) (ha : Acts s action reply s') : Lasting s' slot time := by
  have hsame : (s'.caches slot.1).entries slot.2 = (s.caches slot.1).entries slot.2 →
      Lasting s' slot time := by
    intro heq
    rw [Lasting, heq, ha.now_eq]
    exact h
  -- an insert comes with a call in flight, so that the time is over
  have hconclude : ∀ {c : Nat} {call : FleetCall} {response : WhoisResponse} {origin : Origin}
      {completed : Nat → Option Nat}, s.calls c = some call →
      Lasting (s.conclude c call response origin completed) slot time := by
    intro c call response origin completed hc
    by_cases hslot : call.slot = slot
    · exact .inl (h.le_now hx hc hslot)
    · have hentries : ((s.enter call.slot response origin).caches slot.1).entries slot.2 =
          (s.caches slot.1).entries slot.2 := entries_enter_of_ne fun heq => hslot heq.symm
      exact h.imp_right fun ⟨e, t, he, ht, hle⟩ => ⟨e, t, hentries.trans he, ht, hle⟩
  cases ha with
  | evicted slot' =>
    refine hsame ?_
    have hne : slot ≠ slot' := fun heq => hevict (by rw [heq])
    by_cases hi : slot.1 = slot'.1
    · have hk : slot.2 ≠ slot'.2 := fun hk => hne (Prod.ext hi hk)
      dsimp only
      rw [hi, Function.update_self]
      exact Function.update_of_ne hk _ _
    · dsimp only
      rw [Function.update_of_ne hi]
  | promoted running phase => exact hconclude running
  | inserted running phase => exact hconclude running
  | _ => exact hsame rfl

theorem Lasting.conclude (hx : Exclusive s) {c : Nat} {call : FleetCall}
    (hc : s.calls c = some call) (response : WhoisResponse) (origin : Origin)
    (completed : Nat → Option Nat) :
    Lasting (s.conclude c call response origin completed) call.slot (s.now + s.ttl response) := by
  have hentry : ((s.enter call.slot response origin).caches call.slot.1).entries call.slot.2 =
      some ⟨response, some (s.now + s.ttl response)⟩ := entries_enter_of_miss (hx.misses c call hc)
  exact .inr ⟨_, _, hentry, rfl, Nat.le_refl _⟩

theorem Lasting.landed (hx : Exclusive s) {c : Nat} {step : CallStep} {call : FleetCall}
    {response : WhoisResponse} (hc : s.calls c = some call)
    (h : s.landing c step = some (.ok response)) :
    Lasting (s.act (.resume c step)).2 call.slot (s.now + s.ttl response) := by
  obtain ⟨kind, slot, phase⟩ := call
  simp only [landing, hc] at h
  simp only [Fleet.act, hc, Fleet.resume]
  split at h
  · next hit origin readAt =>
    cases h
    exact Lasting.conclude hx hc hit origin s.completed
  · cases h
  · next response' fetchedAt =>
    cases h
    exact Lasting.conclude hx hc response _ _
  · cases h

end Fleet

/-! ## Fetches are spaced -/

theorem split_concat {α : Type} {past before mid : List α} {x z : α}
    (h : past ++ [z] = before ++ x :: mid) :
    past = before ∧ z = x ∧ mid = [] ∨ ∃ mid', mid = mid' ++ [z] ∧ past = before ++ x :: mid' := by
  rcases List.eq_nil_or_concat mid with rfl | ⟨mid', y, rfl⟩
  · obtain ⟨hpast, hz⟩ := List.append_inj' h rfl
    exact .inl ⟨hpast, List.singleton_inj.mp hz, rfl⟩
  · rw [List.concat_eq_append] at h ⊢
    rw [← List.cons_append, ← List.append_assoc] at h
    obtain ⟨hpast, hz⟩ := List.append_inj' h rfl
    exact .inr ⟨mid', by rw [List.singleton_inj.mp hz], hpast⟩

/-- What a run remembers of the responses that were inserted. -/
structure Spaced (first : Fleet) (past : List CoalescedStep) (s : Coalesced) : Prop where
  attended : s.Attended
  ttl : ∀ response, s.fleet.ttl response = first.ttl response
  lasting : ∀ before x mid, past = before ++ x :: mid → ∀ slot source response,
    x.out = some ⟨slot, source, .ok response⟩ → source = .fetched ∨ source = .promoted →
    (∀ y ∈ mid, y.event.action ≠ .evict slot) →
    s.fleet.Lasting slot (x.post.fleet.now + first.ttl response)

namespace Coalesced

variable {s s' : Coalesced} {action : CoalescedAction} {a : Option CallAnswer}

theorem Acts.lasting (h : Attended s) (ha : Acts s action a s') {slot : Slot} {source : Source}
    {response : WhoisResponse} (hout : a = some ⟨slot, source, .ok response⟩)
    (hsource : source = .fetched ∨ source = .promoted) :
    s'.fleet.Lasting slot (s.fleet.now + s.fleet.ttl response) := by
  have hjoins : ∀ {s₁ : Coalesced} {w i : Nat} {domain : Text}, ¬ Joins s₁ w i domain a s' := by
    intro s₁ w i domain hj
    subst hout
    cases hj
    rcases hsource with h | h <;> cases h
  cases ha with
  | started joins => exact absurd joins hjoins
  | restarted waits gone dropped joins => exact absurd joins hjoins
  | shared waits landed =>
    rw [Option.some.injEq, CallAnswer.mk.injEq] at hout
    obtain ⟨-, rfl, -⟩ := hout
    rcases hsource with h | h <;> cases h
  | @landed c step sole call outcome running lands =>
    rw [Option.some.injEq, CallAnswer.mk.injEq] at hout
    obtain ⟨rfl, -, hresult⟩ := hout
    cases outcome with
    | error e => cases hresult
    | ok r =>
      cases hresult
      exact Fleet.Lasting.landed h.exclusive running lands
  | _ => cases hout

end Coalesced

theorem spaced_step (first : Fleet) (past : List CoalescedStep) (s : Coalesced) (e : CoalescedEvent)
    (h : Spaced first past s) :
    Spaced first (past ++ [coalescedMachine.step s e]) (coalescedMachine.next s e).2 := by
  have hx := h.attended.tick e.waited
  have ha := Coalesced.acts_act (s.tick e.waited) e.action
  obtain ⟨faction, reply, hf⟩ := ha.fleet
  have httl : ∀ r, (coalescedMachine.next s e).2.fleet.ttl r = s.fleet.ttl r := hf.acts.ttl_eq
  refine ⟨h.attended.next e, fun r => (httl r).trans (h.ttl r), ?_⟩
  intro before x mid hsplit slot source response hout hsource hevict
  rcases split_concat hsplit with ⟨rfl, rfl, rfl⟩ | ⟨mid', rfl, rfl⟩
  · -- the step itself inserts the response
    have hnow : (coalescedMachine.next s e).2.fleet.now = (s.fleet.tick e.waited).now :=
      hf.acts.now_eq
    rw [Machine.step_post, hnow, ← h.ttl]
    exact ha.lasting hx hout hsource
  · have hold := h.lasting before x mid' rfl slot source response hout hsource
      fun z hz => hevict z (List.mem_append_left _ hz)
    refine (hold.tick e.waited).act hx.exclusive (fun heq => ?_) hf.acts
    exact hevict _ (List.mem_append_right _ List.mem_cons_self) (hf.evict slot heq)

/-- **No call is in flight for a key within the lifetime of a response that the instance inserted for
it**, unless the entry was dropped. -/
theorem spaced_of_run (moka : MokaCalls) (config : Config) (backed : Bool) (es : List CoalescedEvent)
    (before mid : List CoalescedStep) (x : CoalescedStep)
    (hrun : coalescedMachine.run (.new moka config backed) es = before ++ x :: mid)
    (slot : Slot) (source : Source) (response : WhoisResponse)
    (hout : x.out = some ⟨slot, source, .ok response⟩)
    (hsource : source = .fetched ∨ source = .promoted)
    (hevict : ∀ y ∈ mid, y.event.action ≠ .evict slot) :
    let s := coalescedMachine.final (.new moka config backed) es
    ∀ c call, s.fleet.calls c = some call → call.slot = slot →
      x.post.fleet.now + (Fleet.new config backed).ttl response ≤ s.fleet.now := by
  have hspaced : Spaced (.new config backed) (coalescedMachine.run (.new moka config backed) es)
      (coalescedMachine.final (.new moka config backed) es) :=
    coalescedMachine.history_of_step (spaced_step _)
      ⟨Coalesced.attended_new moka config backed, fun _ => rfl, by simp⟩ es
  intro s c call hc hslot
  have hlasting := hspaced.lasting before x mid hrun slot source response hout hsource hevict
  exact hlasting.le_now hspaced.attended.exclusive hc hslot

/-- A fetch of a record. -/
def recordFlight : List CoalescedEvent :=
  [⟨0, .start 0 "a.com"⟩, ⟨0, .resume 0 (.ask (.stored 0)) true⟩,
    ⟨5, .resume 0 (.returned (.ok (responseWithStatus .found))) true⟩, ⟨0, .resume 0 .store true⟩]

/-- The next call for the name is in flight an hour later. -/
theorem spaced_of_run_hour : 5 + fromSecs 3600 ≤
    (coalescedMachine.final (.new .documented createTestConfig false) (recordFlight ++
      ⟨0, .resume 0 .insert true⟩ :: [⟨fromSecs 3600, .start 0 "a.com."⟩])).fleet.now := by
  have hrun := coalescedMachine.run_append (.new .documented createTestConfig false) recordFlight
    (⟨0, .resume 0 .insert true⟩ :: [⟨fromSecs 3600, .start 0 "a.com."⟩])
  rw [Machine.run_cons] at hrun
  refine spaced_of_run .documented createTestConfig false _ _ _ _ hrun (0, "a.com") .fetched
    (responseWithStatus .found) (by decide +kernel) (.inl rfl) ?_ 1 _ rfl rfl
  intro y hy
  rw [List.mem_singleton.mp hy]
  rintro ⟨⟩

/-! ## Throttled responses are not kept -/

namespace Fleet

variable {s s' : Fleet} {action : FleetAction} {reply : FleetReply}

section Service

variable {slot : Slot} {response : WhoisResponse} {origin : Origin}

theorem service_enter_self : (s.enter slot response origin).service slot.1 =
    (s.service slot.1).insert s.now slot.2 response := by
  simp only [service, enter, Function.update_self]
  rfl

theorem service_enter_of_ne {i : Nat} (h : i ≠ slot.1) :
    (s.enter slot response origin).service i = s.service i := by
  simp only [service, enter, Function.update_of_ne h]

end Service

/-- No instance serves a throttled response, and the backend holds none. -/
structure Shielding (s : Fleet) : Prop where
  exclusive : Exclusive s
  shielded : ∀ i, (s.service i).Shielded s.now
  hits : ∀ c call hit origin readAt, s.calls c = some call →
    call.phase = .promoting hit origin readAt → ¬ hit.Throttled

theorem shielding_new (config : Config) (backed : Bool) : Shielding (new config backed) :=
  ⟨exclusive_new config backed, fun _ => shielded_new config backed, by simp [new]⟩

theorem Shielding.tick (h : Shielding s) (waited : Nat) : Shielding (s.tick waited) :=
  ⟨h.exclusive.tick waited, fun i => (h.shielded i).mono (Nat.le_add_right _ _), h.hits⟩

theorem Shielding.enter (h : Shielding s) {c : Nat} {call : FleetCall} (hc : s.calls c = some call)
    (response : WhoisResponse) (origin : Origin) (i : Nat) :
    ((s.enter call.slot response origin).service i).Shielded s.now := by
  by_cases hi : i = call.slot.1
  · rw [hi, service_enter_self]
    exact (h.shielded call.slot.1).insert fun _ => h.exclusive.misses c call hc
  · rw [service_enter_of_ne hi]
    exact h.shielded i

/-- **A step keeps throttled responses out of both tiers.** -/
theorem shielding_act (h : Shielding s) (hf : FetchAction action) (ha : Acts s action reply s') :
    Shielding s' := by
  have hx := exclusive_act h.exclusive hf ha
  have hproceed : ∀ {c : Nat} {call : FleetCall} {phase : Phase}, s.calls c = some call →
      (∀ hit origin readAt, phase = .promoting hit origin readAt → ¬ hit.Throttled) →
      ∀ c' call' hit origin readAt, (s.proceed c call phase).calls c' = some call' →
        call'.phase = .promoting hit origin readAt → ¬ hit.Throttled := by
    intro c call phase hc hphase c' call' hit origin readAt h' hp
    rcases of_update_some h' with ⟨rfl, rfl⟩ | ⟨-, h'⟩
    · exact hphase hit origin readAt hp
    · exact h.hits c' call' hit origin readAt h' hp
  have hrelease : ∀ c call c' call' hit origin readAt,
      (s.release c call).calls c' = some call' →
        call'.phase = .promoting hit origin readAt → ¬ hit.Throttled :=
    fun _ _ c' call' hit origin readAt h' => h.hits c' call' hit origin readAt (of_update_none h').2
  cases ha with
  | idle => exact h
  | hit live => exact h
  | opened miss free =>
    refine ⟨hx, h.shielded, fun c call hit origin readAt hc hp => ?_⟩
    rcases of_update_some hc with ⟨rfl, rfl⟩ | ⟨-, hc⟩
    · cases hp
    · exact h.hits c call hit origin readAt hc hp
  | evicted slot =>
    refine ⟨hx, fun i => ?_, h.hits⟩
    refine ⟨?_, (h.shielded i).backend⟩
    simp only [service]
    by_cases hi : i = slot.1
    · rw [hi, Function.update_self]
      exact (h.shielded slot.1).cache.evict slot.2
    · rw [Function.update_of_ne hi]
      exact (h.shielded i).cache
  | @asked c call answer hit running phase stored =>
    refine ⟨hx, h.shielded, hproceed running ?_⟩
    rintro _ _ _ ⟨⟩
    have hkept := (h.shielded call.slot.1).backendGet stored
    cases call.kind <;> exact hkept
  | fetching running phase kind => exact ⟨hx, h.shielded, hproceed running (by rintro _ _ _ ⟨⟩)⟩
  | @released c call step running => exact ⟨hx, h.shielded, hrelease c call⟩
  | @promoted c call hit origin readAt running phase =>
    exact ⟨hx, h.enter running hit origin, hrelease c call⟩
  | returned running phase => exact ⟨hx, h.shielded, hproceed running (by rintro _ _ _ ⟨⟩)⟩
  | @stored c call response fetchedAt running phase =>
    have hset : ((s.service call.slot.1).backendSet s.now call.slot.2 response).Shielded s.now :=
      (h.shielded call.slot.1).backendSet
    exact ⟨hx, fun i => ⟨(h.shielded i).cache, hset.backend⟩,
      hproceed running (by rintro _ _ _ ⟨⟩)⟩
  | @inserted c call response fetchedAt running phase =>
    exact ⟨hx, h.enter running response ⟨c, fetchedAt⟩, hrelease c call⟩

end Fleet

theorem Coalesced.Acts.throttled {s s' : Coalesced} {action : CoalescedAction}
    {a : Option CallAnswer} (h : s.fleet.Shielding) (ha : Acts s action a s') {slot : Slot}
    {source : Source} {response : WhoisResponse} (hout : a = some ⟨slot, source, .ok response⟩)
    (ht : response.Throttled) : source = .fetched ∨ ∃ leader, source = .shared leader := by
  have hjoins : ∀ {s₁ : Coalesced} {w i : Nat} {domain : Text}, s₁.fleet = s.fleet →
      ¬ Joins s₁ w i domain a s' := by
    intro s₁ w i domain hfleet hj
    subst hout
    cases hj with
    | hit live =>
      rw [hfleet] at live
      exact (h.shielded i).cache s.fleet.now (Nat.le_refl _) _ _ live ht
  cases ha with
  | started joins => exact absurd joins (hjoins rfl)
  | restarted waits gone dropped joins => exact absurd joins (hjoins rfl)
  | shared waits landed =>
    rw [Option.some.injEq, CallAnswer.mk.injEq] at hout
    exact .inr ⟨_, hout.2.1.symm⟩
  | @landed c step sole call outcome running lands =>
    rw [Option.some.injEq, CallAnswer.mk.injEq] at hout
    obtain ⟨-, rfl, hresult⟩ := hout
    cases outcome with
    | error e => cases hresult
    | ok r =>
      cases hresult
      obtain ⟨kind, slot, phase⟩ := call
      simp only [Fleet.landing, running] at lands
      split at lands
      · next hit origin readAt =>
        -- a response of the backend
        cases lands
        exact absurd (show hit.Throttled from ht) (h.hits c _ hit origin readAt running rfl)
      · exact .inl rfl
      · exact .inl rfl
      · cases lands
  | _ => cases hout

section Throttled

variable (moka : MokaCalls) (config : Config) (backed : Bool) (es : List CoalescedEvent)

theorem source_of_throttled : ∀ x ∈ coalescedMachine.run (.new moka config backed) es,
    ∀ slot source response, x.out = some ⟨slot, source, .ok response⟩ → response.Throttled →
      source = .fetched ∨ ∃ leader, source = .shared leader := by
  refine Machine.run_induction (I := fun s : Coalesced => s.fleet.Shielding)
    (C := fun _ _ => True) (fun s e h _ => ?_) (Fleet.shielding_new config backed)
    fun _ _ => trivial
  have ha := Coalesced.acts_act (s.tick e.waited) e.action
  obtain ⟨faction, reply, hf⟩ := ha.fleet
  exact ⟨Fleet.shielding_act (h.tick e.waited) hf.fetch hf.acts,
    fun slot source response hout ht => ha.throttled (h.tick e.waited) hout ht⟩

/-- The waiting call that step `x` answers has waited since an earlier step, when call `leader` was in
flight on its slot, and that call was over in step `y`. -/
def Awaited (past : List CoalescedStep) (x : CoalescedStep) (slot : Slot) (leader : Nat)
    (fresh sole : Bool) (y : CoalescedStep) : Prop :=
  ∃ before join mid w waiter call, past = before ++ join :: mid ∧ y ∈ mid ∧
    x.event.action = .wake w fresh sole ∧ join.post.waiters w = some waiter ∧
    waiter.slot = slot ∧ waiter.leader = leader ∧
    join.post.fleet.calls leader = some call ∧ call.slot = slot ∧
    ∃ step sole', y.event.action = .resume leader step sole'

/-- **A throttled response goes to the call that fetched it and to those that waited for that call,
and to nobody else.** -/
theorem throttled_of_run (past rest : List CoalescedStep) (x : CoalescedStep)
    (hrun : coalescedMachine.run (.new moka config backed) es = past ++ x :: rest)
    (slot : Slot) (source : Source) (response : WhoisResponse)
    (hout : x.out = some ⟨slot, source, .ok response⟩)
    (hstatus : response.lookupStatus = .rateLimited) :
    source = .fetched ∨ ∃ leader fresh sole y fetched, source = .shared leader ∧
      Awaited past x slot leader fresh sole y ∧ y.out = some ⟨slot, .fetched, .ok fetched⟩ ∧
      Except.ok response = share fresh sole (.ok fetched) := by
  have hsource := source_of_throttled moka config backed es
  rw [hrun] at hsource
  rcases hsource x (by simp) slot source response hout hstatus with hfetched | ⟨leader, rfl⟩
  · exact .inl hfetched
  refine .inr ⟨leader, ?_⟩
  obtain ⟨es', e, rfl, rfl⟩ := coalescedMachine.run_eq_append_cons hrun
  have ha := Coalesced.acts_act
    ((coalescedMachine.final (.new moka config backed) es').tick e.waited) e.action
  obtain ⟨w, waiter, outcome, fresh, sole, haction, hw, rfl, rfl, hlanded, hresult⟩ :=
    ha.shared_of hout
  obtain ⟨before, join, mid, hpast, hjoin, ⟨call, hcall, hslot⟩, hends⟩ :=
    (waitHistory_run moka config backed es').since w waiter hw
  obtain ⟨y, hy, step, sole', hstep, hyout⟩ := hends outcome hlanded
  rcases outcome with e' | fetched
  · cases hresult
  -- the call that was waited for was answered with the same response
  have hthrottled : fetched.Throttled := by
    cases fresh <;> cases hresult <;> exact hstatus
  have hyfetched : step.source = .fetched := by
    have hmem : y ∈ coalescedMachine.run (.new moka config backed) es' := by simp [hpast, hy]
    rcases hsource y (List.mem_append_left _ hmem) _ _ _ hyout hthrottled with h | ⟨leader', h⟩
    · exact h
    · cases step <;> cases h
  rw [hyfetched] at hyout
  exact ⟨fresh, sole, y, fetched, rfl, ⟨before, join, mid, w, waiter, call, hpast, hy, haction,
    hjoin, rfl, rfl, hcall, hslot, step, sole', hstep⟩, hyout, hresult⟩

end Throttled

/-- The waiting call of `throttledFlight` is answered with the response of the call that fetched it. -/
theorem throttled_of_run_waiting :
    let past := coalescedMachine.run (.new .documented createTestConfig false) throttledFlight
    let x := coalescedMachine.step
      (coalescedMachine.final (.new .documented createTestConfig false) throttledFlight)
      ⟨1, .wake 1 true true⟩
    x.out = some ⟨(0, "a.com"), .shared 0, .ok (responseWithStatus .rateLimited)⟩ ∧
      ∃ fresh sole y fetched, Awaited past x (0, "a.com") 0 fresh sole y ∧
        y.out = some ⟨(0, "a.com"), .fetched, .ok fetched⟩ := by
  intro past x
  have hout : x.out = some ⟨(0, "a.com"), .shared 0, .ok (responseWithStatus .rateLimited)⟩ := by
    decide +kernel
  refine ⟨hout, ?_⟩
  rcases throttled_of_run .documented createTestConfig false
    (throttledFlight ++ [⟨1, .wake 1 true true⟩]) past [] x (Machine.run_concat _ _ _ _) _ _ _ hout
    rfl with hsource | ⟨leader, fresh, sole, y, fetched, hsource, hawaited, hy, -⟩
  · cases hsource
  · cases hsource
    exact ⟨fresh, sole, y, fetched, hawaited, hy⟩

/-! ## What answers have in common with fetches -/

/-- The response that a call carries from a tier or a fetch. -/
def Phase.response : Phase → Option WhoisResponse
  | .promoting hit _ _ => some hit
  | .storing response _ => some response
  | .inserting response _ => some response
  | .asking | .fetching => none

namespace Fleet

variable {P : Text → WhoisResponse → Prop} {s s' : Fleet} {action : FleetAction}
  {reply : FleetReply}

/-- Every response under a key, in either tier and on its way, is of the kind `P` for it. -/
structure Holds (P : Text → WhoisResponse → Prop) (s : Fleet) : Prop where
  entries : ∀ (slot : Slot) e, (s.caches slot.1).entries slot.2 = some e → P slot.2 e.value
  backend : ∀ b ∈ s.backend, ∀ x ∈ b, P x.key x.response
  calls : ∀ c call r, s.calls c = some call → call.phase.response = some r → P call.slot.2 r

theorem holds_new (config : Config) (backed : Bool) : Holds P (new config backed) := by
  refine ⟨by simp [new, ExpiryCache.empty], fun b hb x hx => ?_, by simp [new]⟩
  cases backed with
  | false => cases hb
  | true =>
    cases hb
    cases hx

theorem Holds.of_get (h : Holds P s) {slot : Slot} {now : Nat} {r : WhoisResponse}
    (hlive : (s.caches slot.1).get now slot.2 = some r) : P slot.2 r := by
  obtain ⟨e, he, rfl⟩ := Option.map_eq_some_iff.mp hlive
  exact h.entries slot e (Option.filter_eq_some_iff.mp he).1

theorem Holds.of_backendGet (h : Holds P s) {i : Nat} {key : Text} {answer : BackendAnswer}
    {hit : WhoisResponse} (hget : (s.service i).backendGet s.now key answer = some hit) :
    P key hit := by
  obtain ⟨b, hb, hget⟩ := Option.bind_eq_some_iff.mp hget
  cases answer with
  | failed msg => cases hget
  | stored j =>
    obtain ⟨x, hx, rfl⟩ := Option.map_eq_some_iff.mp hget
    obtain ⟨hj, hkey⟩ := Option.filter_eq_some_iff.mp hx
    obtain ⟨rfl, -⟩ : x.key = key ∧ s.now < x.storedAt + x.ttl := by simpa using hkey
    exact h.backend b hb x (List.mem_of_getElem? hj)

theorem Holds.proceed (h : Holds P s) {c : Nat} {call : FleetCall} {phase : Phase}
    (hphase : ∀ r, phase.response = some r → P call.slot.2 r) : Holds P (s.proceed c call phase) := by
  refine ⟨h.entries, h.backend, fun c' call' r h' hr => ?_⟩
  rcases of_update_some h' with ⟨rfl, rfl⟩ | ⟨-, h'⟩
  · exact hphase r hr
  · exact h.calls c' call' r h' hr

theorem Holds.release (h : Holds P s) (c : Nat) (call : FleetCall) : Holds P (s.release c call) :=
  ⟨h.entries, h.backend, fun c' call' r h' => h.calls c' call' r (of_update_none h').2⟩

theorem Holds.conclude (h : Holds P s) {c : Nat} {call : FleetCall} {response : WhoisResponse}
    (hr : P call.slot.2 response) (origin : Origin) (completed : Nat → Option Nat) :
    Holds P (s.conclude c call response origin completed) := by
  refine ⟨fun slot e he => ?_, h.backend,
    fun c' call' r h' => h.calls c' call' r (of_update_none h').2⟩
  change ((s.enter call.slot response origin).caches slot.1).entries slot.2 = some e at he
  by_cases hslot : slot = call.slot
  · subst hslot
    rw [entries_enter] at he
    cases he
    exact hr
  · rw [entries_enter_of_ne hslot] at he
    exact h.entries slot e he

/-- **A step keeps the responses under their keys**, if what it fetches is of the kind. -/
theorem holds_act (hflag : ∀ key r, P key r → ∀ b, P key { r with cached := b }) (h : Holds P s)
    (hfetch : ∀ c call r, action = .resume c (.returned (.ok r)) → s.calls c = some call →
      call.phase = .fetching → P call.slot.2 r) (ha : Acts s action reply s') : Holds P s' := by
  cases ha with
  | idle => exact h
  | hit live => exact h
  | opened miss free =>
    refine ⟨h.entries, h.backend, fun c call r hc hr => ?_⟩
    rcases of_update_some hc with ⟨rfl, rfl⟩ | ⟨-, hc⟩
    · cases hr
    · exact h.calls c call r hc hr
  | evicted slot =>
    refine ⟨fun slot' e he => ?_, h.backend, h.calls⟩
    dsimp only at he
    by_cases hi : slot'.1 = slot.1
    · rw [hi, Function.update_self] at he
      exact h.entries slot' e (by rw [hi]; exact (of_update_none he).2)
    · rw [Function.update_of_ne hi] at he
      exact h.entries slot' e he
  | @asked c call answer hit running phase stored =>
    refine h.proceed fun r hr => ?_
    cases hr
    have hhit := h.of_backendGet stored
    cases call.kind with
    | get => exact hhit
    | getOrFetch => exact hflag _ _ hhit true
  | fetching running phase kind => exact h.proceed (by rintro _ ⟨⟩)
  | released running => exact h.release _ _
  | @promoted c call hit origin readAt running phase =>
    exact h.conclude (h.calls c call hit running (by rw [phase]; rfl)) origin _
  | @returned c call fetched running phase =>
    refine h.proceed fun r hr => ?_
    cases hr
    exact hflag _ _ (hfetch c call fetched rfl running phase) false
  | @stored c call response fetchedAt running phase =>
    have hr : P call.slot.2 response := h.calls c call response running (by rw [phase]; rfl)
    have hp : Holds P (s.proceed c call (.inserting response fetchedAt)) :=
      h.proceed (by rintro _ ⟨⟩; exact hr)
    refine ⟨hp.entries, fun b' hb' x hx => ?_, hp.calls⟩
    change b' ∈ ((s.service call.slot.1).backendSet s.now call.slot.2 response).backend at hb'
    rw [CacheService.backend_backendSet] at hb'
    obtain ⟨b, hb, rfl⟩ := Option.map_eq_some_iff.mp hb'
    rcases List.mem_append.mp hx with hx | hx
    · exact h.backend b hb x hx
    · obtain ⟨hkey, hresponse, -⟩ := ttl_of_mem_written hx
      rw [hkey, hresponse]
      exact hr
  | @inserted c call response fetchedAt running phase =>
    exact h.conclude (h.calls c call response running (by rw [phase]; rfl)) _ _

end Fleet

/-- The kind of an outcome does not depend on who gets it: neither on the flag of a response nor on an
error being a copy. -/
structure Transferable (P : Text → Except WhoisError WhoisResponse → Prop) : Prop where
  flag : ∀ key r, P key (.ok r) → ∀ b, P key (.ok { r with cached := b })
  copy : ∀ key e, P key (.error e) → P key (.error e.duplicate)

/-- The fetch that returns in a step yields an outcome of the kind `P` for its key. -/
def Fetches (P : Text → Except WhoisError WhoisResponse → Prop) (s : Coalesced)
    (e : CoalescedEvent) : Prop :=
  ∀ c outcome sole call, e.action = .resume c (.returned outcome) sole →
    s.fleet.calls c = some call → call.phase = .fetching → P call.slot.2 outcome

namespace Transferable

variable {P : Text → Except WhoisError WhoisResponse → Prop} {key : Text}

theorem unwrapError (h : Transferable P) {e : WhoisError} (he : P key (.error e)) (sole : Bool) :
    P key (.error (unwrapError sole e)) := by
  cases sole with
  | true => exact he
  | false => exact h.copy key e he

theorem mapError (h : Transferable P) {outcome : Except WhoisError WhoisResponse}
    (ho : P key outcome) (sole : Bool) :
    P key (outcome.mapError (RustWhois.unwrapError sole)) := by
  cases outcome with
  | ok r => exact ho
  | error e => exact h.unwrapError ho sole

theorem share (h : Transferable P) {outcome : Except WhoisError WhoisResponse}
    (ho : P key outcome) (fresh sole : Bool) : P key (RustWhois.share fresh sole outcome) := by
  cases outcome with
  | error e => exact h.unwrapError ho sole
  | ok r =>
    cases fresh with
    | true => exact ho
    | false => exact h.flag key r ho true

end Transferable

namespace Coalesced

variable {P : Text → Except WhoisError WhoisResponse → Prop} {s s' : Coalesced}
  {action : CoalescedAction} {a : Option CallAnswer}

/-- The responses under a key, and the outcomes that calls wait for, are of the kind `P`. -/
structure Carries (P : Text → Except WhoisError WhoisResponse → Prop) (s : Coalesced) : Prop where
  attended : s.Attended
  holds : s.fleet.Holds fun key r => P key (.ok r)
  shares : ∀ w waiter outcome, s.waiters w = some waiter →
    s.landed waiter.leader = some outcome → P waiter.slot.2 outcome

theorem Carries.of_landing (hP : Transferable P) (h : Carries P s) {c : Nat} {step : CallStep}
    {call : FleetCall} {outcome : Except WhoisError WhoisResponse}
    (running : s.fleet.calls c = some call) (lands : s.fleet.landing c step = some outcome)
    (hfetch : ∀ outcome, step = .returned outcome → call.phase = .fetching →
      P call.slot.2 outcome) : P call.slot.2 outcome := by
  obtain ⟨kind, slot, phase⟩ := call
  simp only [Fleet.landing, running] at lands
  split at lands
  · next hit origin readAt =>
    cases lands
    exact hP.flag _ hit (h.holds.calls c _ hit running rfl) true
  · cases lands
    exact hfetch _ rfl rfl
  · next response fetchedAt =>
    cases lands
    exact h.holds.calls c _ response running rfl
  · cases lands

/-- **An answer is of the kind of the fetches for its key.** -/
theorem Carries.answers (hP : Transferable P) (h : Carries P s)
    (hfetch : ∀ c outcome sole call, action = .resume c (.returned outcome) sole →
      s.fleet.calls c = some call → call.phase = .fetching → P call.slot.2 outcome)
    (ha : Acts s action a s') {answer : CallAnswer} (hout : a = some answer) :
    P answer.slot.2 answer.result := by
  have hjoins : ∀ {s₁ : Coalesced} {w i : Nat} {domain : Text}, Joins s₁ w i domain a s' →
      s₁.fleet = s.fleet → P answer.slot.2 answer.result := by
    intro s₁ w i domain hj hfleet
    subst hout
    cases hj with
    | @hit cached live =>
      rw [hfleet] at live
      have hheld : P (Prod.snd (i, CacheService.normalizeDomain domain)) (.ok cached) :=
        h.holds.of_get live
      exact hP.flag _ _ hheld true
  cases ha with
  | started joins => exact hjoins joins rfl
  | restarted waits gone dropped joins => exact hjoins joins rfl
  | shared waits landed =>
    cases hout
    exact hP.share (h.shares _ _ _ waits landed) _ _
  | @landed c step sole call outcome running lands =>
    cases hout
    refine hP.mapError (h.of_landing hP running lands fun outcome hstep hphase => ?_) sole
    subst hstep
    exact hfetch c outcome sole call rfl running hphase
  | _ => cases hout

theorem Carries.act (hP : Transferable P) (h : Carries P s)
    (hfetch : ∀ c outcome sole call, action = .resume c (.returned outcome) sole →
      s.fleet.calls c = some call → call.phase = .fetching → P call.slot.2 outcome)
    (ha : Acts s action a s') : Carries P s' := by
  have hattended := attended_act h.attended ha
  obtain ⟨faction, reply, hf⟩ := ha.fleet
  refine ⟨hattended, ?_, fun w waiter outcome hw hlanded => ?_⟩
  · refine Fleet.holds_act (fun key r => hP.flag key r) h.holds ?_ hf.acts
    intro c call r haction running phase
    obtain ⟨sole, rfl⟩ := hf.resume c _ haction
    exact hfetch c (.ok r) sole call rfl running phase
  · rcases ha.waits_of h.attended hw with hold | ⟨call, hcall, -⟩
    · rcases ha.landed_of hlanded with hbefore | ⟨step, sole, rfl, hlands⟩
      · exact h.shares w waiter outcome hold hbefore
      · obtain ⟨call, running⟩ : ∃ call, s.fleet.calls waiter.leader = some call := by
          rcases hrun : s.fleet.calls waiter.leader with _ | call
          · rw [Fleet.landing, hrun] at hlands
            cases hlands
          · exact ⟨call, rfl⟩
        rw [← (h.attended.follows w waiter hold).2 call running]
        refine h.of_landing hP running hlands fun outcome hstep hphase => ?_
        subst hstep
        exact hfetch _ outcome sole call rfl running hphase
    · -- a call in flight has no outcome
      have hnone := hattended.flying waiter.leader (by rw [hcall]; rfl)
      rw [hlanded] at hnone
      cases hnone

end Coalesced

/-- **What every fetch for a key yields, every answer for that key has**: from an entry, from the
backend, from the fetch of another instance or of a call that was waited for. -/
theorem carried_of_run {P : Text → Except WhoisError WhoisResponse → Prop} (hP : Transferable P)
    (moka : MokaCalls) (config : Config) (backed : Bool) (es : List CoalescedEvent)
    (hfetch : ∀ x ∈ coalescedMachine.run (.new moka config backed) es, Fetches P x.pre x.event) :
    ∀ x ∈ coalescedMachine.run (.new moka config backed) es, ∀ answer, x.out = some answer →
      P answer.slot.2 answer.result := by
  refine Machine.run_induction (I := fun s : Coalesced => s.Carries P)
    (C := fun s e => Fetches P s e) (fun s e h hC => ?_) ?_ hfetch
  · have ht : (s.tick e.waited).Carries P := by
      refine ⟨h.attended.tick e.waited, ?_, h.shares⟩
      exact ⟨h.holds.entries, h.holds.backend, h.holds.calls⟩
    have ha := Coalesced.acts_act (s.tick e.waited) e.action
    exact ⟨ht.act hP hC ha, fun answer hout => ht.answers hP hC ha hout⟩
  · exact ⟨Coalesced.attended_new moka config backed, Fleet.holds_new config backed, by
      simp [Coalesced.new]⟩

/-! ## Where answers come from -/

/-- The outcome of a fetch, as a caller gets it. -/
inductive SameOutcome :
    Except WhoisError WhoisResponse → Except WhoisError WhoisResponse → Prop
  | response (r : WhoisResponse) (b : Bool) : SameOutcome (.ok r) (.ok { r with cached := b })
  | error (e : WhoisError) : SameOutcome (.error e) (.error e)
  | copy (e : WhoisError) : SameOutcome (.error e) (.error e.duplicate)

/-- The fetch for the key returned an outcome in a step of the run. -/
def FetchedIn (run : List CoalescedStep) (key : Text)
    (outcome : Except WhoisError WhoisResponse) : Prop :=
  ∃ y ∈ run, ∃ c sole call, y.event.action = .resume c (.returned outcome) sole ∧
    y.pre.fleet.calls c = some call ∧ call.phase = .fetching ∧ call.slot.2 = key

theorem transferable_fetchedIn (run : List CoalescedStep) : Transferable fun key result =>
    ∃ outcome, FetchedIn run key outcome ∧ SameOutcome outcome result := by
  refine ⟨?_, ?_⟩
  · rintro key r ⟨_, hfetched, hsame⟩ b
    cases hsame with
    | response r₀ b₀ => exact ⟨.ok r₀, hfetched, .response r₀ b⟩
  · rintro key e ⟨outcome, hfetched, hsame⟩
    cases hsame with
    | error => exact ⟨.error e, hfetched, .copy e⟩
    | copy e₀ =>
      rw [WhoisError.duplicate_duplicate]
      exact ⟨.error e₀, hfetched, .copy e₀⟩

/-- A call that fetched carries its response unflagged. -/
def Unflagged (s : Fleet) : Prop :=
  ∀ c call r t, s.calls c = some call → call.phase = .storing r t ∨ call.phase = .inserting r t →
    r.cached = false

theorem unflagged_act {s s' : Fleet} {action : FleetAction} {reply : FleetReply} (h : Unflagged s)
    (ha : s.Acts action reply s') : Unflagged s' := by
  have hproceed : ∀ {c : Nat} {call : FleetCall} {phase : Phase},
      (∀ r t, phase = .storing r t ∨ phase = .inserting r t → r.cached = false) →
      Unflagged (s.proceed c call phase) := by
    intro c call phase hphase c' call' r t h' hp
    rcases of_update_some h' with ⟨rfl, rfl⟩ | ⟨-, h'⟩
    · exact hphase r t hp
    · exact h c' call' r t h' hp
  have hrelease : ∀ c call, Unflagged (s.release c call) :=
    fun c call c' call' r t h' => h c' call' r t (of_update_none h').2
  cases ha with
  | opened miss free =>
    intro c call r t hc hp
    rcases of_update_some hc with ⟨rfl, rfl⟩ | ⟨-, hc⟩
    · rcases hp with hp | hp <;> cases hp
    · exact h c call r t hc hp
  | asked running phase stored =>
    exact hproceed fun r t hp => by rcases hp with hp | hp <;> cases hp
  | fetching running phase kind =>
    exact hproceed fun r t hp => by rcases hp with hp | hp <;> cases hp
  | @released c call step running => exact hrelease c call
  | @promoted c call hit origin readAt running phase => exact hrelease c call
  | returned running phase =>
    refine hproceed fun r t hp => ?_
    rcases hp with hp | hp <;> cases hp
    rfl
  | @stored c call response fetchedAt running phase =>
    refine hproceed fun r t hp => ?_
    rcases hp with hp | hp <;> cases hp
    exact h c call response fetchedAt running (.inl phase)
  | @inserted c call response fetchedAt running phase => exact hrelease c call
  | _ => exact h

/-- The flag of a response from this source: it is set if the response comes from a tier, and not if
the call fetched it; and a shared one is without it only where moka says that the entry is fresh. -/
structure Source.Flags (source : Source) (action : CoalescedAction) (cached : Bool) : Prop where
  fetched : source = .fetched → cached = false
  tier : source = .hit ∨ source = .promoted → cached = true
  shared : ∀ leader, source = .shared leader → cached = false →
    ∃ w sole, action = .wake w true sole

/-- **The flag of an answer tells where it comes from.** -/
theorem Coalesced.Acts.flag {s s' : Coalesced} {action : CoalescedAction} {a : Option CallAnswer}
    (h : Unflagged s.fleet) (ha : Acts s action a s') {slot : Slot} {source : Source}
    {response : WhoisResponse} (hout : a = some ⟨slot, source, .ok response⟩) :
    source.Flags action response.cached := by
  have hjoins : ∀ {s₁ : Coalesced} {w i : Nat} {domain : Text}, Joins s₁ w i domain a s' →
      source.Flags action response.cached := by
    intro s₁ w i domain hj
    subst hout
    cases hj with
    | hit live => exact ⟨by rintro ⟨⟩, fun _ => rfl, by rintro _ ⟨⟩⟩
  cases ha with
  | started joins => exact hjoins joins
  | restarted waits gone dropped joins => exact hjoins joins
  | @shared w fresh sole waiter outcome waits landed =>
    rw [Option.some.injEq, CallAnswer.mk.injEq] at hout
    obtain ⟨-, rfl, hresult⟩ := hout
    refine ⟨by rintro ⟨⟩, (by rintro (h | h) <;> cases h), fun _ _ hflag => ?_⟩
    cases fresh with
    | true => exact ⟨w, sole, rfl⟩
    | false =>
      -- the entry is not fresh, and the response is flagged
      cases outcome <;> cases hresult
      cases hflag
  | @landed c step sole call outcome running lands =>
    rw [Option.some.injEq, CallAnswer.mk.injEq] at hout
    obtain ⟨-, rfl, hresult⟩ := hout
    cases outcome with
    | error e => cases hresult
    | ok r =>
      cases hresult
      obtain ⟨kind, slot, phase⟩ := call
      simp only [Fleet.landing, running] at lands
      split at lands
      · cases lands
        exact ⟨by rintro ⟨⟩, fun _ => rfl, by rintro _ ⟨⟩⟩
      · cases lands
      · next response' fetchedAt =>
        cases lands
        exact ⟨fun _ => h c _ response fetchedAt running (.inr rfl),
          (by rintro (h | h) <;> cases h), by rintro _ ⟨⟩⟩
      · cases lands
  | _ => cases hout

/-- **The cache makes up no answer and mixes up no keys.** Every answer is the outcome of a fetch for
its key, by some instance, that has returned by then; and its flag tells where it comes from. -/
theorem fetched_of_run (moka : MokaCalls) (config : Config) (backed : Bool) (es : List CoalescedEvent)
    (past rest : List CoalescedStep) (x : CoalescedStep)
    (hrun : coalescedMachine.run (.new moka config backed) es = past ++ x :: rest)
    (answer : CallAnswer) (hout : x.out = some answer) :
    (∃ outcome, FetchedIn (past ++ [x]) answer.slot.2 outcome ∧
      SameOutcome outcome answer.result) ∧
    ∀ response, answer.result = .ok response →
      answer.source.Flags x.event.action response.cached := by
  obtain ⟨es', e, rfl, rfl⟩ := coalescedMachine.run_eq_append_cons hrun
  rw [← Machine.run_concat]
  refine ⟨?_, fun response hresponse => ?_⟩
  · refine carried_of_run (transferable_fetchedIn _) moka config backed (es' ++ [e]) ?_ _ ?_ answer hout
    · intro y hy c outcome sole call haction hcall hphase
      refine ⟨outcome, ⟨y, hy, c, sole, call, haction, hcall, hphase, rfl⟩, ?_⟩
      cases outcome with
      | ok r => exact .response r r.cached
      | error e => exact .error e
    · rw [Machine.run_concat]
      exact List.mem_append_right _ List.mem_cons_self
  · have hunflagged : Unflagged (coalescedMachine.final (.new moka config backed) es').fleet := by
      refine coalescedMachine.final_of_step (I := fun s => Unflagged s.fleet) (fun s e h => ?_)
        (by rintro _ _ _ _ ⟨⟩) es'
      obtain ⟨faction, reply, hf⟩ := (Coalesced.acts_act (s.tick e.waited) e.action).fleet
      exact unflagged_act (s := s.fleet.tick e.waited) h hf.acts
    obtain ⟨slot, source, result⟩ := answer
    cases hresponse
    exact (Coalesced.acts_act _ e.action).flag
      (s := (coalescedMachine.final (.new moka config backed) es').tick e.waited) hunflagged hout

/-- The record of `recordFlight`. -/
theorem fetched_of_run_record : ∃ outcome, FetchedIn
    (coalescedMachine.run (.new .documented createTestConfig false)
      (recordFlight ++ [⟨0, .resume 0 .insert true⟩])) "a.com" outcome ∧
    SameOutcome outcome (.ok (responseWithStatus .found)) := by
  have h := fetched_of_run .documented createTestConfig false (recordFlight ++ [⟨0, .resume 0 .insert true⟩])
    _ [] _ (Machine.run_concat _ _ _ _) ⟨(0, "a.com"), .fetched, .ok (responseWithStatus .found)⟩
    (by decide +kernel)
  rw [Machine.run_concat]
  exact h.1

end RustWhois
