import RustWhois.Rdap.Bootstrap

/-!
# The RDAP server of a TLD

`rdap.rs`: the server of a TLD is looked up in `tld_servers`, and discovered in the bootstrap data
when that has none.

* `RdapBootstrap.discover`, `RdapState.findRdapServer`;
* `findMachine`: runs of calls;
* `Outlived`: `tld_servers` answers a call past the refresh of the data;
* **`find_fresh_iff`**: a returned server is that of a copy within its refresh unless it outlived
  that.
-/

namespace RustWhois

open Rust

/-- The `lookup` of `discover_rdap_server_bootstrap`. -/
def RdapBootstrap.lookup (self : RdapBootstrap) (candidate : Text) : Option Text :=
  (self.services.find? fun service => service.tlds.any (· == candidate)).bind (·.servers.head?)

/-- The server that the data names for a TLD, by the TLD itself or by its last label. -/
def RdapBootstrap.discover (self : RdapBootstrap) (tld : Text) : Option Text :=
  match self.lookup tld with
  | some server => some server
  | none => (tld.split '.').getLast?.bind fun lastLabel =>
    if lastLabel = tld then none else self.lookup lastLabel

namespace RdapState

/-- `discover_rdap_server_bootstrap`. -/
def discoverRdapServerBootstrap (self : RdapState) (t : CallTimes) (outcome : FetchOutcome)
    (tld : Text) : (BootstrapAction × CallResult (Option Text)) × RdapState :=
  let ((action, result), self) := self.getOrFetchBootstrap t outcome
  match result with
  | .returned (.ok bootstrap) => ((action, .returned (.ok (bootstrap.discover tld))), self)
  | .returned (.error _) => ((action, .returned (.ok none)), self)
  | .dropped => ((action, .dropped), self)
  | .panicked => ((action, .panicked), self)

/-- A discovered server is entered unless the TLD has one by now. -/
def enter (self : RdapState) (tld server : Text) : RdapState :=
  if (self.tldServers tld).isSome then self
  else { self with tldServers := Function.update self.tldServers tld (some server) }

/-- `find_rdap_server`, with what was decided about the bootstrap data where it was consulted. -/
def findRdapServer (self : RdapState) (t : CallTimes) (outcome : FetchOutcome) (tld : Text) :
    (Option BootstrapAction × CallResult Text) × RdapState :=
  match self.tldServers tld with
  | some server => ((none, .returned (.ok server)), self)
  | none =>
    let ((action, result), self) := self.discoverRdapServerBootstrap t outcome tld
    match result with
    | .returned (.ok (some server)) => ((action, .returned (.ok server)), self.enter tld server)
    | .returned _ =>
      ((action,
        .returned (.error (.unsupportedTld ("No RDAP server found for TLD: ".toList ++ tld)))), self)
    | .dropped => ((action, .dropped), self)
    | .panicked => ((action, .panicked), self)

end RdapState

theorem findRdapServer_returned (s : RdapState) (t : CallTimes) {outcome : FetchOutcome}
    (tld : Text) (h : outcome.interrupts = false) : ∃ r, (s.findRdapServer t outcome tld).1.2 = .returned r := by
  rcases returned_or_dropped s t outcome with ⟨r, hr⟩ | ⟨-, hi⟩
  · simp only [RdapState.findRdapServer, RdapState.discoverRdapServerBootstrap]
    generalize s.getOrFetchBootstrap t outcome = x at hr
    rcases x with ⟨⟨action, result⟩, s'⟩
    cases hr
    cases s.tldServers tld with
    | some server => exact ⟨_, rfl⟩
    | none =>
      rcases r with e | bootstrap
      · exact ⟨_, rfl⟩
      · cases hd : bootstrap.discover tld <;> simp [hd]
  · rw [h] at hi
    cases hi

/-! ## Runs -/

structure FindCall where
  waits : Waits
  outcome : FetchOutcome
  tld : Text

/-- The fetch succeeds, where one begins. -/
def FindCall.Succeeds (e : FindCall) : Prop := ∃ data, e.outcome = .ok data

abbrev FindStep : Type :=
  Machine.Step RdapClocked FindCall (Option BootstrapAction × CallResult Text)

/-- The calls of `find_rdap_server`, one after another. -/
def findMachine : Machine RdapClocked FindCall (Option BootstrapAction × CallResult Text) where
  next s e :=
    let t := e.waits.times s.now
    let r := s.service.findRdapServer t e.outcome e.tld
    (r.1, ⟨r.2, t.done⟩)

namespace FindStep

def times (x : FindStep) : CallTimes := x.event.waits.times x.pre.now

/-- The time of the answer: of the look into `tld_servers`, or of the answer about the data. -/
def answeredAt (x : FindStep) : Nat := x.out.1.elim x.times.asked x.times.answeredAt

def fetches (x : FindStep) : List BootstrapFetch :=
  x.out.1.elim [] (fetchOf · x.times x.event.outcome)

end FindStep

/-- The fetches that a run of finds began. -/
def findFetches (past : List FindStep) : List BootstrapFetch := past.flatMap FindStep.fetches

theorem findFetches_concat (past : List FindStep) (x : FindStep) :
    findFetches (past ++ [x]) = findFetches past ++ x.fetches := by
  simp [findFetches]

def findRun (es : List FindCall) : List FindStep := findMachine.run .new es

/-- The next find after a run. -/
def nextFind (es : List FindCall) (e : FindCall) : FindStep :=
  findMachine.step (findMachine.final .new es) e

/-- `tld_servers` answers, and the data was fetched more than a refresh before. -/
def Outlived (s : RdapClocked) (e : FindCall) : Prop :=
  (s.service.tldServers e.tld).isSome ∧ ∀ f ∈ s.service.bootstrap.fetchedAt,
    f + fromSecs bootstrapRefreshSecs < s.now + e.waits.waited

instance (s : RdapClocked) (e : FindCall) : Decidable (Outlived s e) := by
  unfold Outlived; infer_instance

/-! ## The servers are those of the last copy -/

/-- The state remembers its fetches, all of which brought a copy, and its servers are those that the
last copy names. -/
structure Named (fs : List BootstrapFetch) (now : Nat) (s : RdapState) : Prop where
  remembers : Remembers fs now s
  brought : ∀ f ∈ fs, f.outcome.data ≠ none
  named : ∀ tld server, s.tldServers tld = some server →
    ∃ c ∈ lastCopy fs, c.2.discover tld = some server

namespace Named

variable {fs : List BootstrapFetch} {now : Nat} {s : RdapState} {t : CallTimes}
  {outcome : FetchOutcome} {tld server : Text}

theorem enter (h : Named fs now s) {c : Nat × RdapBootstrap} (hc : lastCopy fs = some c)
    (hd : c.2.discover tld = some server) : Named fs now (s.enter tld server) := by
  unfold RdapState.enter
  split_ifs
  · exact h
  · refine ⟨{ h.remembers with }, h.brought, ?_⟩
    intro tld' server' hs
    dsimp only at hs
    by_cases ht : tld' = tld
    · subst ht
      rw [Function.update_self] at hs
      cases hs
      exact ⟨c, hc, hd⟩
    · rw [Function.update_of_ne ht] at hs
      exact h.named tld' server' hs

/-- **A call whose fetch succeeds** clears the servers with the copy they come from. -/
theorem call (h : Named fs now s) (hle : now ≤ t.asked) {data : RdapBootstrap}
    (ho : outcome = .ok data) :
    Named (fs ++ fetchOf (s.getOrFetchBootstrap t outcome).1.1 t outcome) t.done
      (s.getOrFetchBootstrap t outcome).2 := by
  have hr := h.remembers.call hle outcome
  have hans := answered s t outcome
  have hstay : fs ++ [] = fs := List.append_nil fs
  subst ho
  generalize s.getOrFetchBootstrap t (.ok data) = r at hans hr
  rcases r with ⟨⟨action, result⟩, s'⟩
  cases hans with
  | cached | stale | unavailable =>
    refine ⟨hr, ?_, ?_⟩
    · simpa [fetchOf] using h.brought
    · simpa [fetchOf] using h.named
  | failed result spaced old nothing kept lost => cases nothing
  | fetched result data' servers spaced old copy given cleared =>
    cases copy
    refine ⟨hr, ?_, ?_⟩
    · intro f hf
      rcases List.mem_append.mp hf with hf | hf
      · exact h.brought f hf
      · rw [List.mem_singleton.mp hf]
        exact Option.some_ne_none _
    · intro tld server hs
      dsimp only at hs
      rw [cleared] at hs
      split_ifs at hs with hd
      -- the first copy: there was no server before it
      obtain ⟨c, hc, -⟩ := h.named tld server hs
      refine absurd ⟨rfl, ?_⟩ hd
      rw [h.remembers.data_eq hc]
      rfl

theorem find (h : Named fs now s) (hle : now ≤ t.asked) {data : RdapBootstrap}
    (ho : outcome = .ok data) :
    Named (fs ++ (s.findRdapServer t outcome tld).1.1.elim [] (fetchOf · t outcome)) t.done
      (s.findRdapServer t outcome tld).2 := by
  unfold RdapState.findRdapServer
  split
  · have htimes := t.asked_le.trans (t.recent_le.trans t.begun_le)
    exact ⟨by simpa using h.remembers.mono (hle.trans htimes), by simpa using h.brought,
      by simpa using h.named⟩
  · have hcall := h.call hle ho
    have hcopy : ∀ data, (s.getOrFetchBootstrap t outcome).1.2 = .returned (.ok data) →
        ∃ c ∈ lastCopy (fs ++ fetchOf (s.getOrFetchBootstrap t outcome).1.1 t outcome),
          c.2 = data := fun data => h.remembers.copy_of_returned hle
    simp only [RdapState.discoverRdapServerBootstrap]
    generalize s.getOrFetchBootstrap t outcome = r at hcall hcopy
    rcases r with ⟨⟨action, (e | bootstrap) | _ | _⟩, s'⟩
    · exact hcall
    · cases hd : bootstrap.discover tld with
      | none => simpa [hd] using hcall
      | some server =>
        obtain ⟨c, hc, rfl⟩ := hcopy bootstrap rfl
        simpa [hd] using hcall.enter hc hd
    · exact hcall
    · exact hcall

theorem findRdapServer_of_none (hn : s.tldServers tld = none)
    (hr : (s.findRdapServer t outcome tld).1.2 = .returned (.ok server)) :
    ∃ bootstrap, (s.getOrFetchBootstrap t outcome).1.2 = .returned (.ok bootstrap) ∧
      bootstrap.discover tld = some server ∧
      (s.findRdapServer t outcome tld).1.1 = some (s.getOrFetchBootstrap t outcome).1.1 := by
  simp only [RdapState.findRdapServer, hn, RdapState.discoverRdapServerBootstrap] at hr ⊢
  generalize s.getOrFetchBootstrap t outcome = r at hr ⊢
  rcases r with ⟨⟨action, (e | bootstrap) | _ | _⟩, s'⟩
  · cases hr
  · cases hd : bootstrap.discover tld with
    | none =>
      simp only [hd] at hr
      cases hr
    | some server' =>
      simp only [hd] at hr ⊢
      cases hr
      exact ⟨bootstrap, rfl, hd, trivial⟩
  · cases hr
  · cases hr

theorem cached_iff (h : Named fs now s) (hs : s.tldServers tld = some server) (asked : Nat) :
    (∃ f ∈ fs, ∃ copy, f.outcome.data = some copy ∧ copy.discover tld = some server ∧
        asked ≤ f.done + fromSecs bootstrapRefreshSecs) ↔
      ¬ ∀ f ∈ s.bootstrap.fetchedAt, f + fromSecs bootstrapRefreshSecs < asked := by
  obtain ⟨c, hc, hd⟩ := h.named tld server hs
  have hf : s.bootstrap.fetchedAt = some c.1 := by rw [h.remembers.fetchedAt, hc]; rfl
  constructor
  · rintro ⟨f, hmem, copy, hcopy, -, hle⟩ hall
    have hlt := hall c.1 hf
    have hdone : f.done ≤ c.1 := h.remembers.copied f hmem (by rw [hcopy]; rfl) c hc
    omega
  · intro hnot
    obtain ⟨f, hmem, hdone, hcopy⟩ := mem_of_lastCopy hc
    refine ⟨f, hmem, c.2, hcopy, hd, ?_⟩
    by_contra hlt
    refine hnot fun f' hf' => ?_
    rw [hf] at hf'
    cases hf'
    omega

theorem discovered (h : Named fs now s) (hle : now ≤ t.asked) {data : RdapBootstrap}
    (ho : outcome = .ok data) {bootstrap : RdapBootstrap}
    (hr : (s.getOrFetchBootstrap t outcome).1.2 = .returned (.ok bootstrap)) :
    ∃ f ∈ fs ++ fetchOf (s.getOrFetchBootstrap t outcome).1.1 t outcome,
      f.outcome.data = some bootstrap ∧
        t.answeredAt (s.getOrFetchBootstrap t outcome).1.1 ≤
          f.done + fromSecs bootstrapRefreshSecs := by
  obtain ⟨c, hc, rfl⟩ := h.remembers.copy_of_returned hle hr
  obtain ⟨f, hmem, hdone, hcopy⟩ := mem_of_lastCopy hc
  refine ⟨f, hmem, hcopy, ?_⟩
  by_contra hlt
  have hold : c.1 + fromSecs bootstrapRefreshSecs <
      t.answeredAt (s.getOrFetchBootstrap t outcome).1.1 := by omega
  -- every fetch brought a copy
  rcases h.remembers.stale c hc hold with ⟨g, hg, hnone⟩ | ⟨g, hg, hnone, -⟩
  · unfold fetchOf at hg
    split_ifs at hg
    · rw [List.mem_singleton.mp hg, ho] at hnone
      cases hnone
    · cases hg
  · exact h.brought g hg hnone

end Named

theorem named_empty : Named [] 0 .empty where
  remembers := remembers_empty
  brought := by simp
  named := nofun

theorem named_run {es : List FindCall} (hall : ∀ e ∈ es, e.Succeeds) :
    Named (findFetches (findRun es)) (findMachine.final .new es).now
      (findMachine.final .new es).service := by
  refine Machine.history_induction (m := findMachine) (C := fun _ e => e.Succeeds)
    (H := fun past s => Named (findFetches past) s.now s.service) ?_ ?_ ?_
  · intro past s e h hok
    obtain ⟨data, ho⟩ := hok
    rw [findFetches_concat]
    exact h.find (Nat.le_add_right _ _) ho
  · exact named_empty
  · intro x hx
    exact hall _ (findMachine.event_mem_of_mem_run hx)

/-- **A returned server is that of a copy within its refresh exactly if it has not outlived that**:
after any run of finds whose fetches succeed, for any next find. -/
theorem find_fresh_iff (es : List FindCall) (e : FindCall) (hall : ∀ x ∈ e :: es, x.Succeeds)
    (server : Text) (hr : (nextFind es e).out.2 = .returned (.ok server)) :
    (∃ f ∈ findFetches (findRun es) ++ (nextFind es e).fetches, ∃ copy,
      f.outcome.data = some copy ∧ copy.discover e.tld = some server ∧
        (nextFind es e).answeredAt ≤ f.done + fromSecs bootstrapRefreshSecs) ↔
      ¬ Outlived (findMachine.final .new es) e := by
  have h := named_run fun x hx => hall x (List.mem_cons_of_mem _ hx)
  obtain ⟨data, ho⟩ := hall e List.mem_cons_self
  set s := findMachine.final .new es
  set t := e.waits.times s.now
  have hle : s.now ≤ t.asked := Nat.le_add_right _ _
  have hx : (nextFind es e).out = (s.service.findRdapServer t e.outcome e.tld).1 := rfl
  cases hs : s.service.tldServers e.tld with
  | some server' =>
    have hfind : s.service.findRdapServer t e.outcome e.tld =
        ((none, .returned (.ok server')), s.service) := by
      simp only [RdapState.findRdapServer, hs]
    rw [hx, hfind] at hr
    cases hr
    have hiff := h.cached_iff hs t.asked
    rw [FindStep.fetches, FindStep.answeredAt, hx, hfind, Option.elim_none, List.append_nil]
    refine hiff.trans (not_congr ⟨fun hold => ⟨?_, hold⟩, fun hout => hout.2⟩)
    rw [hs]
    rfl
  | none =>
    refine iff_of_true ?_ fun hout => ?_
    · rw [hx] at hr
      obtain ⟨bootstrap, hboot, hd, hact⟩ := Named.findRdapServer_of_none hs hr
      obtain ⟨f, hf, hcopy, hfresh⟩ := h.discovered hle ho hboot
      rw [FindStep.fetches, FindStep.answeredAt, hx, hact]
      exact ⟨f, hf, bootstrap, hcopy, hd, hfresh⟩
    · rw [Outlived, hs] at hout
      cases hout.1

/-- A find `secs` after the last one. -/
def findAt (secs : Nat) (tld : Text) (data : RdapBootstrap) : FindCall :=
  ⟨⟨fromSecs secs, 0, 0, 0⟩, .ok data, tld⟩

theorem succeeds_findAt (secs : Nat) (tld : Text) (data : RdapBootstrap) :
    (findAt secs tld data).Succeeds :=
  ⟨data, rfl⟩

/-- The server moves; a year later the old one is returned still, and no data was fetched since. -/
theorem find_moved : ∃ (es : List FindCall) (e : FindCall), (∀ x ∈ e :: es, x.Succeeds) ∧
    (nextFind es e).out.2 = .returned (.ok "a".toList) ∧
    ¬ ∃ f ∈ findFetches (findRun es) ++ (nextFind es e).fetches, ∃ copy,
      f.outcome.data = some copy ∧ copy.discover e.tld = some "a".toList ∧
        (nextFind es e).answeredAt ≤ f.done + fromSecs bootstrapRefreshSecs := by
  refine ⟨[findAt 0 "com" (.single "com" "a")], findAt 31536000 "com" (.single "com" "b"), ?_,
    by decide +kernel, ?_⟩
  · simp [succeeds_findAt]
  · rintro ⟨f, hf, copy, -, -, hle⟩
    have hall : ∀ f ∈ findFetches (findRun [findAt 0 "com" (.single "com" "a")]) ++
        (nextFind [findAt 0 "com" (.single "com" "a")]
          (findAt 31536000 "com" (.single "com" "b"))).fetches, f.done = 0 := by decide +kernel
    rw [hall f hf] at hle
    revert hle
    decide +kernel

/-- A find for another TLD refreshes the data, and the moved server is found. -/
theorem find_fresh_iff_refreshed :
    ∃ f ∈ findFetches (findRun [findAt 0 "com" (.single "com" "a"),
          findAt 31536000 "net" (.single "com" "b")]) ++
        (nextFind [findAt 0 "com" (.single "com" "a"), findAt 31536000 "net" (.single "com" "b")]
          (findAt 1 "com" (.single "com" "c"))).fetches, ∃ copy,
      f.outcome.data = some copy ∧ copy.discover "com" = some "b".toList ∧
        (nextFind [findAt 0 "com" (.single "com" "a"), findAt 31536000 "net" (.single "com" "b")]
          (findAt 1 "com" (.single "com" "c"))).answeredAt ≤
            f.done + fromSecs bootstrapRefreshSecs := by
  refine (find_fresh_iff
    [findAt 0 "com" (.single "com" "a"), findAt 31536000 "net" (.single "com" "b")]
    (findAt 1 "com" (.single "com" "c")) ?_ "b" (by decide +kernel)).mpr (by decide +kernel)
  simp [succeeds_findAt]

end RustWhois
