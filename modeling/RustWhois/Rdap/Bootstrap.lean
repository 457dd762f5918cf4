import RustWhois.Data
import RustWhois.Std.Machine

/-!
# The IANA bootstrap data

`rdap.rs`: the bootstrap data is fetched when it is missing or stale, with a wait between attempts.
The mutex makes the calls of `get_or_fetch_bootstrap` follow one another; a caller may be dropped
while its fetch is running.

* `BootstrapState.decide`, `RdapState.getOrFetchBootstrap`;
* `Answered`: the ways a call ends, case by case;
* `bootstrapMachine`, `fetches`, `lastCopy`: runs of calls, the fetches they began and the last copy
  fetched;
* `Remembers`: what the state holds of the fetches;
* **`bootstrap_run`**: the spacing of the fetches, what a call returns, and when that is stale.
-/

namespace RustWhois

open Rust

/-- `BOOTSTRAP_REFRESH_SECS`. -/
def bootstrapRefreshSecs : Nat := 24 * 60 * 60

/-- `BOOTSTRAP_RETRY_SECS`. -/
def bootstrapRetrySecs : Nat := 300

structure RdapBootstrapEntry where
  tlds : List Text
  servers : List Text
  deriving DecidableEq

structure RdapBootstrap where
  services : List RdapBootstrapEntry
  deriving DecidableEq

structure BootstrapState where
  data : Option RdapBootstrap := none
  fetchedAt : Option Nat := none
  lastAttempt : Option Nat := none
  deriving DecidableEq

inductive BootstrapAction
  | useCached
  | fetch
  | serveStale
  | unavailable
  deriving DecidableEq

namespace BootstrapState

/-- `fetched_at` is less than `refresh_after` ago. -/
def fresh (self : BootstrapState) (refreshAfter asked : Nat) : Bool :=
  self.fetchedAt.any fun t => asked - t < refreshAfter

/-- `last_attempt` is less than `retry_after` ago. -/
def attemptedRecently (self : BootstrapState) (retryAfter recent : Nat) : Bool :=
  self.lastAttempt.any fun t => recent - t < retryAfter

/-- `decide`: the two `elapsed()` read the clock at `asked` and `recent`. -/
def decide (self : BootstrapState) (refreshAfter retryAfter asked recent : Nat) : BootstrapAction :=
  if self.data.isSome && self.fresh refreshAfter asked then .useCached
  else match self.attemptedRecently retryAfter recent, self.data.isSome with
    | false, _ => .fetch
    | true, true => .serveStale
    | true, false => .unavailable

theorem decide_spec (s : BootstrapState) (refresh retry asked recent : Nat) :
    match s.decide refresh retry asked recent with
    | .useCached => s.data.isSome ∧ s.fresh refresh asked
    | .fetch => ¬ s.attemptedRecently retry recent ∧ ¬ (s.data.isSome ∧ s.fresh refresh asked)
    | .serveStale => s.data.isSome ∧ ¬ s.fresh refresh asked ∧ s.attemptedRecently retry recent
    | .unavailable => s.data = none := by
  unfold decide
  cases hd : s.data <;> cases hf : s.fresh refresh asked <;>
    cases ha : s.attemptedRecently retry recent <;> simp

end BootstrapState

/-! ## One call -/

/-- The outcome of `fetch_bootstrap_data`. -/
inductive FetchOutcome
  | ok (data : RdapBootstrap)
  | error (e : WhoisError)
  /-- The caller is dropped before the fetch ends. -/
  | cancelled
  /-- The caller is dropped after the fetch, on the lock of `tld_servers`. -/
  | abandoned (data : RdapBootstrap)
  deriving DecidableEq

/-- The copy that was fetched. -/
def FetchOutcome.data : FetchOutcome → Option RdapBootstrap
  | ok data | abandoned data => some data
  | _ => none

/-- The caller is dropped. -/
def FetchOutcome.interrupts : FetchOutcome → Bool
  | cancelled | abandoned _ => true
  | _ => false

/-- The clock during a call: at the two readings of `decide`, as a fetch begins and as it ends. -/
structure CallTimes where
  asked : Nat
  recent : Nat
  begun : Nat
  done : Nat
  asked_le : asked ≤ recent
  recent_le : recent ≤ begun
  begun_le : begun ≤ done

/-- The last reading of the clock by a call that took an action. -/
def CallTimes.answeredAt (t : CallTimes) : BootstrapAction → Nat
  | .useCached => t.asked
  | .serveStale | .unavailable => t.recent
  | .fetch => t.done

/-- How a call ends for its caller. -/
inductive CallResult (α : Type)
  | returned (r : Except WhoisError α)
  | dropped
  | panicked
  deriving DecidableEq

/-- What the RDAP service holds: `tld_servers` and `bootstrap`. -/
structure RdapState where
  tldServers : Text → Option Text
  bootstrap : BootstrapState

namespace RdapState

def empty : RdapState := ⟨fun _ => none, {}⟩

/-- `get_or_fetch_bootstrap`. -/
def getOrFetchBootstrap (self : RdapState) (t : CallTimes) (outcome : FetchOutcome) :
    (BootstrapAction × CallResult RdapBootstrap) × RdapState :=
  let state := self.bootstrap
  let action :=
    state.decide (fromSecs bootstrapRefreshSecs) (fromSecs bootstrapRetrySecs) t.asked t.recent
  match action with
  | .useCached | .serveStale => match state.data with
    | some data => ((action, .returned (.ok data)), self)
    -- expect("decide() guarantees data")
    | none => ((action, .panicked), self)
  | .unavailable =>
    ((action, .returned (.error (.internal "RDAP bootstrap data unavailable, retry pending"))),
      self)
  | .fetch =>
    let isRefresh := state.data.isSome
    let state := { state with lastAttempt := some t.begun }
    match outcome with
    | .cancelled => ((action, .dropped), { self with bootstrap := state })
    | .error e => match state.data with
      | some stale => ((action, .returned (.ok stale)), { self with bootstrap := state })
      | none => ((action, .returned (.error e)), { self with bootstrap := state })
    | .ok data =>
      let state := { state with data := some data, fetchedAt := some t.done }
      ((action, .returned (.ok data)),
        ⟨if isRefresh then fun _ => none else self.tldServers, state⟩)
    | .abandoned data =>
      let state := { state with data := some data, fetchedAt := some t.done }
      -- only a refresh waits for the lock
      ((action, if isRefresh then .dropped else .returned (.ok data)),
        { self with bootstrap := state })

end RdapState

/-- **The ways a call ends**, from the state before it to its reply and the state after it. -/
inductive Answered (s : RdapState) (t : CallTimes) (outcome : FetchOutcome) :
    BootstrapAction × CallResult RdapBootstrap → RdapState → Prop
  | cached (data : RdapBootstrap) (held : s.bootstrap.data = some data)
      (fresh : s.bootstrap.fresh (fromSecs bootstrapRefreshSecs) t.asked) :
      Answered s t outcome (.useCached, .returned (.ok data)) s
  | stale (data : RdapBootstrap) (held : s.bootstrap.data = some data)
      (old : ¬ s.bootstrap.fresh (fromSecs bootstrapRefreshSecs) t.asked)
      (recent : s.bootstrap.attemptedRecently (fromSecs bootstrapRetrySecs) t.recent) :
      Answered s t outcome (.serveStale, .returned (.ok data)) s
  | unavailable (e : WhoisError) (held : s.bootstrap.data = none) :
      Answered s t outcome (.unavailable, .returned (.error e)) s
  /-- A fetch that brings nothing: the data stays. -/
  | failed (result : CallResult RdapBootstrap)
      (spaced : ¬ s.bootstrap.attemptedRecently (fromSecs bootstrapRetrySecs) t.recent)
      (old : ¬ (s.bootstrap.data.isSome ∧
        s.bootstrap.fresh (fromSecs bootstrapRefreshSecs) t.asked))
      (nothing : outcome.data = none)
      (kept : ∀ data, s.bootstrap.data = some data →
        result = .returned (.ok data) ∨ result = .dropped ∧ outcome.interrupts)
      (lost : s.bootstrap.data = none →
        (∃ e, result = .returned (.error e)) ∨ result = .dropped ∧ outcome.interrupts) :
      Answered s t outcome (.fetch, result)
        ⟨s.tldServers, { s.bootstrap with lastAttempt := some t.begun }⟩
  /-- A fetch that brings a copy. -/
  | fetched (result : CallResult RdapBootstrap) (data : RdapBootstrap)
      (servers : Text → Option Text)
      (spaced : ¬ s.bootstrap.attemptedRecently (fromSecs bootstrapRetrySecs) t.recent)
      (old : ¬ (s.bootstrap.data.isSome ∧
        s.bootstrap.fresh (fromSecs bootstrapRefreshSecs) t.asked))
      (copy : outcome.data = some data)
      (given : result = .returned (.ok data) ∨ result = .dropped ∧ outcome.interrupts)
      (cleared : servers = if outcome = .ok data ∧ s.bootstrap.data.isSome then fun _ => none
        else s.tldServers) :
      Answered s t outcome (.fetch, result) ⟨servers, ⟨some data, some t.done, some t.begun⟩⟩

theorem answered (s : RdapState) (t : CallTimes) (outcome : FetchOutcome) :
    Answered s t outcome (s.getOrFetchBootstrap t outcome).1
      (s.getOrFetchBootstrap t outcome).2 := by
  have hspec := s.bootstrap.decide_spec (fromSecs bootstrapRefreshSecs)
    (fromSecs bootstrapRetrySecs) t.asked t.recent
  simp only [RdapState.getOrFetchBootstrap]
  generalize s.bootstrap.decide (fromSecs bootstrapRefreshSecs) (fromSecs bootstrapRetrySecs)
    t.asked t.recent = action at *
  cases action with
  | useCached =>
    obtain ⟨hd, hf⟩ := hspec
    obtain ⟨data, hd⟩ := Option.isSome_iff_exists.mp hd
    simp only [hd]
    exact .cached data hd hf
  | serveStale =>
    obtain ⟨hd, hf, ha⟩ := hspec
    obtain ⟨data, hd⟩ := Option.isSome_iff_exists.mp hd
    simp only [hd]
    exact .stale data hd hf ha
  | unavailable => exact .unavailable _ hspec
  | fetch =>
    obtain ⟨ha, hf⟩ := hspec
    cases outcome with
    | cancelled =>
      exact .failed .dropped ha hf rfl (fun _ _ => .inr ⟨rfl, rfl⟩) fun _ => .inr ⟨rfl, rfl⟩
    | error e =>
      dsimp only
      split
      · next stale hd =>
        refine .failed (.returned (.ok stale)) ha hf rfl (fun data h => .inl ?_) fun h => ?_
        · rw [hd] at h
          cases h
          rfl
        · rw [hd] at h
          cases h
      · next hd =>
        refine .failed (.returned (.error e)) ha hf rfl (fun data h => ?_) fun _ => .inl ⟨e, rfl⟩
        rw [hd] at h
        cases h
    | ok data =>
      refine .fetched _ data _ ha hf rfl (.inl rfl) ?_
      simp
    | abandoned data =>
      refine .fetched _ data _ ha hf rfl ?_ ?_
      · split_ifs
        · exact .inr ⟨rfl, rfl⟩
        · exact .inl rfl
      · simp

theorem returned_or_dropped (s : RdapState) (t : CallTimes) (outcome : FetchOutcome) :
    (∃ r, (s.getOrFetchBootstrap t outcome).1.2 = .returned r) ∨
      (s.getOrFetchBootstrap t outcome).1.2 = .dropped ∧ outcome.interrupts := by
  have hans := answered s t outcome
  generalize s.getOrFetchBootstrap t outcome = r at hans
  rcases r with ⟨⟨action, result⟩, s'⟩
  cases hans with
  | cached | stale | unavailable => exact .inl ⟨_, rfl⟩
  | failed result spaced old nothing kept lost =>
    cases hd : s.bootstrap.data with
    | some data => exact (kept data hd).imp_left fun h => ⟨_, h⟩
    | none => exact (lost hd).imp_left fun ⟨e, h⟩ => ⟨_, h⟩
  | fetched result data servers spaced old copy given cleared =>
    exact given.imp_left fun h => ⟨_, h⟩

theorem not_panicked (s : RdapState) (t : CallTimes) (outcome : FetchOutcome) :
    (s.getOrFetchBootstrap t outcome).1.2 ≠ .panicked := by
  rcases returned_or_dropped s t outcome with ⟨r, h⟩ | ⟨h, -⟩ <;> rw [h] <;> nofun

theorem held_of_returned {s : RdapState} {t : CallTimes} {outcome : FetchOutcome}
    {data : RdapBootstrap} (hr : (s.getOrFetchBootstrap t outcome).1.2 = .returned (.ok data)) :
    (s.getOrFetchBootstrap t outcome).2.bootstrap.data = some data := by
  have hans := answered s t outcome
  generalize s.getOrFetchBootstrap t outcome = r at hans hr
  rcases r with ⟨⟨action, result⟩, s'⟩
  cases hans with
  | cached data' held fresh =>
    cases hr
    exact held
  | stale data' held old recent =>
    cases hr
    exact held
  | unavailable e held => cases hr
  | failed result spaced old nothing kept lost =>
    cases hd : s.bootstrap.data with
    | some data' =>
      rcases kept data' hd with rfl | ⟨rfl, -⟩ <;> cases hr
      rfl
    | none => rcases lost hd with ⟨e, rfl⟩ | ⟨rfl, -⟩ <;> cases hr
  | fetched result data' servers spaced old copy given cleared =>
    rcases given with rfl | ⟨rfl, -⟩ <;> cases hr
    rfl

/-! ## The fetches so far -/

structure BootstrapFetch where
  begun : Nat
  done : Nat
  outcome : FetchOutcome

/-- The copy that a fetch brought, and when. -/
def BootstrapFetch.copy (f : BootstrapFetch) : Option (Nat × RdapBootstrap) :=
  f.outcome.data.map (f.done, ·)

/-- The fetch of a call, if it began one. -/
def fetchOf (action : BootstrapAction) (t : CallTimes) (outcome : FetchOutcome) :
    List BootstrapFetch :=
  if action = .fetch then [⟨t.begun, t.done, outcome⟩] else []

/-- The last copy fetched, and when. -/
def lastCopy (fs : List BootstrapFetch) : Option (Nat × RdapBootstrap) :=
  (fs.filterMap (·.copy)).getLast?

theorem lastCopy_concat (fs : List BootstrapFetch) (f : BootstrapFetch) :
    lastCopy (fs ++ [f]) = f.copy.or (lastCopy fs) := by
  unfold lastCopy
  rw [List.filterMap_append, List.getLast?_append]
  congr 1
  cases hf : f.copy <;> simp [hf]

theorem lastCopy_of_getLast? {fs : List BootstrapFetch} {f : BootstrapFetch} {data : RdapBootstrap}
    (hf : fs.getLast? = some f) (hd : f.outcome.data = some data) :
    lastCopy fs = some (f.done, data) := by
  obtain ⟨fs', rfl⟩ := List.getLast?_eq_some_iff.mp hf
  rw [lastCopy_concat, BootstrapFetch.copy, hd]
  rfl

theorem mem_of_lastCopy {fs : List BootstrapFetch} {c : Nat × RdapBootstrap}
    (h : lastCopy fs = some c) :
    ∃ f ∈ fs, f.done = c.1 ∧ f.outcome.data = some c.2 := by
  obtain ⟨f, hf, hc⟩ := List.mem_filterMap.mp (List.mem_of_getLast? h)
  obtain ⟨d, hd, rfl⟩ := Option.map_eq_some_iff.mp hc
  exact ⟨f, hf, rfl, hd⟩

/-- **What the state holds of the fetches so far.** -/
structure Remembers (fs : List BootstrapFetch) (now : Nat) (s : RdapState) : Prop where
  attempt : s.bootstrap.lastAttempt = fs.getLast?.map (·.begun)
  data : s.bootstrap.data = (lastCopy fs).map Prod.snd
  fetchedAt : s.bootstrap.fetchedAt = (lastCopy fs).map Prod.fst
  latest : ∀ f ∈ fs, ∀ a ∈ s.bootstrap.lastAttempt, f.begun ≤ a
  begun_le : ∀ f ∈ fs, f.begun ≤ f.done
  done_le : ∀ f ∈ fs, f.done ≤ now
  copied : ∀ f ∈ fs, f.outcome.data.isSome → ∀ c ∈ lastCopy fs, f.done ≤ c.1
  spaced : fs.Pairwise fun f g => f.begun + fromSecs bootstrapRetrySecs ≤ g.begun

theorem remembers_empty : Remembers [] 0 .empty where
  attempt := rfl
  data := rfl
  fetchedAt := rfl
  latest := by simp
  begun_le := by simp
  done_le := by simp
  copied := by simp
  spaced := .nil

namespace Remembers

variable {fs : List BootstrapFetch} {now : Nat} {s : RdapState} {t : CallTimes}
  {outcome : FetchOutcome}

theorem fromSecs_retry : fromSecs bootstrapRetrySecs = 300000000000 := rfl

theorem fromSecs_refresh : fromSecs bootstrapRefreshSecs = 86400000000000 := rfl

theorem begun_add_retry_le (h : Remembers fs now s)
    (hn : ¬ s.bootstrap.attemptedRecently (fromSecs bootstrapRetrySecs) t.recent) :
    ∀ f ∈ fs, f.begun + fromSecs bootstrapRetrySecs ≤ t.begun := by
  intro f hf
  obtain ⟨g, hg⟩ := Option.isSome_iff_exists.mp (List.getLast?_isSome.mpr (List.ne_nil_of_mem hf))
  have ha : s.bootstrap.lastAttempt = some g.begun := by rw [h.attempt, hg]; rfl
  have hle : f.begun ≤ g.begun := h.latest f hf _ ha
  have hrecent := t.recent_le
  simp only [BootstrapState.attemptedRecently, ha, Option.any_some, decide_eq_true_eq, not_lt] at hn
  rw [fromSecs_retry] at hn ⊢
  omega

theorem data_eq (h : Remembers fs now s) {c : Nat × RdapBootstrap} (hc : lastCopy fs = some c) :
    s.bootstrap.data = some c.2 := by
  rw [h.data, hc]
  rfl

theorem fresh_iff (h : Remembers fs now s) {c : Nat × RdapBootstrap} (hc : lastCopy fs = some c)
    (refreshAfter asked : Nat) :
    s.bootstrap.fresh refreshAfter asked = true ↔ asked - c.1 < refreshAfter := by
  have hf : s.bootstrap.fetchedAt = some c.1 := by rw [h.fetchedAt, hc]; rfl
  rw [BootstrapState.fresh, hf, Option.any_some, decide_eq_true_eq]

theorem copy_add_refresh_le (h : Remembers fs now s)
    (ho : ¬ (s.bootstrap.data.isSome ∧ s.bootstrap.fresh (fromSecs bootstrapRefreshSecs) t.asked)) :
    ∀ c ∈ lastCopy fs, c.1 + fromSecs bootstrapRefreshSecs ≤ t.begun := by
  rintro c hc
  have hd : s.bootstrap.data.isSome := by rw [h.data_eq hc]; rfl
  have hold : ¬ t.asked - c.1 < fromSecs bootstrapRefreshSecs :=
    fun hf => ho ⟨hd, (h.fresh_iff hc _ _).mpr hf⟩
  have hasked := t.asked_le.trans t.recent_le
  rw [fromSecs_refresh] at hold ⊢
  omega

theorem mono {now' : Nat} (h : Remembers fs now s) (hle : now ≤ now') : Remembers fs now' s :=
  { h with done_le := fun f hf => (h.done_le f hf).trans hle }

theorem concat {s' : RdapState} (h : Remembers fs now s) (hle : now ≤ t.asked)
    (hn : ¬ s.bootstrap.attemptedRecently (fromSecs bootstrapRetrySecs) t.recent)
    (ha : s'.bootstrap.lastAttempt = some t.begun)
    (hc : (s'.bootstrap.data, s'.bootstrap.fetchedAt) =
      ((lastCopy (fs ++ [⟨t.begun, t.done, outcome⟩])).map Prod.snd,
        (lastCopy (fs ++ [⟨t.begun, t.done, outcome⟩])).map Prod.fst)) :
    Remembers (fs ++ [⟨t.begun, t.done, outcome⟩]) t.done s' := by
  have hspaced := h.begun_add_retry_le hn
  have htimes := t.asked_le.trans (t.recent_le.trans t.begun_le)
  have hdone : ∀ f ∈ fs, f.done ≤ t.done := fun f hf => (h.done_le f hf).trans (hle.trans htimes)
  refine ⟨?_, congrArg Prod.fst hc, congrArg Prod.snd hc, ?_, ?_, ?_, ?_, ?_⟩
  · rw [ha, List.getLast?_concat]
    rfl
  · intro f hf a ha'
    rw [ha] at ha'
    cases ha'
    rcases List.mem_append.mp hf with hf | hf
    · exact (Nat.le_add_right _ _).trans (hspaced f hf)
    · rw [List.mem_singleton.mp hf]
  · intro f hf
    rcases List.mem_append.mp hf with hf | hf
    · exact h.begun_le f hf
    · rw [List.mem_singleton.mp hf]
      exact t.begun_le
  · intro f hf
    rcases List.mem_append.mp hf with hf | hf
    · exact hdone f hf
    · rw [List.mem_singleton.mp hf]
  · intro f hf hsome c hc
    rw [lastCopy_concat, BootstrapFetch.copy] at hc
    cases ho : outcome.data with
    | some data =>
      rw [ho] at hc
      cases hc
      rcases List.mem_append.mp hf with hf | hf
      · exact hdone f hf
      · rw [List.mem_singleton.mp hf]
    | none =>
      rw [ho] at hc
      rcases List.mem_append.mp hf with hf | hf
      · exact h.copied f hf hsome c hc
      · rw [List.mem_singleton.mp hf, ho] at hsome
        cases hsome
  · refine List.pairwise_append.mpr ⟨h.spaced, List.pairwise_singleton _ _, ?_⟩
    intro f hf g hg
    rw [List.mem_singleton.mp hg]
    exact hspaced f hf

/-- **A call leaves a state that remembers its fetch.** -/
theorem call (h : Remembers fs now s) (hle : now ≤ t.asked) (outcome : FetchOutcome) :
    Remembers (fs ++ fetchOf (s.getOrFetchBootstrap t outcome).1.1 t outcome) t.done
      (s.getOrFetchBootstrap t outcome).2 := by
  have htimes := t.asked_le.trans (t.recent_le.trans t.begun_le)
  have hstay : Remembers (fs ++ []) t.done s := by
    rw [List.append_nil]
    exact h.mono (hle.trans htimes)
  have hans := answered s t outcome
  generalize s.getOrFetchBootstrap t outcome = r at hans
  rcases r with ⟨⟨action, result⟩, s'⟩
  cases hans with
  | cached | stale | unavailable => exact hstay
  | failed result spaced old nothing kept lost =>
    refine h.concat hle spaced rfl ?_
    rw [lastCopy_concat, BootstrapFetch.copy, nothing, h.data, h.fetchedAt]
    rfl
  | fetched result data servers spaced old copy given cleared =>
    refine h.concat hle spaced rfl ?_
    rw [lastCopy_concat, BootstrapFetch.copy, copy]
    rfl

theorem returned (h : Remembers fs now s) :
    ∀ c ∈ lastCopy (fs ++ fetchOf (s.getOrFetchBootstrap t outcome).1.1 t outcome),
      (s.getOrFetchBootstrap t outcome).1.2 = .returned (.ok c.2) ∨
        (s.getOrFetchBootstrap t outcome).1.2 = .dropped ∧ outcome.interrupts := by
  have hans := answered s t outcome
  generalize s.getOrFetchBootstrap t outcome = r at hans
  rcases r with ⟨⟨action, result⟩, s'⟩
  rintro c hc
  cases hans with
  | cached data held fresh =>
    rw [h.data_eq (by simpa [fetchOf] using hc)] at held
    cases held
    exact .inl rfl
  | stale data held old recent =>
    rw [h.data_eq (by simpa [fetchOf] using hc)] at held
    cases held
    exact .inl rfl
  | unavailable e held =>
    rw [h.data_eq (by simpa [fetchOf] using hc)] at held
    cases held
  | failed result spaced old nothing kept lost =>
    have hfs : lastCopy (fs ++ [⟨t.begun, t.done, outcome⟩]) = some c := hc
    rw [lastCopy_concat, BootstrapFetch.copy, nothing] at hfs
    exact kept c.2 (h.data_eq hfs)
  | fetched result data servers spaced old copy given cleared =>
    have hfs : lastCopy (fs ++ [⟨t.begun, t.done, outcome⟩]) = some c := hc
    rw [lastCopy_concat, BootstrapFetch.copy, copy] at hfs
    cases hfs
    exact given

theorem copy_of_returned (h : Remembers fs now s) (hle : now ≤ t.asked) {data : RdapBootstrap}
    (hr : (s.getOrFetchBootstrap t outcome).1.2 = .returned (.ok data)) :
    ∃ c ∈ lastCopy (fs ++ fetchOf (s.getOrFetchBootstrap t outcome).1.1 t outcome), c.2 = data := by
  have hdata := (h.call hle outcome).data
  rw [held_of_returned hr] at hdata
  exact Option.map_eq_some_iff.mp hdata.symm

/-- The fetch before a stale answer brought nothing: a copy would be fresh. -/
theorem data_eq_none_of_recent (h : Remembers fs now s)
    (old : ¬ s.bootstrap.fresh (fromSecs bootstrapRefreshSecs) t.asked)
    (recent : s.bootstrap.attemptedRecently (fromSecs bootstrapRetrySecs) t.recent) :
    ∃ f ∈ fs, f.outcome.data = none ∧ t.recent < f.begun + fromSecs bootstrapRetrySecs := by
  obtain ⟨a, ha, hlt⟩ := (Option.any_eq_true _ _).mp recent
  obtain ⟨f, hf, rfl⟩ := Option.map_eq_some_iff.mp (h.attempt ▸ ha)
  have hlt : t.recent - f.begun < fromSecs bootstrapRetrySecs := by simpa using hlt
  have hmem : f ∈ fs := List.mem_of_getLast? hf
  refine ⟨f, hmem, ?_, by rw [fromSecs_retry] at hlt ⊢; omega⟩
  by_contra hbrought
  obtain ⟨d, hd⟩ := Option.ne_none_iff_exists'.mp hbrought
  rw [h.fresh_iff (lastCopy_of_getLast? hf hd)] at old
  have hbegun := h.begun_le f hmem
  have hasked := t.asked_le
  rw [fromSecs_refresh] at old
  rw [fromSecs_retry] at hlt
  omega

/-- Data past its refresh is returned only after a fetch that brought nothing: the call's own, or
one that began less than a retry ago. -/
theorem stale (h : Remembers fs now s) :
    ∀ c ∈ lastCopy (fs ++ fetchOf (s.getOrFetchBootstrap t outcome).1.1 t outcome),
      c.1 + fromSecs bootstrapRefreshSecs < t.answeredAt (s.getOrFetchBootstrap t outcome).1.1 →
      (∃ f ∈ fetchOf (s.getOrFetchBootstrap t outcome).1.1 t outcome, f.outcome.data = none) ∨
        ∃ f ∈ fs, f.outcome.data = none ∧ t.recent < f.begun + fromSecs bootstrapRetrySecs := by
  have hans := answered s t outcome
  generalize s.getOrFetchBootstrap t outcome = r at hans
  rcases r with ⟨⟨action, result⟩, s'⟩
  rintro c hc hold
  cases hans with
  | cached data held fresh =>
    have hfresh := (h.fresh_iff (by simpa [fetchOf] using hc) _ _).mp fresh
    have hold' : c.1 + fromSecs bootstrapRefreshSecs < t.asked := hold
    omega
  | stale data held old recent => exact .inr (h.data_eq_none_of_recent old recent)
  | unavailable e held =>
    rw [h.data_eq (by simpa [fetchOf] using hc)] at held
    cases held
  | failed result spaced old nothing kept lost => exact .inl ⟨_, List.mem_cons_self, nothing⟩
  | fetched result data servers spaced old copy given cleared =>
    have hfs : lastCopy (fs ++ [⟨t.begun, t.done, outcome⟩]) = some c := hc
    rw [lastCopy_concat, BootstrapFetch.copy, copy] at hfs
    cases hfs
    have hold' : t.done + fromSecs bootstrapRefreshSecs < t.done := hold
    omega

theorem refresh_le (h : Remembers fs now s) :
    ∀ f ∈ fetchOf (s.getOrFetchBootstrap t outcome).1.1 t outcome, ∀ c ∈ lastCopy fs,
      c.1 + fromSecs bootstrapRefreshSecs ≤ f.begun := by
  have hans := answered s t outcome
  generalize s.getOrFetchBootstrap t outcome = r at hans
  rcases r with ⟨⟨action, result⟩, s'⟩
  intro f hf c hc
  cases hans with
  | cached | stale | unavailable => cases hf
  | failed result spaced old nothing kept lost =>
    rw [List.mem_singleton.mp hf]
    exact h.copy_add_refresh_le old c hc
  | fetched result data servers spaced old copy given cleared =>
    rw [List.mem_singleton.mp hf]
    exact h.copy_add_refresh_le old c hc

end Remembers

/-! ## Runs -/

/-- The time before a call, and between its readings of the clock. -/
structure Waits where
  waited : Nat
  thought : Nat
  prepared : Nat
  took : Nat

def Waits.times (w : Waits) (now : Nat) : CallTimes where
  asked := now + w.waited
  recent := now + w.waited + w.thought
  begun := now + w.waited + w.thought + w.prepared
  done := now + w.waited + w.thought + w.prepared + w.took
  asked_le := Nat.le_add_right _ _
  recent_le := Nat.le_add_right _ _
  begun_le := Nat.le_add_right _ _

structure BootstrapCall where
  waits : Waits
  outcome : FetchOutcome

/-- The service and the clock. -/
structure RdapClocked where
  service : RdapState
  now : Nat

def RdapClocked.new : RdapClocked := ⟨.empty, 0⟩

abbrev BootstrapStep : Type :=
  Machine.Step RdapClocked BootstrapCall (BootstrapAction × CallResult RdapBootstrap)

/-- The calls of `get_or_fetch_bootstrap`, as the mutex lets them through. -/
def bootstrapMachine :
    Machine RdapClocked BootstrapCall (BootstrapAction × CallResult RdapBootstrap) where
  next s e :=
    let t := e.waits.times s.now
    let r := s.service.getOrFetchBootstrap t e.outcome
    (r.1, ⟨r.2, t.done⟩)

namespace BootstrapStep

/-- The clock during the call. -/
def times (x : BootstrapStep) : CallTimes := x.event.waits.times x.pre.now

/-- The fetch that the call began. -/
def fetches (x : BootstrapStep) : List BootstrapFetch := fetchOf x.out.1 x.times x.event.outcome

end BootstrapStep

/-- The fetches that a run began. -/
def fetchesOf (past : List BootstrapStep) : List BootstrapFetch :=
  past.flatMap BootstrapStep.fetches

theorem fetchesOf_concat (past : List BootstrapStep) (x : BootstrapStep) :
    fetchesOf (past ++ [x]) = fetchesOf past ++ x.fetches := by
  simp [fetchesOf]

/-- The calls of a run from the start. -/
def bootstrapRun (es : List BootstrapCall) : List BootstrapStep := bootstrapMachine.run .new es

/-- The next call after a run. -/
def nextCall (es : List BootstrapCall) (e : BootstrapCall) : BootstrapStep :=
  bootstrapMachine.step (bootstrapMachine.final .new es) e

theorem remembers_run (es : List BootstrapCall) :
    Remembers (fetchesOf (bootstrapRun es)) (bootstrapMachine.final .new es).now
      (bootstrapMachine.final .new es).service := by
  refine bootstrapMachine.history_of_step
    (H := fun past s => Remembers (fetchesOf past) s.now s.service) ?_ ?_ es
  · intro past s e h
    rw [fetchesOf_concat]
    exact h.call (Nat.le_add_right _ _) e.outcome
  · exact remembers_empty

/-- **The bootstrap data over any run, and in any next call.** Two fetches begin a retry or more
apart, and one begins a refresh or more after the last copy. The next call never panics; unless it
is dropped it returns the last copy fetched, its own included; and if that is past its refresh, its
own fetch brought nothing, or one did that began less than a retry ago. -/
theorem bootstrap_run (es : List BootstrapCall) (e : BootstrapCall) :
    (fetchesOf (bootstrapRun es)).Pairwise
      (fun f g => f.begun + fromSecs bootstrapRetrySecs ≤ g.begun) ∧
    (∀ f ∈ (nextCall es e).fetches, ∀ c ∈ lastCopy (fetchesOf (bootstrapRun es)),
      c.1 + fromSecs bootstrapRefreshSecs ≤ f.begun) ∧
    (nextCall es e).out.2 ≠ .panicked ∧
    (∀ c ∈ lastCopy (fetchesOf (bootstrapRun es) ++ (nextCall es e).fetches),
      (nextCall es e).out.2 = .returned (.ok c.2) ∨
        (nextCall es e).out.2 = .dropped ∧ e.outcome.interrupts) ∧
    ∀ c ∈ lastCopy (fetchesOf (bootstrapRun es) ++ (nextCall es e).fetches),
      c.1 + fromSecs bootstrapRefreshSecs < (nextCall es e).times.answeredAt (nextCall es e).out.1 →
      (∃ f ∈ (nextCall es e).fetches, f.outcome.data = none) ∨
        ∃ f ∈ fetchesOf (bootstrapRun es), f.outcome.data = none ∧
          (nextCall es e).times.recent < f.begun + fromSecs bootstrapRetrySecs := by
  have h := remembers_run es
  exact ⟨h.spaced, h.refresh_le, not_panicked _ _ _, h.returned, h.stale⟩

/-- A registry with one server. -/
def RdapBootstrap.single (tld server : Text) : RdapBootstrap := ⟨[⟨[tld], [server]⟩]⟩

/-- A call `secs` after the last one, that ends as it begins. -/
def callAt (secs : Nat) (outcome : FetchOutcome) : BootstrapCall :=
  ⟨⟨fromSecs secs, 0, 0, 0⟩, outcome⟩

/-- A refresh fails; the next call, within the retry, returns the data of the day before. -/
theorem bootstrap_run_outage :
    (nextCall [callAt 0 (.ok (.single "com" "a")), callAt 90000 (.error .timeout)]
      (callAt 100 .cancelled)).out = (.serveStale, .returned (.ok (.single "com" "a"))) ∧
    ∃ f ∈ fetchesOf
        (bootstrapRun [callAt 0 (.ok (.single "com" "a")), callAt 90000 (.error .timeout)]),
      f.outcome.data = none ∧
        (nextCall [callAt 0 (.ok (.single "com" "a")), callAt 90000 (.error .timeout)]
          (callAt 100 .cancelled)).times.recent < f.begun + fromSecs bootstrapRetrySecs := by
  refine ⟨by decide +kernel, ?_⟩
  obtain ⟨-, -, -, -, hstale⟩ := bootstrap_run
    [callAt 0 (.ok (.single "com" "a")), callAt 90000 (.error .timeout)] (callAt 100 .cancelled)
  exact (hstale (0, .single "com" "a") (by decide +kernel) (by decide +kernel)).resolve_left
    (by decide +kernel)

end RustWhois
