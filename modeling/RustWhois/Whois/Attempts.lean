import RustWhois.Std.Outcome
import RustWhois.Whois.Traffic

/-!
# Attempts of the queries in flight

A query in flight takes its attempts one after another, with those of the others in between.

* `Traffic.attempts`: the results of the attempts of a query;
* `Traffic.Tried`: those of a query in flight failed with transient errors;
* **`retried_of_run`**: a query ends with what `execute_whois_query` makes of its own attempts.
-/

namespace RustWhois

open Rust

/-- An attempt can end with the result: without a connection, only with an error. -/
def Stage.ends : Stage → Except WhoisError Text → Bool
  | .reading _, _ => true
  | .connecting, .error _ => true
  | _, _ => false

/-- The results of the attempts of a query in flight: transient errors, no more than it has retries. -/
def Query.Failed (self : Query) (results : List (Except WhoisError Text)) : Prop :=
  ∃ errors : List WhoisError, results = errors.map .error ∧ (∀ e ∈ errors, isTransient e) ∧
    errors.length = self.failures ∧ self.failures ≤ self.kind.retries

namespace Traffic

variable {bits : Nat} {sem : FairSemaphore Nat} {service : WhoisService bits}
  {s s' : Traffic sem service} {i : Nat} {q : Query}

/-- The result of an attempt of `i` that ends in the step. -/
def attempt (i : Nat) (x : TrafficStep sem service) : Option (Except WhoisError Text) :=
  match x.event with
  | .move j (.finished result) =>
    if j = i ∧ (x.pre.queries i).any (fun q => q.stage.ends result) then some result else none
  | _ => none

def attempts (i : Nat) (xs : List (TrafficStep sem service)) : List (Except WhoisError Text) :=
  xs.filterMap (attempt i)

/-- What a move does to the attempts of its query: nothing, one more that failed, or the last one. -/
inductive Tries (i : Nat) (q : Query) (m : QueryMove) (s : Traffic sem service) :
    Option (Except WhoisError Text) → Traffic sem service → Prop
  | goes {t : Traffic sem service} (tried : ∀ out, attempt i ⟨s, .move i m, out, t⟩ = none)
    (queries : ∀ q', t.queries i = some q' → q'.kind = q.kind ∧ q'.failures = q.failures) :
    Tries i q m s none t
  | fails {t : Traffic sem service} (e : WhoisError)
    (tried : ∀ out, attempt i ⟨s, .move i m, out, t⟩ = some (.error e))
    (transient : isTransient e) (again : q.failures < q.kind.retries)
    (queries : ∀ q', t.queries i = some q' → q'.kind = q.kind ∧ q'.failures = q.failures + 1) :
    Tries i q m s none t
  | ends {t : Traffic sem service} (result : Except WhoisError Text)
    (tried : ∀ out, attempt i ⟨s, .move i m, out, t⟩ = some result)
    (last : ∀ e, result = .error e → isTransient e → q.kind.retries ≤ q.failures)
    (queries : t.queries i = none) : Tries i q m s (some result) t

theorem queries_leave (i : Nat) (q : Query) (s : Traffic sem service) :
    (s.leave i q).queries i = none := by
  rw [(left_leave i q s).queries, Function.update_self]

theorem tries_finish (running : s.queries i = some q) {result : Except WhoisError Text}
    (hends : q.stage.ends result) :
    Tries i q (.finished result) s (s.finish i q result).1 (s.finish i q result).2 := by
  have htried : ∀ s' out, attempt i ⟨s, .move i (.finished result), out, s'⟩ = some result := by
    intro s' out
    simp [attempt, running, hends]
  cases result with
  | ok answer => exact .ends (.ok answer) (htried _) (by rintro e ⟨⟩) (queries_leave i q s)
  | error e =>
    rw [finish]
    split_ifs with hagain
    · refine .fails e (htried _) hagain.1 hagain.2 fun q' hq' => ?_
      replace hq' : Function.update (s.recycle q.stage).queries i _ i = some q' := hq'
      rw [Function.update_self] at hq'
      cases hq'
      exact ⟨rfl, rfl⟩
    · refine .ends (.error e) (htried _) ?_ (queries_leave i q s)
      rintro e' ⟨⟩ htransient
      exact Nat.le_of_not_lt fun hlt => hagain ⟨htransient, hlt⟩

theorem tries_move (running : s.queries i = some q) (m : QueryMove) :
    Tries i q m s (s.move i q m).1 (s.move i q m).2 := by
  have hsame : (∀ out, attempt i ⟨s, .move i m, out, s⟩ = none) → Tries i q m s none s := by
    refine fun htried => .goes htried fun q' hq' => ?_
    rw [running] at hq'
    cases hq'
    exact ⟨rfl, rfl⟩
  have hput : ∀ stage (t : Traffic sem service),
      t.queries = Function.update s.queries i (some { q with stage }) →
      (∀ out, attempt i ⟨s, .move i m, out, t⟩ = none) → Tries i q m s none t := by
    refine fun stage t hqueries htried => .goes htried fun q' hq' => ?_
    rw [hqueries, Function.update_self] at hq'
    cases hq'
    exact ⟨rfl, rfl⟩
  cases m with
  | connect =>
    cases hstage : q.stage with
    | idle =>
      simp only [move, hstage]
      split_ifs
      · exact hput .connecting _ rfl fun _ => rfl
      · exact hsame fun _ => rfl
    | _ =>
      simp only [move, hstage]
      exact hsame fun _ => rfl
  | sent =>
    cases hstage : q.stage with
    | connecting =>
      simp only [move, hstage]
      exact hput _ _ rfl fun _ => rfl
    | _ =>
      simp only [move, hstage]
      exact hsame fun _ => rfl
  | received bytes =>
    cases hstage : q.stage with
    | reading buffer =>
      simp only [move, hstage]
      exact hput _ _ rfl fun _ => rfl
    | _ =>
      simp only [move, hstage]
      exact hsame fun _ => rfl
  | finished result =>
    cases hends : q.stage.ends result with
    | true =>
      have hmove : s.move i q (.finished result) = s.finish i q result := by
        cases hstage : q.stage with
        | idle =>
          rw [hstage] at hends
          cases hends
        | connecting =>
          rw [hstage] at hends
          cases result with
          | ok answer => cases hends
          | error e => simp only [move, hstage]
        | reading buffer => simp only [move, hstage]
      rw [hmove]
      exact tries_finish running hends
    | false =>
      have hmove : s.move i q (.finished result) = (none, s) := by
        cases hstage : q.stage with
        | idle => cases result <;> simp only [move, hstage]
        | connecting =>
          rw [hstage] at hends
          cases result with
          | ok answer => simp only [move, hstage]
          | error e => cases hends
        | reading buffer =>
          rw [hstage] at hends
          cases hends
      rw [hmove]
      exact hsame fun _ => by simp [attempt, running, hends]
  | dropped =>
    refine .goes (fun _ => rfl) fun q' hq' => ?_
    replace hq' : (s.leave i q).queries i = some q' := hq'
    rw [queries_leave] at hq'
    cases hq'

theorem queries_move_of_ne {j : Nat} (hne : j ≠ i) (m : QueryMove) :
    (s.move i q m).2.queries j = s.queries j := by
  rcases move_cases (s := s) (i := i) (q := q) m with hsame | hgoes | hleft
  · rw [hsame]
  · obtain ⟨q', -, hqueries⟩ := hgoes.queries
    rw [hqueries, Function.update_of_ne hne]
  · rw [hleft.queries, Function.update_of_ne hne]

theorem next_move (m : QueryMove) : (s.move i q m).2.next = s.next := by
  rcases move_cases (s := s) (i := i) (q := q) m with hsame | hgoes | hleft
  · rw [hsame]
  · exact hgoes.next
  · exact hleft.next

/-- The attempts so far: none of a query that was not made, only transient errors of one in flight, and
never more than there are retries. -/
structure Tried (past : List (TrafficStep sem service)) (s : Traffic sem service) : Prop where
  fresh : ∀ i, s.next ≤ i → s.queries i = none ∧ attempts i past = []
  failed : ∀ i q, s.queries i = some q → q.Failed (attempts i past)
  bounded : ∀ i, (attempts i past).length ≤ maxRetryAttempts + 1

theorem attempts_concat (i : Nat) (past : List (TrafficStep sem service))
    (x : TrafficStep sem service) :
    attempts i (past ++ [x]) = attempts i past ++ (attempt i x).toList := by
  rw [attempts, List.filterMap_append]
  cases h : attempt i x <;> simp [attempts, h]

theorem retries_le (kind : QueryKind) : kind.retries ≤ maxRetryAttempts := by
  cases kind <;> decide

theorem attempt_of_ne {j : Nat} (hne : j ≠ i) (m : QueryMove)
    (out : Option (Except WhoisError Text)) : attempt j ⟨s, .move i m, out, s'⟩ = none := by
  cases m with
  | finished result => exact if_neg fun h => hne h.1.symm
  | _ => rfl

variable {past : List (TrafficStep sem service)}

theorem attempts_silent (past : List (TrafficStep sem service)) {x : TrafficStep sem service}
    (hx : ∀ i, attempt i x = none) (i : Nat) : attempts i (past ++ [x]) = attempts i past := by
  rw [attempts_concat, hx, Option.toList_none, List.append_nil]

theorem Tried.start (h : Tried past s) (kind : QueryKind) :
    Tried (past ++ [(trafficMachine sem service).step s (.start kind)]) (s.start kind) := by
  have hsilent := attempts_silent past (x := (trafficMachine sem service).step s (.start kind))
    fun _ => rfl
  refine ⟨fun i hi => ?_, fun i q running => ?_, fun i => ?_⟩
  · replace hi : s.next + 1 ≤ i := hi
    obtain ⟨hnone, hattempts⟩ := h.fresh i (by omega)
    refine ⟨?_, (hsilent i).trans hattempts⟩
    show Function.update s.queries s.next _ i = none
    rw [Function.update_of_ne (by omega), hnone]
  · rw [hsilent]
    rcases of_update_some running with ⟨rfl, rfl⟩ | ⟨-, running⟩
    · exact ⟨[], (h.fresh s.next (Nat.le_refl _)).2, by simp, rfl, Nat.zero_le _⟩
    · exact h.failed i q running
  · rw [hsilent]
    exact h.bounded i

theorem Tried.move (h : Tried past s) (running : s.queries i = some q) (m : QueryMove)
    (out : Option (Except WhoisError Text)) :
    Tried (past ++ [⟨s, .move i m, out, (s.move i q m).2⟩]) (s.move i q m).2 := by
  obtain ⟨errors, herrors, htransient, hlength, hle⟩ := h.failed i q running
  have hmax := retries_le q.kind
  -- the attempts of the query itself, and those of the others
  have hothers : ∀ j, j ≠ i → attempts j (past ++ [⟨s, .move i m, out, (s.move i q m).2⟩]) =
      attempts j past := by
    intro j hne
    rw [attempts_concat, attempt_of_ne hne, Option.toList_none, List.append_nil]
  have hown : (attempts i (past ++ [⟨s, .move i m, out, (s.move i q m).2⟩])).length ≤
      maxRetryAttempts + 1 ∧ ∀ q', (s.move i q m).2.queries i = some q' →
        q'.Failed (attempts i (past ++ [⟨s, .move i m, out, (s.move i q m).2⟩])) := by
    have htries := tries_move running m
    generalize s.move i q m = moved at htries ⊢
    obtain ⟨outcome, s'⟩ := moved
    rw [attempts_concat, herrors]
    cases htries with
    | goes tried queries =>
      rw [tried, Option.toList_none, List.append_nil, List.length_map]
      refine ⟨by omega, fun q' hq' => ⟨errors, rfl, htransient, ?_⟩⟩
      obtain ⟨hkind, hfailures⟩ := queries q' hq'
      rw [hkind, hfailures]
      exact ⟨hlength, hle⟩
    | fails e tried transient again queries =>
      rw [tried, Option.toList_some, List.length_append, List.length_map, List.length_singleton]
      refine ⟨by omega, fun q' hq' => ⟨errors ++ [e], by simp, ?_, ?_⟩⟩
      · intro e' he'
        rcases List.mem_append.mp he' with he' | he'
        · exact htransient e' he'
        · obtain rfl := List.mem_singleton.mp he'
          exact transient
      · obtain ⟨hkind, hfailures⟩ := queries q' hq'
        rw [hkind, hfailures, List.length_append, List.length_singleton]
        omega
    | ends result tried last queries =>
      rw [tried, Option.toList_some, List.length_append, List.length_map, List.length_singleton]
      refine ⟨by omega, fun q' hq' => ?_⟩
      rw [queries] at hq'
      cases hq'
  refine ⟨fun j hj => ?_, fun j r hr => ?_, fun j => ?_⟩
  · rw [next_move] at hj
    obtain ⟨hnone, hattempts⟩ := h.fresh j hj
    have hne : j ≠ i := by
      rintro rfl
      rw [running] at hnone
      cases hnone
    rw [queries_move_of_ne hne, hothers j hne]
    exact ⟨hnone, hattempts⟩
  · by_cases hji : j = i
    · subst hji
      exact hown.2 r hr
    · rw [queries_move_of_ne hji] at hr
      rw [hothers j hji]
      exact h.failed j r hr
  · by_cases hji : j = i
    · subst hji
      exact hown.1
    · rw [hothers j hji]
      exact h.bounded j

theorem Tried.step (h : Tried past s) (action : TrafficAction) :
    Tried (past ++ [(trafficMachine sem service).step s action]) (s.act action).2 := by
  cases action with
  | start kind => exact h.start kind
  | move i m =>
    show Tried (past ++ [⟨s, .move i m, (s.act (.move i m)).1, (s.act (.move i m)).2⟩])
      (s.act (.move i m)).2
    rw [act]
    cases running : s.queries i with
    | none =>
      have hsilent := attempts_silent past (x := ⟨s, .move i m, none, s⟩) fun j => by
        cases m with
        | finished result =>
          refine if_neg ?_
          rintro ⟨rfl, hany⟩
          rw [running] at hany
          cases hany
        | _ => rfl
      refine ⟨fun j hj => ?_, fun j q hq => ?_, fun j => ?_⟩
      · rw [hsilent]
        exact h.fresh j hj
      · rw [hsilent]
        exact h.failed j q hq
      · rw [hsilent]
        exact h.bounded j
    | some q => exact h.move running m _

theorem tried_run (es : List TrafficAction) :
    Tried ((trafficMachine sem service).run (new sem service) es)
      ((trafficMachine sem service).final (new sem service) es) :=
  (trafficMachine sem service).history_of_step (fun _ _ e h => h.step e)
    ⟨fun _ _ => ⟨rfl, rfl⟩, by rintro i q ⟨⟩, fun _ => Nat.zero_le _⟩ es

end Traffic

/-- **A query ends with what its own attempts make of it.** However the queries of a service move
between its attempts, a query has at most one attempt and the retries, and when it ends, its outcome is
what `execute_whois_query` makes of the results of its attempts: the transient errors are passed over
while there are retries, and the next result is returned. -/
theorem retried_of_run (sem : FairSemaphore Nat) {bits : Nat} (service : WhoisService bits)
    (es : List TrafficAction) :
    let xs := (trafficMachine sem service).run (.new sem service) es
    (∀ i, (Traffic.attempts i xs).length ≤ maxRetryAttempts + 1) ∧
      ∀ past x rest, xs = past ++ x :: rest → ∀ i m q outcome, x.event = .move i m →
        x.pre.queries i = some q → x.out = some outcome →
          Eff.retry (Eff.replay .timeout) isTransient q.kind.retries
            (Traffic.attempts i (past ++ [x])) = (outcome, []) := by
  refine ⟨fun i => (Traffic.tried_run es).bounded i, ?_⟩
  intro past x rest hrun i m q outcome hevent running hout
  obtain ⟨es', e, rfl, rfl⟩ := Machine.run_eq_append_cons _ hrun
  obtain ⟨errors, herrors, htransient, hlength, hle⟩ := (Traffic.tried_run es').failed i q running
  obtain rfl : e = .move i m := hevent
  rw [Traffic.attempts_concat, herrors]
  have hact : ((trafficMachine sem service).final (.new sem service) es').act (.move i m) =
      ((trafficMachine sem service).final (.new sem service) es').move i q m := by
    rw [Traffic.act]
    rw [Machine.step_pre] at running
    rw [running]
  replace hout : (((trafficMachine sem service).final (.new sem service) es').act (.move i m)).1 =
      some outcome := hout
  rw [hact] at hout
  have htries := Traffic.tries_move running m
  rw [Machine.step_pre, hout] at htries
  cases htries with
  | ends result tried last queries =>
    show Eff.retry _ _ _ (_ ++ (Traffic.attempt i ⟨_, .move i m, _,
      (((trafficMachine sem service).final (.new sem service) es').act (.move i m)).2⟩).toList) = _
    rw [hact, tried, Option.toList_some]
    obtain ⟨n, hn⟩ := Nat.exists_eq_add_of_le hle
    rw [hn, ← hlength]
    refine Eff.retry_replay htransient fun e' he' htransient' => ?_
    have hlast := last e' he' htransient'
    omega

/-- An attempt that times out, and one that does not. -/
theorem retried_of_run_second :
    let es : List TrafficAction := [.start .raw, .move 0 .connect,
      .move 0 (.finished (.error .timeout)), .move 0 .connect, .move 0 .sent]
    Eff.retry (Eff.replay .timeout) isTransient 3 (Traffic.attempts 0
      ((trafficMachine Permits.fair narrow).run (.new _ narrow)
        (es ++ [.move 0 (.finished (.ok "a".toList))]))) = (.ok "a".toList, []) := by
  intro es
  rw [Machine.run_concat]
  exact (retried_of_run Permits.fair narrow (es ++ [.move 0 (.finished (.ok "a".toList))])).2 _ _ []
    (Machine.run_concat _ _ es _) 0 _ ⟨.raw, 1, .reading (.zeroed 256)⟩ _ rfl rfl rfl

end RustWhois
