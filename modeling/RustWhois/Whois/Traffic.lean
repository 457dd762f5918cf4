import RustWhois.Std.Census
import RustWhois.Std.Machine
import RustWhois.Std.Permits
import RustWhois.Services

/-!
# Queries in flight

All WHOIS queries of one service, over its semaphores and its buffer pool: a query waits for a permit,
connects, reads, is tried again, ends or is dropped, in any order with the others.

* `Traffic`, `trafficMachine`: the queries in flight and their steps;
* `Traffic.Ordered`: the callers of a semaphore are its queries in flight, in the order of their numbers;
* **`traffic_of_run`**: who has a permit, and how many are connected.
-/

namespace RustWhois

open Rust

/-- The semaphores of a service. -/
inductive Gate
  | domainQuery
  | discovery
  deriving DecidableEq

/-- The permits of a semaphore, for each of `concurrent_whois_queries`. -/
def Gate.share : Gate → Nat
  | domainQuery => 1
  | discovery => 2

namespace QueryKind

/-- The semaphore that a query acquires. -/
def gate : QueryKind → Gate
  | raw | referral => .domainQuery
  | discovery => .discovery

/-- The attempts after the first: a referral query has none. -/
def retries : QueryKind → Nat
  | raw | discovery => maxRetryAttempts
  | referral => 0

end QueryKind

/-- Where an attempt stands. -/
inductive Stage
  | idle
  | connecting
  | reading (buffer : Buffer)
  deriving DecidableEq

/-- A query in flight, with the number of attempts that failed. -/
structure Query where
  kind : QueryKind
  failures : Nat
  stage : Stage

namespace Query

/-- The first attempt has begun. -/
def Started (self : Query) : Prop := self.stage ≠ .idle ∨ 0 < self.failures

def uses (gate : Gate) (self : Query) : Bool := self.kind.gate = gate

/-- The query has a connection, or is about to have one. -/
def connected (gate : Gate) (self : Query) : Bool := self.uses gate && self.stage ≠ .idle

end Query

/-- What happens to a query. -/
inductive QueryMove
  /-- An attempt begins: with the permit, or after the delay since the last one. -/
  | connect
  /-- There is a connection and the query was sent. -/
  | sent
  | received (bytes : List UInt8)
  /-- The attempt ends, with an error also by a deadline. -/
  | finished (result : Except WhoisError Text)
  /-- The caller is gone. -/
  | dropped

inductive TrafficAction
  | start (kind : QueryKind)
  | move (i : Nat) (m : QueryMove)

def WhoisService.permits {bits : Nat} (service : WhoisService bits) : Gate → Nat
  | .domainQuery => service.semaphores.query.permits
  | .discovery => service.semaphores.discovery.permits

/-- The queries in flight by their numbers, the next number, and what they share. -/
structure Traffic {bits : Nat} (sem : FairSemaphore Nat) (service : WhoisService bits) where
  queries : Nat → Option Query
  next : Nat
  semaphores : ∀ gate, sem.State (service.permits gate)
  pool : BufferPool

namespace Traffic

variable {bits : Nat} {sem : FairSemaphore Nat} {service : WhoisService bits}

def new (sem : FairSemaphore Nat) (service : WhoisService bits) : Traffic sem service :=
  ⟨fun _ => none, 0, fun gate => sem.new (service.permits gate), service.bufferPool⟩

/-- A query is made: it acquires a permit or waits for one. -/
def start (kind : QueryKind) (s : Traffic sem service) : Traffic sem service :=
  { s with
    queries := Function.update s.queries s.next (some ⟨kind, 0, .idle⟩)
    next := s.next + 1
    semaphores :=
      Function.update s.semaphores kind.gate (sem.acquire (s.semaphores kind.gate) s.next) }

def put (i : Nat) (q : Query) (s : Traffic sem service) : Traffic sem service :=
  { s with queries := Function.update s.queries i (some q) }

/-- The buffer of an attempt that is over goes back to the pool. -/
def recycle (stage : Stage) (s : Traffic sem service) : Traffic sem service :=
  match stage with
  | .reading buffer =>
    { s with pool := PooledBuffer.drop s.pool service.config.bufferSize buffer }
  | _ => s

/-- A query is over: its buffer and then its permit, or its place in the queue, are dropped. -/
def leave (i : Nat) (q : Query) (s : Traffic sem service) : Traffic sem service :=
  let s := s.recycle q.stage
  { s with
    queries := Function.update s.queries i none
    semaphores :=
      Function.update s.semaphores q.kind.gate (sem.drop (s.semaphores q.kind.gate) i) }

/-- The end of an attempt: the query keeps its permit if it is tried again. -/
def finish (i : Nat) (q : Query) (result : Except WhoisError Text) (s : Traffic sem service) :
    Option (Except WhoisError Text) × Traffic sem service :=
  match result with
  | .ok answer => (some (.ok answer), s.leave i q)
  | .error e =>
    if isTransient e ∧ q.failures < q.kind.retries then
      (none, (s.recycle q.stage).put i ⟨q.kind, q.failures + 1, .idle⟩)
    else (some (.error e), s.leave i q)

/-- A move of a query, with its outcome if it ends. -/
def move (i : Nat) (q : Query) (m : QueryMove) (s : Traffic sem service) :
    Option (Except WhoisError Text) × Traffic sem service :=
  match m, q.stage with
  | .connect, .idle =>
    if i ∈ sem.holders (s.semaphores q.kind.gate) then (none, s.put i { q with stage := .connecting })
    else (none, s)
  | .sent, .connecting =>
    let (buffer, pool) := PooledBuffer.take s.pool service.config.bufferSize
    (none, { s.put i { q with stage := .reading buffer } with pool })
  | .received bytes, .reading buffer =>
    let chunk := bytes.take buffer.bytes.length
    (none, s.put i { q with stage := .reading (buffer.fill chunk) })
  | .finished (.error e), .connecting => s.finish i q (.error e)
  | .finished result, .reading _ => s.finish i q result
  | .dropped, _ => (none, s.leave i q)
  | _, _ => (none, s)

def act (s : Traffic sem service) :
    TrafficAction → Option (Except WhoisError Text) × Traffic sem service
  | .start kind => (none, s.start kind)
  | .move i m =>
    match s.queries i with
    | some q => s.move i q m
    | none => (none, s)

end Traffic

def trafficMachine {bits : Nat} (sem : FairSemaphore Nat) (service : WhoisService bits) :
    Machine (Traffic sem service) TrafficAction (Option (Except WhoisError Text)) where
  next := Traffic.act

abbrev TrafficStep {bits : Nat} (sem : FairSemaphore Nat) (service : WhoisService bits) : Type :=
  Machine.Step (Traffic sem service) TrafficAction (Option (Except WhoisError Text))

namespace Traffic

variable {bits : Nat} {sem : FairSemaphore Nat} {service : WhoisService bits}
  {s s' : Traffic sem service} {i : Nat} {q : Query}

/-! ## Who has a permit -/

@[simp] theorem queries_recycle (stage : Stage) (s : Traffic sem service) :
    (s.recycle stage).queries = s.queries := by
  cases stage <;> rfl

@[simp] theorem semaphores_recycle (stage : Stage) (s : Traffic sem service) :
    (s.recycle stage).semaphores = s.semaphores := by
  cases stage <;> rfl

@[simp] theorem next_recycle (stage : Stage) (s : Traffic sem service) :
    (s.recycle stage).next = s.next := by
  cases stage <;> rfl

/-- A query goes on, with the permit that it has. -/
structure Goes (i : Nat) (q : Query) (s s' : Traffic sem service) : Prop where
  queries : ∃ q', q'.kind = q.kind ∧ s'.queries = Function.update s.queries i (some q')
  semaphores : s'.semaphores = s.semaphores
  next : s'.next = s.next
  permit : q.Started ∨ i ∈ sem.holders (s.semaphores q.kind.gate)

/-- A query is over. -/
structure Left (i : Nat) (q : Query) (s s' : Traffic sem service) : Prop where
  queries : s'.queries = Function.update s.queries i none
  semaphores : s'.semaphores =
    Function.update s.semaphores q.kind.gate (sem.drop (s.semaphores q.kind.gate) i)
  next : s'.next = s.next

theorem left_leave (i : Nat) (q : Query) (s : Traffic sem service) : Left i q s (s.leave i q) :=
  ⟨by simp [leave], by simp [leave], by simp [leave]⟩

theorem finish_cases (hstarted : q.Started) (result : Except WhoisError Text) :
    Goes i q s (s.finish i q result).2 ∨ Left i q s (s.finish i q result).2 := by
  cases result with
  | ok answer => exact .inr (left_leave i q s)
  | error e =>
    rw [finish]
    split_ifs
    · exact .inl ⟨⟨⟨q.kind, q.failures + 1, .idle⟩, rfl, by simp [put]⟩, by simp [put],
        by simp [put], .inl hstarted⟩
    · exact .inr (left_leave i q s)

/-- **What a move changes**: nothing, the query, or it leaves. -/
theorem move_cases (m : QueryMove) : (s.move i q m).2 = s ∨ Goes i q s (s.move i q m).2 ∨
    Left i q s (s.move i q m).2 := by
  obtain ⟨kind, failures, stage⟩ := q
  have hput : ∀ stage', Query.Started ⟨kind, failures, stage⟩ ∨
      i ∈ sem.holders (s.semaphores kind.gate) →
      Goes i ⟨kind, failures, stage⟩ s (s.put i ⟨kind, failures, stage'⟩) :=
    fun stage' hpermit => ⟨⟨⟨kind, failures, stage'⟩, rfl, rfl⟩, rfl, rfl, hpermit⟩
  cases m with
  | connect =>
    cases stage with
    | idle =>
      simp only [move]
      split_ifs with hpermit
      · exact .inr (.inl (hput _ (.inr hpermit)))
      · exact .inl rfl
    | _ => exact .inl rfl
  | sent =>
    cases stage with
    | connecting =>
      exact .inr (.inl ⟨⟨⟨kind, failures, .reading _⟩, rfl, rfl⟩, rfl, rfl, .inl (.inl (by simp))⟩)
    | _ => exact .inl rfl
  | received bytes =>
    cases stage with
    | reading buffer => exact .inr (.inl (hput _ (.inl (.inl (by simp)))))
    | _ => exact .inl rfl
  | finished result =>
    cases stage with
    | idle => cases result <;> exact .inl rfl
    | connecting =>
      cases result with
      | ok answer => exact .inl rfl
      | error e => exact .inr (finish_cases (.inl (by simp)) _)
    | reading buffer => cases result <;> exact .inr (finish_cases (.inl (by simp)) _)
  | dropped => exact .inr (.inr (left_leave i _ s))

/-- The callers of a semaphore are its queries in flight, in the order of their numbers, and a query
that has begun has its permit. -/
structure Ordered (s : Traffic sem service) : Prop where
  fresh : ∀ i, s.next ≤ i → s.queries i = none
  sorted : ∀ gate, (sem.callers (s.semaphores gate)).Pairwise (· < ·)
  callers : ∀ gate i, i ∈ sem.callers (s.semaphores gate) ↔ (s.queries i).any (Query.uses gate)
  started : ∀ i q, s.queries i = some q → q.Started → i ∈ sem.holders (s.semaphores q.kind.gate)

theorem ordered_new : Ordered (new sem service) := by
  refine ⟨fun _ _ => rfl, fun gate => ?_, fun gate i => ?_, ?_⟩
  · show (sem.callers (sem.new _)).Pairwise (· < ·)
    rw [sem.callers_new]
    exact .nil
  · show i ∈ sem.callers (sem.new _) ↔ _
    rw [sem.callers_new]
    exact iff_of_false List.not_mem_nil (by simp [new])
  · rintro i q ⟨⟩

theorem ordered_start (h : Ordered s) (kind : QueryKind) : Ordered (s.start kind) := by
  have hnext : s.queries s.next = none := h.fresh _ (Nat.le_refl _)
  refine ⟨fun i hi => ?_, fun gate => ?_, fun gate i => ?_, fun i q running hstarted => ?_⟩
  · replace hi : s.next + 1 ≤ i := hi
    show Function.update s.queries s.next (some ⟨kind, 0, .idle⟩) i = none
    rw [Function.update_of_ne (by omega)]
    exact h.fresh i (by omega)
  · show (sem.callers (Function.update s.semaphores kind.gate _ gate)).Pairwise (· < ·)
    by_cases hgate : gate = kind.gate
    · subst hgate
      rw [Function.update_self, sem.callers_acquire, List.pairwise_append]
      refine ⟨h.sorted _, List.pairwise_singleton _ _, fun j hj k hk => ?_⟩
      obtain rfl := List.mem_singleton.mp hk
      by_contra hle
      have hany := (h.callers _ j).mp hj
      rw [h.fresh j (by omega)] at hany
      cases hany
    · rw [Function.update_of_ne hgate]
      exact h.sorted gate
  · show i ∈ sem.callers (Function.update s.semaphores kind.gate _ gate) ↔
      (Function.update s.queries s.next (some ⟨kind, 0, .idle⟩) i).any (Query.uses gate)
    have hold : i ≠ s.next → (Function.update s.queries s.next (some ⟨kind, 0, .idle⟩) i) =
        s.queries i := fun hne => Function.update_of_ne hne _ _
    by_cases hgate : gate = kind.gate
    · subst hgate
      rw [Function.update_self, sem.callers_acquire, List.mem_append,
        List.mem_singleton]
      by_cases hi : i = s.next
      · subst hi
        simp [Query.uses]
      · rw [hold hi, h.callers]
        simp [hi]
    · rw [Function.update_of_ne hgate, h.callers]
      by_cases hi : i = s.next
      · subst hi
        simp [hnext, Query.uses, Ne.symm hgate]
      · rw [hold hi]
  · rcases of_update_some running with ⟨-, rfl⟩ | ⟨hne, running⟩
    · exact absurd hstarted (by simp [Query.Started])
    · have hholder := h.started i q running hstarted
      show i ∈ sem.holders (Function.update s.semaphores kind.gate _ q.kind.gate)
      by_cases hgate : q.kind.gate = kind.gate
      · rw [hgate] at hholder ⊢
        rw [Function.update_self]
        exact sem.mem_holders_acquire hholder _
      · rw [Function.update_of_ne hgate]
        exact hholder

theorem Goes.ordered (hgoes : Goes i q s s') (h : Ordered s) (running : s.queries i = some q) :
    Ordered s' := by
  obtain ⟨⟨q', hkind, hqueries⟩, hsemaphores, hnext, hpermit⟩ := hgoes
  have hholder : i ∈ sem.holders (s.semaphores q.kind.gate) :=
    hpermit.elim (h.started i q running) id
  refine ⟨fun j hj => ?_, fun gate => ?_, fun gate j => ?_, fun j r hr hstarted => ?_⟩
  · rw [hnext] at hj
    have hnone := h.fresh j hj
    have hne : j ≠ i := by
      rintro rfl
      rw [running] at hnone
      cases hnone
    rw [hqueries, Function.update_of_ne hne, hnone]
  · rw [hsemaphores]
    exact h.sorted gate
  · rw [hsemaphores, h.callers, hqueries]
    by_cases hj : j = i
    · subst hj
      rw [Function.update_self, running, Option.any_some, Option.any_some, Query.uses, Query.uses,
        hkind]
    · rw [Function.update_of_ne hj]
  · rw [hsemaphores]
    rw [hqueries] at hr
    rcases of_update_some hr with ⟨rfl, rfl⟩ | ⟨-, hr⟩
    · rw [hkind]
      exact hholder
    · exact h.started j r hr hstarted

theorem Left.ordered (hleft : Left i q s s') (h : Ordered s) (running : s.queries i = some q) :
    Ordered s' := by
  obtain ⟨hqueries, hsemaphores, hnext⟩ := hleft
  refine ⟨fun j hj => ?_, fun gate => ?_, fun gate j => ?_, fun j r hr hstarted => ?_⟩
  · rw [hnext] at hj
    rw [hqueries]
    by_cases hji : j = i
    · subst hji
      exact Function.update_self _ _ _
    · rw [Function.update_of_ne hji]
      exact h.fresh j hj
  · rw [hsemaphores]
    by_cases hgate : gate = q.kind.gate
    · subst hgate
      rw [Function.update_self, sem.callers_drop]
      exact (h.sorted _).sublist List.erase_sublist
    · rw [Function.update_of_ne hgate]
      exact h.sorted gate
  · rw [hsemaphores, hqueries]
    have hnodup := (h.sorted gate).imp fun hlt => Nat.ne_of_lt hlt
    by_cases hgate : gate = q.kind.gate
    · subst hgate
      rw [Function.update_self, sem.callers_drop, List.Nodup.mem_erase_iff hnodup, h.callers]
      by_cases hj : j = i
      · subst hj
        simp
      · simp [hj]
    · rw [Function.update_of_ne hgate, h.callers]
      by_cases hj : j = i
      · subst hj
        simp [running, Query.uses, Ne.symm hgate]
      · rw [Function.update_of_ne hj]
  · rw [hqueries] at hr
    obtain ⟨hne, hr⟩ := of_update_none hr
    have hholder := h.started j r hr hstarted
    rw [hsemaphores]
    by_cases hgate : r.kind.gate = q.kind.gate
    · rw [hgate] at hholder ⊢
      rw [Function.update_self]
      exact sem.mem_holders_drop hholder hne
    · rw [Function.update_of_ne hgate]
      exact hholder

theorem Ordered.act (h : Ordered s) (action : TrafficAction) : Ordered (s.act action).2 := by
  cases action with
  | start kind => exact ordered_start h kind
  | move i m =>
    rw [Traffic.act]
    cases running : s.queries i with
    | none => exact h
    | some q =>
      rcases move_cases (s := s) (i := i) (q := q) m with hsame | hgoes | hleft
      · dsimp only
        rw [hsame]
        exact h
      · exact hgoes.ordered h running
      · exact hleft.ordered h running

theorem ordered_final (es : List TrafficAction) :
    Ordered ((trafficMachine sem service).final (new sem service) es) :=
  (trafficMachine sem service).final_of_step (fun _ e h => h.act e) ordered_new es

theorem Ordered.connected_le (h : Ordered s) (gate : Gate) :
    census (Query.connected gate) s.queries s.next ≤ service.permits gate := by
  refine Nat.le_trans (census_le_length (l := sem.holders (s.semaphores gate)) (fun k hk => ?_) _)
    (sem.length_holders_le _)
  cases running : s.queries k with
  | none =>
    rw [running] at hk
    cases hk
  | some q =>
    rw [running, Option.any_some, Query.connected, Bool.and_eq_true, Query.uses, decide_eq_true_eq,
      decide_eq_true_eq] at hk
    obtain ⟨rfl, hstage⟩ := hk
    exact h.started k q running (.inl hstage)

/-- **Nobody waits while there is a permit, or behind later queries.** -/
theorem Ordered.waiting (h : Ordered s) (running : s.queries i = some q)
    (hwaits : i ∉ sem.holders (s.semaphores q.kind.gate)) :
    (sem.holders (s.semaphores q.kind.gate)).length = service.permits q.kind.gate ∧
      ∀ j ∈ sem.holders (s.semaphores q.kind.gate),
        j < i ∧ (s.queries j).any (Query.uses q.kind.gate) := by
  have hcaller : i ∈ sem.callers (s.semaphores q.kind.gate) := by
    rw [h.callers, running]
    simp [Query.uses]
  have hqueue : i ∈ sem.queue (s.semaphores q.kind.gate) :=
    (List.mem_append.mp hcaller).resolve_left hwaits
  refine ⟨sem.waiting hqueue, fun j hj => ⟨?_, ?_⟩⟩
  · exact (List.pairwise_append.mp (h.sorted q.kind.gate)).2.2 j hj i hqueue
  · exact (h.callers _ j).mp (List.mem_append_left _ hj)

end Traffic

/-! ## Results -/

/-- The service has what the configuration asks for. -/
structure WhoisService.Built {bits : Nat} (config : Config) (service : WhoisService bits) : Prop where
  config_eq : service.config = config
  pool : service.bufferPool = ⟨[], config.bufferPoolSize⟩
  permits : ∀ gate, service.permits gate = gate.share * config.concurrentWhoisQueries

theorem WhoisService.built_of_new {bits : Nat} {config : Config} {service : WhoisService bits}
    (hnew : WhoisService.new bits config = .ok service) : service.Built config := by
  rw [WhoisService.new] at hnew
  cases hvalid : validated config with
  | error e =>
    rw [hvalid] at hnew
    cases hnew
  | ok u =>
    rw [hvalid] at hnew
    by_cases hle : config.concurrentWhoisQueries * 2 ≤ maxPermits bits
    · rw [Semaphores.new_of_le hle] at hnew
      cases hnew
      refine ⟨rfl, rfl, fun gate => ?_⟩
      cases gate with
      | domainQuery => exact (Nat.one_mul _).symm
      | discovery => exact Nat.mul_comm _ 2
    · obtain ⟨f, hf⟩ := Semaphores.new_of_lt (Nat.lt_of_not_le hle)
      rw [hf] at hnew
      cases hnew

/-- A service with one permit for domain queries. -/
def narrow : WhoisService 64 where
  config := { Config.small with concurrentWhoisQueries := 1 }
  semaphores := ⟨⟨1, by decide⟩, ⟨2, by decide⟩⟩
  bufferPool := ⟨[], Config.small.bufferPoolSize⟩

theorem narrow_new :
    WhoisService.new 64 { Config.small with concurrentWhoisQueries := 1 } = .ok narrow := rfl

/-- **The connections are limited and no permit is lost.** However queries are made, move and are
dropped: for each semaphore, at most as many queries are connected as it has permits; a query that has
begun has a permit, between its attempts too; and a query waits only while queries that were made before
it have all the permits. -/
theorem traffic_of_run (sem : FairSemaphore Nat) {bits : Nat} {config : Config}
    {service : WhoisService bits} (hnew : WhoisService.new bits config = .ok service)
    (es : List TrafficAction) :
    let s := (trafficMachine sem service).final (.new sem service) es
    ∀ gate, census (Query.connected gate) s.queries s.next ≤
        gate.share * config.concurrentWhoisQueries ∧
      ∀ i q, s.queries i = some q → q.kind.gate = gate →
        (q.Started → i ∈ sem.holders (s.semaphores gate)) ∧
        (i ∉ sem.holders (s.semaphores gate) →
          (sem.holders (s.semaphores gate)).length = gate.share * config.concurrentWhoisQueries ∧
          ∀ j ∈ sem.holders (s.semaphores gate), j < i ∧ (s.queries j).any (Query.uses gate)) := by
  intro s gate
  have h : Traffic.Ordered s := Traffic.ordered_final es
  rw [← (service.built_of_new hnew).permits gate]
  refine ⟨h.connected_le gate, ?_⟩
  rintro i q running rfl
  exact ⟨h.started i q running, h.waiting running⟩

/-- A referral query behind a query that connects. -/
theorem traffic_of_run_waiting :
    let sem : FairSemaphore Nat := Permits.fair
    let s := (trafficMachine sem narrow).final (.new sem narrow)
      [.start .raw, .start .referral, .move 0 .connect]
    census (Query.connected .domainQuery) s.queries s.next ≤ 1 ∧
      0 ∈ sem.holders (s.semaphores .domainQuery) ∧
      (sem.holders (s.semaphores .domainQuery)).length = 1 := by
  have h := traffic_of_run Permits.fair narrow_new [.start .raw, .start .referral, .move 0 .connect]
    .domainQuery
  exact ⟨h.1, (h.2 0 ⟨.raw, 0, .connecting⟩ rfl rfl).1 (.inl (by decide)),
    ((h.2 1 ⟨.referral, 0, .idle⟩ rfl rfl).2 (by decide)).1⟩

end RustWhois
