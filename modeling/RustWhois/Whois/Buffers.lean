import RustWhois.Whois.Reading
import RustWhois.Whois.Traffic

/-!
# Buffers of the queries in flight

What becomes of the buffers while queries take them from the pool, read into them and give them back.

* `Buffer.Sized`, **`PooledBuffer.take_sized`**, **`PooledBuffer.drop_sized`**: buffers of the configured
  size are recycled as they are;
* `Traffic.Stocked`: the pool and the buffers in use;
* **`buffers_of_run`**: how many buffers there are, and how many are ever allocated.
-/

namespace RustWhois

open Rust

/-! ## The pool -/

/-- A buffer of the size that is asked for. -/
structure Buffer.Sized (size : Nat) (b : Buffer) : Prop where
  length : b.bytes.length = size
  capacity : size ≤ b.capacity

theorem Buffer.sized_zeroed (size : Nat) : (Buffer.zeroed size).Sized size :=
  ⟨List.length_replicate, Nat.le_refl size⟩

theorem Buffer.Sized.fill {size : Nat} {buffer : Buffer} (h : buffer.Sized size)
    (bytes : List UInt8) : (buffer.fill (bytes.take buffer.bytes.length)).Sized size := by
  have hchunk : (bytes.take buffer.bytes.length).length ≤ buffer.bytes.length :=
    List.length_take_le _ _
  exact ⟨(Buffer.length_fill hchunk).trans h.length, h.capacity⟩

namespace PooledBuffer

/-- `PooledBuffer::new` allocates: the pool is empty, or its buffer is too small. -/
def allocates (pool : BufferPool) (size : Nat) : Bool :=
  match pool.buffers with
  | buf :: _ => buf.capacity < size
  | [] => true

theorem buffers_take (pool : BufferPool) (size : Nat) :
    (take pool size).2 = { pool with buffers := pool.buffers.tail } := by
  obtain ⟨buffers, capacity⟩ := pool
  cases buffers <;> rfl

/-- **Of a pool of buffers of the size, a buffer of the size is taken**, and only an empty pool
allocates. -/
theorem take_sized {pool : BufferPool} {size : Nat} (h : ∀ b ∈ pool.buffers, b.Sized size) :
    (take pool size).1.Sized size ∧ allocates pool size = pool.buffers.isEmpty := by
  obtain ⟨buffers, capacity⟩ := pool
  cases buffers with
  | nil => exact ⟨Buffer.sized_zeroed size, rfl⟩
  | cons buf rest =>
    have hbuf := h buf List.mem_cons_self
    refine ⟨⟨length_take _ _, ?_⟩, ?_⟩
    · simp only [take, if_pos hbuf.capacity]
      exact hbuf.capacity
    · exact decide_eq_false (Nat.not_lt.mpr hbuf.capacity)

/-- **A buffer of the size goes back as it is**, if there is room. -/
theorem drop_sized {pool : BufferPool} {size : Nat} {buffer : Buffer} (h : buffer.Sized size) :
    drop pool size buffer = if pool.buffers.length < pool.capacity then
      { pool with buffers := pool.buffers ++ [buffer] } else pool := by
  have hcut : buffer.truncate size = buffer := by
    rw [Buffer.truncate, List.take_of_length_le (Nat.le_of_eq h.length)]
  have hlength : ¬ buffer.bytes.length < size := by
    rw [h.length]
    exact Nat.lt_irrefl size
  simp only [drop, if_pos h.capacity, hcut, if_neg hlength]

end PooledBuffer

/-! ## Buffers in use -/

def Query.isReading (self : Query) : Bool :=
  match self.stage with
  | .reading _ => true
  | _ => false

theorem Query.isReading_of_stage {q : Query} {buffer : Buffer} (h : q.stage = .reading buffer) :
    q.isReading = true := by
  rw [isReading, h]

theorem Query.isReading_iff {q : Query} :
    q.isReading = true ↔ ∃ buffer, q.stage = .reading buffer := by
  obtain ⟨kind, failures, stage⟩ := q
  cases stage <;> simp [isReading]

namespace Traffic

variable {bits : Nat} {sem : FairSemaphore Nat} {service : WhoisService bits}
  {s s' : Traffic sem service} {i : Nat} {q : Query}

def InUse (s : Traffic sem service) (buffer : Buffer) : Prop :=
  ∃ i q, s.queries i = some q ∧ q.stage = .reading buffer

/-- The buffers in the pool and in use. -/
def buffers (s : Traffic sem service) : Nat :=
  s.pool.buffers.length + census Query.isReading s.queries s.next

/-- The step allocates a buffer. -/
def allocates (x : TrafficStep sem service) : Bool :=
  match x.event with
  | .move i .sent => (x.pre.queries i).any (fun q => q.stage = .connecting) &&
      PooledBuffer.allocates x.pre.pool service.config.bufferSize
  | _ => false

/-- The step drops a buffer for which there is no room in the pool. -/
def discards (x : TrafficStep sem service) : Bool :=
  match x.event with
  | .move i _ => (x.pre.queries i).any Query.isReading && !(x.post.queries i).any Query.isReading &&
      decide (x.pre.pool.capacity ≤ x.pre.pool.buffers.length)
  | .start _ => false

/-- What a move does with the buffers: a query goes on with the buffer that it has or without one, takes
one, or gives it back. -/
inductive Handles (i : Nat) (q : Query) (m : QueryMove) (s s' : Traffic sem service) : Prop
  | keeps (v : Option Query) (queries : s'.queries = Function.update s.queries i v)
    (next : s'.next = s.next) (pool : s'.pool = s.pool)
    (reading : v.any Query.isReading = q.isReading)
    (sized : ∀ q' buffer', v = some q' → q'.stage = .reading buffer' → ∃ buffer,
      q.stage = .reading buffer ∧ ∀ size, buffer.Sized size → buffer'.Sized size)
    (still : m = .sent → q.stage ≠ .connecting)
  | takes (sent : m = .sent) (stage : q.stage = .connecting)
    (queries : s'.queries = Function.update s.queries i
      (some { q with stage := .reading (PooledBuffer.take s.pool service.config.bufferSize).1 }))
    (next : s'.next = s.next)
    (pool : s'.pool = (PooledBuffer.take s.pool service.config.bufferSize).2)
  | drops (buffer : Buffer) (stage : q.stage = .reading buffer) (v : Option Query)
    (queries : s'.queries = Function.update s.queries i v) (next : s'.next = s.next)
    (reading : v.any Query.isReading = false)
    (pool : s'.pool = PooledBuffer.drop s.pool service.config.bufferSize buffer)

variable {m : QueryMove}

theorem handles_leave (hm : m ≠ .sent) (i : Nat) (q : Query) (s : Traffic sem service) :
    Handles i q m s (s.leave i q) := by
  obtain ⟨kind, failures, stage⟩ := q
  cases stage with
  | reading buffer => exact .drops buffer rfl none rfl rfl rfl rfl
  | _ => exact .keeps none rfl rfl rfl rfl (by rintro q' buffer' ⟨⟩) fun h => absurd h hm

theorem handles_finish (hm : m ≠ .sent) (result : Except WhoisError Text) :
    Handles i q m s (s.finish i q result).2 := by
  cases result with
  | ok answer => exact handles_leave hm i q s
  | error e =>
    rw [finish]
    split_ifs
    · obtain ⟨kind, failures, stage⟩ := q
      cases stage with
      | reading buffer => exact .drops buffer rfl (some ⟨kind, failures + 1, .idle⟩) rfl rfl rfl rfl
      | _ =>
        exact .keeps (some ⟨kind, failures + 1, .idle⟩) rfl rfl rfl rfl (by rintro q' buffer' ⟨⟩ ⟨⟩)
          fun h => absurd h hm
    · exact handles_leave hm i q s

theorem handles_move (running : s.queries i = some q) (m : QueryMove) :
    Handles i q m s (s.move i q m).2 := by
  have hsame : (m = .sent → q.stage ≠ .connecting) → Handles i q m s s := by
    refine .keeps (some q) ?_ rfl rfl rfl ?_
    · rw [← running, Function.update_eq_self]
    · rintro q' buffer' ⟨⟩ hstage
      exact ⟨buffer', hstage, fun _ h => h⟩
  obtain ⟨kind, failures, stage⟩ := q
  cases m with
  | connect =>
    cases stage with
    | idle =>
      simp only [move]
      split_ifs
      · exact .keeps (some ⟨kind, failures, .connecting⟩) rfl rfl rfl rfl
          (by rintro q' buffer' ⟨⟩ ⟨⟩) (by rintro ⟨⟩)
      · exact hsame (by rintro ⟨⟩)
    | _ => exact hsame (by rintro ⟨⟩)
  | sent =>
    cases stage with
    | connecting => exact .takes rfl rfl rfl rfl rfl
    | _ => exact hsame (by rintro - ⟨⟩)
  | received bytes =>
    cases stage with
    | reading buffer =>
      refine .keeps (some ⟨kind, failures, .reading (buffer.fill
        (bytes.take buffer.bytes.length))⟩) rfl rfl rfl rfl ?_ (by rintro ⟨⟩)
      rintro q' buffer' ⟨⟩ ⟨⟩
      exact ⟨buffer, rfl, fun _ h => h.fill bytes⟩
    | _ => exact hsame (by rintro ⟨⟩)
  | finished result =>
    cases stage with
    | idle => cases result <;> exact hsame (by rintro ⟨⟩)
    | connecting =>
      cases result with
      | ok answer => exact hsame (by rintro ⟨⟩)
      | error e => exact handles_finish (by rintro ⟨⟩) _
    | reading buffer => cases result <;> exact handles_finish (by rintro ⟨⟩) _
  | dropped => exact handles_leave (by rintro ⟨⟩) i _ s

/-! ## What is kept of the buffers -/

/-- All buffers are of the configured size, no more than fit in the pool are there, and there are in all
no more than permits. -/
structure Stocked (s : Traffic sem service) : Prop where
  capacity : s.pool.capacity = service.config.bufferPoolSize
  room : s.pool.buffers.length ≤ s.pool.capacity
  pooled : ∀ b ∈ s.pool.buffers, b.Sized service.config.bufferSize
  used : ∀ b, s.InUse b → b.Sized service.config.bufferSize
  bounded : s.buffers ≤ service.permits .domainQuery + service.permits .discovery

theorem Ordered.reading_le (h : Ordered s) : census Query.isReading s.queries s.next ≤
    service.permits .domainQuery + service.permits .discovery := by
  refine Nat.le_trans (census_le_length (l := sem.holders (s.semaphores .domainQuery) ++
    sem.holders (s.semaphores .discovery)) (fun k hk => ?_) _) ?_
  · cases running : s.queries k with
    | none =>
      rw [running] at hk
      cases hk
    | some q =>
      rw [running, Option.any_some, Query.isReading_iff] at hk
      obtain ⟨buffer, hstage⟩ := hk
      have hholder := h.started k q running (.inl (by simp [hstage]))
      cases hgate : q.kind.gate with
      | domainQuery => exact List.mem_append_left _ (hgate ▸ hholder)
      | discovery => exact List.mem_append_right _ (hgate ▸ hholder)
  · rw [List.length_append]
    exact Nat.add_le_add (sem.length_holders_le _) (sem.length_holders_le _)

theorem Ordered.lt_next (h : Ordered s) (running : s.queries i = some q) : i < s.next := by
  by_contra hle
  rw [h.fresh i (Nat.le_of_not_lt hle)] at running
  cases running

theorem inUse_update {v : Option Query} (hqueries : s'.queries = Function.update s.queries i v)
    {buffer : Buffer} (h : s'.InUse buffer) :
    (∃ q', v = some q' ∧ q'.stage = .reading buffer) ∨ s.InUse buffer := by
  obtain ⟨j, q', running, hstage⟩ := h
  rw [hqueries] at running
  by_cases hj : j = i
  · subst hj
    rw [Function.update_self] at running
    exact .inl ⟨q', running, hstage⟩
  · rw [Function.update_of_ne hj] at running
    exact .inr ⟨j, q', running, hstage⟩

theorem reading_update (ho : Ordered s) (running : s.queries i = some q) {v : Option Query}
    (hqueries : s'.queries = Function.update s.queries i v) (hnext : s'.next = s.next) :
    census Query.isReading s'.queries s'.next + (if q.isReading then 1 else 0) =
      census Query.isReading s.queries s.next + if v.any Query.isReading then 1 else 0 := by
  have hcensus := census_update (p := Query.isReading) (f := s.queries) (ho.lt_next running) v
  rw [running, Option.any_some] at hcensus
  rw [hqueries, hnext]
  exact hcensus

/-- **What a move keeps of the buffers.** -/
theorem Handles.stocked (hhandles : Handles i q m s s') (h : Stocked s) (ho : Ordered s)
    (ho' : Ordered s') (running : s.queries i = some q) : Stocked s' := by
  have hbounded := h.bounded
  have hle := ho'.reading_le
  cases hhandles with
  | keeps v queries next pool reading sized still =>
    have hreads := reading_update ho running queries next
    refine ⟨by rw [pool]; exact h.capacity, by rw [pool]; exact h.room, by rw [pool]; exact h.pooled,
      fun buffer' huse => ?_, ?_⟩
    · rcases inUse_update queries huse with ⟨q', hv, hstage⟩ | huse
      · obtain ⟨buffer, hstage, hsized⟩ := sized q' buffer' hv hstage
        exact hsized _ (h.used buffer ⟨i, q, running, hstage⟩)
      · exact h.used buffer' huse
    · rw [reading] at hreads
      rw [buffers] at hbounded ⊢
      rw [pool]
      omega
  | takes sent stage queries next pool =>
    have hreads := reading_update ho running queries next
    have hnot : q.isReading = false := by rw [Query.isReading, stage]
    obtain ⟨htaken, -⟩ := PooledBuffer.take_sized h.pooled
    rw [PooledBuffer.buffers_take] at pool
    have hlength : s'.pool.buffers.length = s.pool.buffers.length - 1 := by
      rw [pool, List.length_tail]
    refine ⟨by rw [pool]; exact h.capacity, ?_, fun b hb => ?_, fun buffer' huse => ?_, ?_⟩
    · have hroom := h.room
      rw [hlength, pool]
      exact Nat.le_trans (Nat.sub_le _ _) hroom
    · rw [pool] at hb
      exact h.pooled b (List.mem_of_mem_tail hb)
    · rcases inUse_update queries huse with ⟨q', hv, hstage⟩ | huse
      · cases hv
        cases hstage
        exact htaken
      · exact h.used buffer' huse
    · rw [hnot] at hreads
      simp only [Option.any_some, Query.isReading, if_true, Bool.false_eq_true, if_false] at hreads
      rw [buffers] at hbounded ⊢
      omega
  | drops buffer stage v queries next reading pool =>
    have hreads := reading_update ho running queries next
    rw [reading, Query.isReading_of_stage stage] at hreads
    simp only [if_true, Bool.false_eq_true, if_false] at hreads
    have hsized : buffer.Sized service.config.bufferSize := h.used buffer ⟨i, q, running, stage⟩
    have hused : ∀ b, s'.InUse b → b.Sized service.config.bufferSize := by
      intro b huse
      rcases inUse_update queries huse with ⟨q', hv, hstage⟩ | huse
      · rw [hv, Option.any_some, Query.isReading_of_stage hstage] at reading
        cases reading
      · exact h.used b huse
    rw [PooledBuffer.drop_sized hsized] at pool
    rw [buffers] at hbounded
    split_ifs at pool with hroom
    · refine ⟨by rw [pool]; exact h.capacity, ?_, fun b hb => ?_, hused, ?_⟩
      · rw [pool, List.length_append, List.length_singleton]
        exact hroom
      · rw [pool] at hb
        rcases List.mem_append.mp hb with hb | hb
        · exact h.pooled b hb
        · obtain rfl := List.mem_singleton.mp hb
          exact hsized
      · rw [buffers, pool, List.length_append, List.length_singleton]
        omega
    · refine ⟨by rw [pool]; exact h.capacity, by rw [pool]; exact h.room,
        by rw [pool]; exact h.pooled, hused, ?_⟩
      rw [buffers, pool]
      omega

/-- **Where buffers come from and go to.** -/
theorem Handles.balance (hhandles : Handles i q m s s') (h : Stocked s) (ho : Ordered s)
    (running : s.queries i = some q) {out : Option (Except WhoisError Text)} :
    s'.buffers + (if discards ⟨s, .move i m, out, s'⟩ then 1 else 0) =
      s.buffers + if allocates ⟨s, .move i m, out, s'⟩ then 1 else 0 := by
  cases hhandles with
  | keeps v queries next pool reading sized still =>
    have hreads := reading_update ho running queries next
    have hdiscards : discards ⟨s, .move i m, out, s'⟩ = false := by
      simp [discards, running, queries, reading]
    have hallocates : allocates ⟨s, .move i m, out, s'⟩ = false := by
      cases m with
      | sent => simp [allocates, running, still rfl]
      | _ => rfl
    rw [hdiscards, hallocates, buffers, buffers, pool]
    rw [reading] at hreads
    omega
  | takes sent stage queries next pool =>
    have hreads := reading_update ho running queries next
    have hnot : q.isReading = false := by rw [Query.isReading, stage]
    have hdiscards : discards ⟨s, .move i m, out, s'⟩ = false := by
      simp [discards, running, hnot]
    have hallocates : allocates ⟨s, .move i m, out, s'⟩ = s.pool.buffers.isEmpty := by
      subst sent
      simp [allocates, running, stage, (PooledBuffer.take_sized h.pooled).2]
    rw [PooledBuffer.buffers_take] at pool
    rw [hnot] at hreads
    simp only [Option.any_some, Query.isReading, if_true, Bool.false_eq_true, if_false] at hreads
    rw [hdiscards, hallocates, buffers, buffers, pool]
    cases hpool : s.pool.buffers with
    | nil =>
      simp only [List.tail_nil, List.isEmpty_nil, List.length_nil, if_true, Bool.false_eq_true, if_false]
      omega
    | cons b rest =>
      simp only [List.tail_cons, List.isEmpty_cons, List.length_cons, Bool.false_eq_true, if_false]
      omega
  | drops buffer stage v queries next reading pool =>
    have hreads := reading_update ho running queries next
    rw [reading, Query.isReading_of_stage stage] at hreads
    simp only [if_true, Bool.false_eq_true, if_false] at hreads
    have hsized : buffer.Sized service.config.bufferSize := h.used buffer ⟨i, q, running, stage⟩
    have hdiscards : discards ⟨s, .move i m, out, s'⟩ =
        decide (s.pool.capacity ≤ s.pool.buffers.length) := by
      simp [discards, running, queries, reading, Query.isReading_of_stage stage]
    have hallocates : allocates ⟨s, .move i m, out, s'⟩ = false := by
      cases m with
      | sent => simp [allocates, running, stage]
      | _ => rfl
    rw [hdiscards, hallocates, buffers, buffers, pool, PooledBuffer.drop_sized hsized]
    by_cases hroom : s.pool.buffers.length < s.pool.capacity
    · simp only [if_pos hroom, Nat.not_le.mpr hroom, decide_false, List.length_append,
        List.length_singleton, Bool.false_eq_true, if_false]
      omega
    · simp only [if_neg hroom, Nat.not_lt.mp hroom, decide_true, if_true, Bool.false_eq_true, if_false]
      omega

theorem stocked_start (h : Stocked s) (kind : QueryKind) :
    Stocked (s.start kind) ∧ (s.start kind).buffers = s.buffers := by
  have hbuffers : (s.start kind).buffers = s.buffers := by
    show s.pool.buffers.length + census Query.isReading
      (Function.update s.queries s.next (some ⟨kind, 0, .idle⟩)) (s.next + 1) = _
    rw [census_succ, Function.update_self, buffers]
    exact congrArg (s.pool.buffers.length + ·)
      (census_congr fun k hk => by rw [Function.update_of_ne (by omega)])
  refine ⟨⟨h.capacity, h.room, h.pooled, fun b huse => ?_, hbuffers ▸ h.bounded⟩, hbuffers⟩
  rcases inUse_update (s := s) (i := s.next) rfl huse with ⟨q', hv, hstage⟩ | huse
  · cases hv
    cases hstage
  · exact h.used b huse

/-- **A step of the buffers.** -/
theorem Stocked.step (h : Stocked s) (ho : Ordered s) (action : TrafficAction) :
    let x := (trafficMachine sem service).step s action
    Stocked x.post ∧ x.post.buffers + (if discards x then 1 else 0) =
      s.buffers + if allocates x then 1 else 0 := by
  cases action with
  | start kind => exact ⟨(stocked_start h kind).1, (stocked_start h kind).2⟩
  | move i m =>
    show Stocked (s.act (.move i m)).2 ∧ (s.act (.move i m)).2.buffers + (if discards
      (⟨s, .move i m, (s.act (.move i m)).1, (s.act (.move i m)).2⟩ : TrafficStep sem service)
        then 1 else 0) = _ + if allocates
      (⟨s, .move i m, (s.act (.move i m)).1, (s.act (.move i m)).2⟩ : TrafficStep sem service)
        then 1 else 0
    have ho' := ho.act (.move i m)
    rw [Traffic.act] at ho' ⊢
    cases running : s.queries i with
    | none =>
      rw [running] at ho'
      refine ⟨h, ?_⟩
      have hallocates : allocates (⟨s, .move i m, none, s⟩ : TrafficStep sem service) = false := by
        cases m with
        | sent => simp [allocates, running]
        | _ => rfl
      have hdiscards : discards (⟨s, .move i m, none, s⟩ : TrafficStep sem service) = false := by
        simp [discards, running]
      rw [hallocates, hdiscards]
    | some q =>
      rw [running] at ho'
      have hhandles := handles_move running m
      exact ⟨hhandles.stocked h ho ho' running, hhandles.balance h ho running⟩

/-- A buffer is dropped only if there are more buffers than fit in the pool. -/
theorem lt_of_discards (ho : Ordered s) {action : TrafficAction}
    (h : discards ((trafficMachine sem service).step s action)) : s.pool.capacity < s.buffers := by
  cases action with
  | start kind => cases h
  | move i m =>
    simp only [discards, Machine.step_event, Machine.step_pre, Bool.and_eq_true] at h
    obtain ⟨⟨hreading, -⟩, hfull⟩ := h
    replace hfull : s.pool.capacity ≤ s.pool.buffers.length := of_decide_eq_true hfull
    cases running : s.queries i with
    | none =>
      rw [running] at hreading
      cases hreading
    | some q =>
      have hcensus := census_update (p := Query.isReading) (f := s.queries) (ho.lt_next running) none
      rw [if_pos hreading] at hcensus
      simp only [Option.any_none, Bool.false_eq_true, if_false] at hcensus
      rw [buffers]
      omega

theorem stocked_new {config : Config} (hbuilt : service.Built config) :
    Stocked (new sem service) := by
  have hpool : (new sem service).pool = ⟨[], config.bufferPoolSize⟩ := hbuilt.pool
  refine ⟨?_, ?_, ?_, ?_, ?_⟩
  · rw [hpool, hbuilt.config_eq]
  · rw [hpool]
    exact Nat.zero_le _
  · rw [hpool]
    rintro b hb
    cases hb
  · rintro b ⟨i, q, running, -⟩
    cases running
  · rw [buffers, hpool]
    exact Nat.zero_le _

/-- What a run keeps of the buffers. -/
structure Supplied (past : List (TrafficStep sem service)) (s : Traffic sem service) : Prop where
  ordered : Ordered s
  stocked : Stocked s
  balance : past.countP allocates = s.buffers + past.countP discards
  kept : service.permits .domainQuery + service.permits .discovery ≤ service.config.bufferPoolSize →
    past.countP discards = 0

theorem supplied_run {config : Config} (hbuilt : service.Built config) (es : List TrafficAction) :
    Supplied ((trafficMachine sem service).run (new sem service) es)
      ((trafficMachine sem service).final (new sem service) es) := by
  refine Machine.history_of_step (fun past s e h => ?_)
    ⟨ordered_new, stocked_new hbuilt, ?_, fun _ => rfl⟩ es
  · obtain ⟨hstocked, hbalance⟩ := h.stocked.step h.ordered e
    refine ⟨h.ordered.act e, hstocked, ?_, fun hfits => ?_⟩
    · have hpast := h.balance
      rw [List.countP_append, List.countP_append, List.countP_singleton, List.countP_singleton]
      show _ = ((trafficMachine sem service).step s e).post.buffers + _
      omega
    · rw [List.countP_append, h.kept hfits, List.countP_singleton, Nat.zero_add]
      refine if_neg fun hdiscards => ?_
      have hlt := lt_of_discards h.ordered hdiscards
      have hbounded := h.stocked.bounded
      have hcapacity := h.stocked.capacity
      omega
  · show 0 = (service.bufferPool.buffers.length + 0) + 0
    rw [hbuilt.pool]
    rfl

end Traffic

/-- **The buffers are bounded.** However queries are made, move and are dropped: the pool is never
overfilled; the buffers in the pool and in use are at most as many as there are permits, and all of the
configured size; every buffer that was allocated is there or was dropped at a full pool; and if the pool
has room for as many buffers as there are permits, none is ever dropped, so that all reads of all times
share them. -/
theorem buffers_of_run (sem : FairSemaphore Nat) {bits : Nat} {config : Config}
    {service : WhoisService bits} (hnew : WhoisService.new bits config = .ok service)
    (es : List TrafficAction) :
    let xs := (trafficMachine sem service).run (.new sem service) es
    let s := (trafficMachine sem service).final (.new sem service) es
    s.pool.buffers.length ≤ config.bufferPoolSize ∧ s.buffers ≤ 3 * config.concurrentWhoisQueries ∧
      (∀ b, b ∈ s.pool.buffers ∨ s.InUse b → b.bytes.length = config.bufferSize) ∧
      xs.countP Traffic.allocates = s.buffers + xs.countP Traffic.discards ∧
      (3 * config.concurrentWhoisQueries ≤ config.bufferPoolSize → xs.countP Traffic.discards = 0) := by
  intro xs s
  have hbuilt := service.built_of_new hnew
  have h : Traffic.Supplied xs s := Traffic.supplied_run hbuilt es
  have hpermits : service.permits .domainQuery + service.permits .discovery =
      3 * config.concurrentWhoisQueries := by
    rw [hbuilt.permits, hbuilt.permits, Gate.share, Gate.share]
    omega
  have hroom := h.stocked.room
  have hkept := h.kept
  rw [h.stocked.capacity, hbuilt.config_eq] at hroom
  rw [hpermits, hbuilt.config_eq] at hkept
  refine ⟨hroom, hpermits ▸ h.stocked.bounded, fun b hb => ?_, h.balance, hkept⟩
  rw [← hbuilt.config_eq]
  rcases hb with hb | hb
  · exact (h.stocked.pooled b hb).length
  · exact (h.stocked.used b hb).length

/-- Three reads, one after the other, with one buffer. -/
theorem buffers_of_run_reused :
    let es : List TrafficAction := (List.range 3).flatMap fun i =>
      [.start .raw, .move i .connect, .move i .sent, .move i (.received [1]),
        .move i (.finished (.ok []))]
    ((trafficMachine Permits.fair narrow).run (.new _ narrow) es).countP Traffic.allocates = 1 := by
  intro es
  have h := buffers_of_run Permits.fair narrow_new es
  rw [h.2.2.2.1, h.2.2.2.2 (by decide)]
  decide

end RustWhois
