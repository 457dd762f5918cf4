import Mathlib.Data.List.Basic

/-!
# Fair semaphores

Callers that acquire one permit each: permits are given out in the order of the calls, and a caller
that is dropped gives back its permit or leaves the queue.

* `FairSemaphore`: what is assumed of `tokio::sync::Semaphore`;
* `FairSemaphore.callers`: those with a permit, then those who wait;
* **`FairSemaphore.waiting`**: nobody waits while there is a permit;
* **`FairSemaphore.mem_holders_drop`**: nobody loses a permit to another caller;
* `Permits`, **`Permits.fair`**: a semaphore that counts its permits is one.
-/

namespace Rust

/-- Semaphores for callers that acquire one permit each. -/
structure FairSemaphore (ι : Type) [DecidableEq ι] where
  /-- A semaphore of so many permits. -/
  State : Nat → Type
  new : ∀ n, State n
  /-- A caller acquires a permit, or waits for one. -/
  acquire : ∀ {n}, State n → ι → State n
  /-- A call, or its permit, is dropped. -/
  drop : ∀ {n}, State n → ι → State n
  /-- The callers that have a permit. -/
  holders : ∀ {n}, State n → List ι
  /-- The callers that wait. -/
  queue : ∀ {n}, State n → List ι
  starts_empty : ∀ n, holders (new n) ++ queue (new n) = []
  /-- A caller comes behind all others. -/
  comes_last : ∀ {n} (s : State n) i,
    holders (acquire s i) ++ queue (acquire s i) = holders s ++ queue s ++ [i]
  /-- A caller that is dropped leaves the others in their order. -/
  keeps_order : ∀ {n} (s : State n) i,
    holders (drop s i) ++ queue (drop s i) = (holders s ++ queue s).erase i
  /-- The first callers have the permits. -/
  serves_first : ∀ {n} (s : State n), holders s = (holders s ++ queue s).take n

namespace FairSemaphore

variable {ι : Type} [DecidableEq ι] (self : FairSemaphore ι) {n : Nat} {s : self.State n} {i j : ι}

/-- Those with a permit, then those who wait. -/
def callers (s : self.State n) : List ι := self.holders s ++ self.queue s

theorem callers_new (n : Nat) : self.callers (self.new n) = [] := self.starts_empty n

theorem callers_acquire (s : self.State n) (i : ι) :
    self.callers (self.acquire s i) = self.callers s ++ [i] := self.comes_last s i

theorem callers_drop (s : self.State n) (i : ι) :
    self.callers (self.drop s i) = (self.callers s).erase i := self.keeps_order s i

theorem holders_eq (s : self.State n) : self.holders s = (self.callers s).take n :=
  self.serves_first s

theorem length_holders_le (s : self.State n) : (self.holders s).length ≤ n := by
  rw [self.holders_eq]
  exact List.length_take_le _ _

/-- **Nobody waits while there is a permit.** -/
theorem waiting (hi : i ∈ self.queue s) : (self.holders s).length = n := by
  have hlength := congrArg List.length (self.holders_eq s)
  have hpos := List.length_pos_of_mem hi
  rw [List.length_take, callers, List.length_append] at hlength
  omega

theorem mem_holders_acquire (h : i ∈ self.holders s) (j : ι) :
    i ∈ self.holders (self.acquire s j) := by
  rw [self.holders_eq] at h
  rw [self.holders_eq, self.callers_acquire, List.take_append]
  exact List.mem_append_left _ h

theorem mem_take_erase {l : List ι} (h : i ∈ l.take n) (hne : i ≠ j) : i ∈ (l.erase j).take n := by
  induction l generalizing n with
  | nil => simp at h
  | cons k l ih =>
    cases n with
    | zero => simp at h
    | succ n =>
      rw [List.take_succ_cons, List.mem_cons] at h
      rw [List.erase_cons]
      split_ifs with hkj
      · obtain rfl : k = j := by simpa using hkj
        exact List.take_subset_take_left l (Nat.le_succ n) (h.resolve_left hne)
      · rw [List.take_succ_cons, List.mem_cons]
        exact h.imp_right ih

/-- **Nobody loses a permit to another caller.** -/
theorem mem_holders_drop (h : i ∈ self.holders s) (hne : i ≠ j) :
    i ∈ self.holders (self.drop s j) := by
  rw [self.holders_eq] at h
  rw [self.holders_eq, self.callers_drop]
  exact mem_take_erase h hne

end FairSemaphore

/-! ## A semaphore that counts -/

/-- The free permits of `n`, the callers that have one, and those that wait. -/
structure Permits (ι : Type) (n : Nat) where
  available : Nat
  holders : List ι
  queue : List ι
  conserved : available + holders.length = n
  busy : queue ≠ [] → available = 0

namespace Permits

variable {ι : Type} {n : Nat}

/-- `Semaphore::new`. -/
def new (n : Nat) : Permits ι n where
  available := n
  holders := []
  queue := []
  conserved := rfl
  busy h := absurd rfl h

/-- `acquire`: a permit, or a place at the end of the queue. -/
def acquire (self : Permits ι n) (i : ι) : Permits ι n :=
  if h : self.available = 0 then
    { self with
      queue := self.queue ++ [i]
      busy := fun _ => h }
  else
    { self with
      available := self.available - 1
      holders := self.holders ++ [i]
      conserved := by
        have hconserved := self.conserved
        rw [List.length_append, List.length_singleton]
        omega
      busy := fun hqueue => absurd (self.busy hqueue) h }

/-- A permit that is given back goes to the first of the queue. -/
def giveBack (queue holders : List ι) (available : Nat)
    (conserved : available + holders.length + 1 = n) (busy : queue ≠ [] → available = 0) :
    Permits ι n :=
  match queue, busy with
  | [], _ => ⟨available + 1, holders, [], by omega, fun h => absurd rfl h⟩
  | j :: queue, busy =>
    ⟨available, holders ++ [j], queue, by simpa [Nat.add_assoc] using conserved,
      fun _ => busy (List.cons_ne_nil j queue)⟩

variable [DecidableEq ι]

/-- A call, or its permit, is dropped. -/
def drop (self : Permits ι n) (i : ι) : Permits ι n :=
  if h : i ∈ self.holders then
    giveBack self.queue (self.holders.erase i) self.available
      (by
        have hconserved := self.conserved
        have hlength := List.length_erase_of_mem h
        have hpos := List.length_pos_of_mem h
        omega)
      self.busy
  else
    { self with
      queue := self.queue.erase i
      busy := fun hqueue => self.busy fun hnil => hqueue (by rw [hnil]; rfl) }

/-! ## The callers in their order -/

omit [DecidableEq ι] in
/-- Those with a permit, then those who wait. -/
def callers (self : Permits ι n) : List ι := self.holders ++ self.queue

omit [DecidableEq ι] in
theorem length_holders_le (self : Permits ι n) : self.holders.length ≤ n := by
  have hconserved := self.conserved
  omega

omit [DecidableEq ι] in
/-- **The first callers have the permits.** -/
theorem holders_eq (self : Permits ι n) : self.holders = self.callers.take n := by
  rw [callers]
  by_cases hqueue : self.queue = []
  · rw [hqueue, List.append_nil, List.take_of_length_le self.length_holders_le]
  · have hlength : self.holders.length = n := by
      have hconserved := self.conserved
      have hbusy := self.busy hqueue
      omega
    rw [List.take_append_of_le_length (Nat.le_of_eq hlength.symm),
      List.take_of_length_le (Nat.le_of_eq hlength)]

omit [DecidableEq ι] in
/-- **A call comes last.** -/
theorem callers_acquire (self : Permits ι n) (i : ι) :
    (self.acquire i).callers = self.callers ++ [i] := by
  rw [acquire]
  split_ifs with h
  · exact (List.append_assoc _ _ _).symm
  · have hqueue : self.queue = [] := by
      by_contra hne
      exact h (self.busy hne)
    show self.holders ++ [i] ++ self.queue = self.holders ++ self.queue ++ [i]
    rw [hqueue, List.append_nil, List.append_nil]

omit [DecidableEq ι] in
theorem callers_giveBack {queue holders : List ι} {available : Nat}
    (conserved : available + holders.length + 1 = n) (busy : queue ≠ [] → available = 0) :
    (giveBack queue holders available conserved busy).callers = holders ++ queue := by
  cases queue with
  | nil => rfl
  | cons j queue => exact List.append_assoc holders [j] queue

/-- **A caller that is dropped leaves the others in their order.** -/
theorem callers_drop (self : Permits ι n) (i : ι) :
    (self.drop i).callers = self.callers.erase i := by
  rw [drop]
  split_ifs with h
  · rw [callers_giveBack, callers, List.erase_append_left _ h]
  · rw [callers, callers, List.erase_append_right _ h]

/-- **A semaphore that counts its permits is fair.** -/
def fair : FairSemaphore ι where
  State := Permits ι
  new := new
  acquire := acquire
  drop := drop
  holders := holders
  queue := queue
  starts_empty _ := rfl
  comes_last := callers_acquire
  keeps_order := callers_drop
  serves_first := holders_eq

end Permits

end Rust
