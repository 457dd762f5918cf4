import Mathlib.Algebra.Order.Ring.Nat

/-!
# Arithmetic faults

What arithmetic on machine integers and `tokio`'s semaphores can fail with. A fault is a panic, except
that an overflow wraps around where overflow checks are off.

* `mul`: a product in a type of so many bits;
* `Semaphore`: a semaphore with a number of permits that `tokio` accepts;
* `mul_of_lt`, `Semaphore.new_of_le`: when there is no fault.
-/

namespace Rust

inductive Fault
  | overflow
  | tooManyPermits
  deriving DecidableEq

/-- `a * b` in an unsigned type. -/
def mul (bits a b : Nat) : Except Fault Nat :=
  if a * b < 2 ^ bits then .ok (a * b) else .error .overflow

theorem mul_of_lt {bits a b : Nat} (h : a * b < 2 ^ bits) : mul bits a b = .ok (a * b) := if_pos h

theorem mul_of_le {bits a b : Nat} (h : 2 ^ bits ≤ a * b) : mul bits a b = .error .overflow :=
  if_neg (Nat.not_lt.mpr h)

/-- `Semaphore::MAX_PERMITS`, `usize::MAX >> 3`, for a `usize` of so many bits. -/
def maxPermits (bits : Nat) : Nat := (2 ^ bits - 1) >>> 3

theorem lt_of_le_maxPermits {bits n : Nat} (h : n ≤ maxPermits bits) : n < 2 ^ bits := by
  have hpos : 0 < 2 ^ bits := Nat.two_pow_pos bits
  have hle : maxPermits bits ≤ 2 ^ bits - 1 := by
    rw [maxPermits, Nat.shiftRight_eq_div_pow]
    exact Nat.div_le_self _ _
  omega

/-- `tokio::sync::Semaphore`. -/
structure Semaphore (bits : Nat) where
  permits : Nat
  le_max : permits ≤ maxPermits bits

namespace Semaphore

/-- `Semaphore::new`. -/
def new (bits permits : Nat) : Except Fault (Semaphore bits) :=
  if h : permits ≤ maxPermits bits then .ok ⟨permits, h⟩ else .error .tooManyPermits

theorem new_of_le {bits permits : Nat} (h : permits ≤ maxPermits bits) :
    new bits permits = .ok ⟨permits, h⟩ := dif_pos h

theorem new_of_lt {bits permits : Nat} (h : maxPermits bits < permits) :
    new bits permits = .error .tooManyPermits := dif_neg (Nat.not_le.mpr h)

end Semaphore

end Rust
