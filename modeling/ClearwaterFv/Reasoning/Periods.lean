import Mathlib.Algebra.Order.Ring.Nat
import Mathlib.Order.Bounds.Basic

/-!
# Periods — the periods of a clock

A clock that counts from an epoch divides its time into periods of one length.  The next boundary
after a moment is the least multiple of the length that is strictly later, also for a moment that
is itself on a boundary.
-/

namespace Reasoning.Periods

/-- The start of the period that follows the one of `now`. -/
def nextBoundary (length now : Nat) : Nat := now + (length - now % length)

variable {length now : Nat}

theorem nextBoundary_eq (hlength : 0 < length) :
    nextBoundary length now = length * (now / length + 1) := by
  have hdiv := Nat.div_add_mod now length
  have hmod := Nat.mod_lt now hlength
  unfold nextBoundary
  rw [Nat.mul_add, Nat.mul_one]
  omega

theorem lt_nextBoundary (hlength : 0 < length) : now < nextBoundary length now := by
  have hmod := Nat.mod_lt now hlength
  unfold nextBoundary
  omega

theorem nextBoundary_le : nextBoundary length now ≤ now + length := by
  unfold nextBoundary
  omega

theorem nextBoundary_isLeast (hlength : 0 < length) :
    IsLeast {b | length ∣ b ∧ now < b} (nextBoundary length now) := by
  constructor
  · refine ⟨?_, lt_nextBoundary hlength⟩
    rw [nextBoundary_eq hlength]
    exact Nat.dvd_mul_right ..
  · rintro b ⟨⟨k, rfl⟩, hlt⟩
    rw [nextBoundary_eq hlength]
    apply Nat.mul_le_mul_left
    exact (Nat.div_lt_iff_lt_mul hlength).mpr (by rw [Nat.mul_comm]; exact hlt)

end Reasoning.Periods
