import Mathlib.Algebra.Group.Nat.Defs
import OutcomeRelay.Time.Backoff

set_option autoImplicit false

namespace OutcomeRelay.Backoff

variable (p : Backoff)

theorem toNanos_delayFor (attempt : UInt32) : (p.delayFor attempt).toNanos =
    min (p.base.toNanos * 2 ^ doublings attempt) p.cap.toNanos := by
  rw [delayFor, Span.toNanos_shorter]
  cases product : p.base.times? (Nat.pow 2 (doublings attempt)) with
  | some t =>
    rw [Option.getD_some, Span.times?_eq_some product]
    rfl
  | none =>
    -- The cap is taken for the product here, which is right: a product that no span can hold is
    -- longer than every cap.
    have tooLong := Span.times?_eq_none product
    have cap := p.cap.toNanos_lt
    rw [Option.getD_none, Nat.min_self]
    exact (Nat.min_eq_right (Nat.le_of_lt (Nat.lt_of_lt_of_le cap tooLong))).symm

theorem doublings_eq (attempt : UInt32) :
    doublings attempt = if attempt.toNat ≤ 32 then attempt.toNat - 1 else 31 := by
  unfold doublings
  split <;> omega

theorem doublings_mono {earlier later : UInt32} (h : earlier ≤ later) :
    doublings earlier ≤ doublings later := by
  have counted := UInt32.le_iff_toNat_le.mp h
  unfold doublings
  omega

theorem factor_le (attempt : UInt32) : 2 ^ doublings attempt ≤ 2 ^ 31 :=
  Nat.pow_le_pow_right (by decide) (Nat.min_le_right _ _)

structure Doubles : Prop where
  exact : ∀ attempt : UInt32, (p.delayFor attempt).toNanos =
    min (p.base.toNanos * 2 ^ if attempt.toNat ≤ 32 then attempt.toNat - 1 else 31) p.cap.toNanos
  /-- The factor fits a word of 32 bits, and the nanoseconds times the factor one of 64 bits. -/
  fits : ∀ attempt : UInt32, 2 ^ doublings attempt < UInt32.size ∧
    p.base.nanos * 2 ^ doublings attempt < UInt64.size
  capped : ∀ attempt, (p.delayFor attempt).toNanos ≤ p.cap.toNanos
  least : ∀ attempt, min p.base.toNanos p.cap.toNanos ≤ (p.delayFor attempt).toNanos
  attempts : ∀ earlier later : UInt32, earlier ≤ later →
    (p.delayFor earlier).toNanos ≤ (p.delayFor later).toNanos
  bases : ∀ (attempt : UInt32) (longer : Span), p.base.toNanos ≤ longer.toNanos →
    (p.delayFor attempt).toNanos ≤ ({ p with base := longer }.delayFor attempt).toNanos
  caps : ∀ (attempt : UInt32) (longer : Span), p.cap.toNanos ≤ longer.toNanos →
    (p.delayFor attempt).toNanos ≤ ({ p with cap := longer }.delayFor attempt).toNanos

/-- Whatever the base and the cap are, and whatever number the attempt has, the pause is exact, and
so it is never above the cap, never below both base and cap, and never gets shorter when the
attempt, the base or the cap gets larger. -/
theorem delayFor_doubles : p.Doubles where
  exact attempt := by rw [toNanos_delayFor, doublings_eq]
  fits attempt := by
    have factor := factor_le attempt
    have product := Nat.mul_le_mul (Nat.le_of_lt p.base.nanos_lt) factor
    refine ⟨?_, ?_⟩
    · exact Nat.lt_of_le_of_lt factor (by decide)
    · exact Nat.lt_of_le_of_lt product (by decide)
  capped attempt := by
    rw [toNanos_delayFor]
    exact Nat.min_le_right _ _
  least attempt := by
    have grown := Nat.le_mul_of_pos_right p.base.toNanos (Nat.two_pow_pos (doublings attempt))
    rw [toNanos_delayFor]
    omega
  attempts earlier later h := by
    have factor := Nat.pow_le_pow_right (show 0 < 2 by decide) (doublings_mono h)
    have product := Nat.mul_le_mul_left p.base.toNanos factor
    rw [toNanos_delayFor, toNanos_delayFor]
    omega
  bases attempt longer h := by
    have product := Nat.mul_le_mul_right (2 ^ doublings attempt) h
    rw [toNanos_delayFor, toNanos_delayFor]
    dsimp only
    omega
  caps attempt longer h := by
    rw [toNanos_delayFor, toNanos_delayFor]
    dsimp only
    omega

end OutcomeRelay.Backoff
