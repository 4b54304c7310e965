import OutcomeRelay.Time.Span

set_option autoImplicit false

namespace OutcomeRelay

/-- How often a failed operation may be repeated, and how long to pause before each repetition. The
pause doubles from `base` and is never above `cap`. -/
structure Backoff where
  base : Span
  cap : Span
  retries : UInt32
deriving DecidableEq

namespace Backoff

/-- The policy of a service that configures none. -/
def standard : Backoff := ⟨.ofMillis 100, .ofSecs 5, 5⟩

def immediate (retries : UInt32) : Backoff := ⟨.zero, .zero, retries⟩

def doublings (attempt : UInt32) : Nat := min (attempt.toNat - 1) 31

/-- The pause before repetition number `attempt`, counted from one. A product too long for a span is
above every cap. -/
def delayFor (p : Backoff) (attempt : UInt32) : Span :=
  ((p.base.times? (Nat.pow 2 (doublings attempt))).getD p.cap).shorter p.cap

def canRetry (p : Backoff) (attempt : UInt32) : Bool := attempt ≤ p.retries

example : standard.delayFor 3 = .ofMillis 400 := by decide +kernel
example : standard.delayFor 40 = .ofSecs 5 := by decide +kernel

end Backoff

end OutcomeRelay
