set_option autoImplicit false

namespace OutcomeRelay.Text

def isDigitChar (c : Char) : Bool := '0' ≤ c && c ≤ '9'

def digitValue (c : Char) : Nat := c.toNat - '0'.toNat

def digitsValue (cs : List Char) : Nat := cs.foldl (fun n c => 10 * n + digitValue c) 0

/-- The number that a list of digits writes, or the cap if that is smaller. -/
def cappedValue (cap : Nat) (cs : List Char) : Nat :=
  cs.foldl (fun n c => min cap (10 * n + digitValue c)) 0

theorem cappedValue_eq_min (cap : Nat) (cs : List Char) :
    cappedValue cap cs = min cap (digitsValue cs) := by
  suffices h : ∀ m n, m = min cap n →
      cs.foldl (fun n c => min cap (10 * n + digitValue c)) m =
        min cap (cs.foldl (fun n c => 10 * n + digitValue c) n) from h 0 0 (by simp)
  induction cs with
  | nil => exact fun m n h => h
  | cons c cs ih =>
    intro m n h
    apply ih
    show min cap (10 * m + digitValue c) = min cap (10 * n + digitValue c)
    omega

def unsigned : List Char → List Char
  | '+' :: cs => cs
  | cs => cs

/-- A numeral is an optional plus sign and at least one ASCII digit. -/
def readNumeral? (bound : Nat) (s : String) : Option Nat :=
  let digits := unsigned s.toList
  if !digits.isEmpty && digits.all isDigitChar && cappedValue bound digits < bound then
    some (cappedValue bound digits)
  else none

end OutcomeRelay.Text
