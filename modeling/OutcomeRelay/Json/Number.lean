import OutcomeRelay.Json.Value
import OutcomeRelay.Text.Numeral

set_option autoImplicit false

/-!
# JSON numbers

A number has to lie in the range of double precision. It is read as its leading digits, as many as
fit a word of 64 bits, times a power of ten; both factors and the product are rounded to 53 bits,
and what then reaches `2 ^ 1024` is out of range.
-/

namespace OutcomeRelay.Json

open OutcomeRelay.Text (isDigitChar digitValue cappedValue)

def signBit : Nat := UInt64.size / 2

/-- The nearest number of 53 bits; of two equally near ones the even one. -/
def roundTo53 (n : Nat) : Nat :=
  let unit := Nat.pow 2 (n.log2 - 52)
  let low := n / unit
  let twice := 2 * (n % unit)
  if twice < unit || (twice = unit && low % 2 = 0) then low * unit else (low + 1) * unit

/-- The leading digits as a number that fits a word of 64 bits, and how many digits follow them. -/
def leadingDigits (significand : Nat) : List Char → Nat × Nat
  | [] => (significand, 0)
  | c :: rest =>
    if significand * 10 + digitValue c < UInt64.size then
      leadingDigits (significand * 10 + digitValue c) rest
    else (significand, rest.length + 1)

def inRange (significand : Nat) (exponent : Int) : Bool :=
  significand = 0 || exponent < 0 ||
    (exponent ≤ 308 &&
      roundTo53 (roundTo53 significand * roundTo53 (Nat.pow 10 exponent.toNat)) < Nat.pow 2 1024)

/-- The digits of a number: before the point, after it, and of the exponent with its sign. -/
structure Digits where
  negative : Bool
  whole : List Char
  fraction : List Char
  exponent : Option (Bool × List Char)

namespace Digits

/-- Digits after the point that no longer fit the significand are left out. -/
def significand (d : Digits) : Nat × Int :=
  match leadingDigits 0 d.whole with
  | (whole, dropped) =>
    match leadingDigits whole d.fraction with
    | (all, unread) => (all, (dropped : Int) - ((d.fraction.length : Int) - unread))

/-- An exponent that does not fit a signed word of 32 bits decides the question alone. -/
def fits (d : Digits) : Bool :=
  match d.significand, d.exponent with
  | (significand, exponent), none => inRange significand exponent
  | (significand, exponent), some (negative, digits) =>
    let bound := UInt32.size / 2
    let shift := cappedValue bound digits
    if shift < bound then
      inRange significand (if negative then exponent - shift else exponent + shift)
    else significand = 0 || negative

/-- The integer of 64 bits that the digits write; minus zero is none. -/
def integer? (d : Digits) : Option Int :=
  match d.fraction, d.exponent with
  | [], none =>
    let n := cappedValue UInt64.size d.whole
    if d.negative then
      if n = 0 || signBit < n then none else some (-(n : Int))
    else if n < UInt64.size then some n else none
  | _, _ => none

end Digits

def readSomeDigits? (cs : List Char) : Option (List Char × List Char) :=
  match cs.takeWhile isDigitChar with
  | [] => none
  | digits => some (digits, cs.dropWhile isDigitChar)

def readWhole? (cs : List Char) : Option (List Char × List Char) :=
  match readSomeDigits? cs with
  | some ('0' :: _ :: _, _) => none
  | read => read

def readFraction? : List Char → Option (List Char × List Char)
  | '.' :: rest => readSomeDigits? rest
  | cs => some ([], cs)

def readSignedDigits? : List Char → Option ((Bool × List Char) × List Char)
  | '-' :: rest => (readSomeDigits? rest).map fun (digits, rest) => ((true, digits), rest)
  | '+' :: rest => (readSomeDigits? rest).map fun (digits, rest) => ((false, digits), rest)
  | cs => (readSomeDigits? cs).map fun (digits, rest) => ((false, digits), rest)

def readExponent? : List Char → Option (Option (Bool × List Char) × List Char)
  | 'e' :: rest => (readSignedDigits? rest).map fun (exponent, rest) => (some exponent, rest)
  | 'E' :: rest => (readSignedDigits? rest).map fun (exponent, rest) => (some exponent, rest)
  | cs => some (none, cs)

def readDigits? (negative : Bool) (cs : List Char) : Option (Digits × List Char) := do
  let (whole, cs) ← readWhole? cs
  let (fraction, cs) ← readFraction? cs
  let (exponent, cs) ← readExponent? cs
  return (⟨negative, whole, fraction, exponent⟩, cs)

def Digits.value? (d : Digits) : Option Json :=
  match d.integer? with
  | some n => some (.integer n)
  | none => if d.fits then some .real else none

def readNumber? (cs : List Char) : Option (Json × List Char) :=
  let read := match cs with
    | '-' :: rest => readDigits? true rest
    | cs => readDigits? false cs
  match read with
  | none => none
  | some (digits, rest) => digits.value?.map fun value => (value, rest)

end OutcomeRelay.Json
