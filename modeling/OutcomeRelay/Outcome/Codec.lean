import OutcomeRelay.Json.Reader
import OutcomeRelay.Outcome.Envelope

set_option autoImplicit false

namespace OutcomeRelay

namespace Json

/-- The value of the member with the given name, which has to occur exactly once. -/
def single? (members : List (String × Json)) (name : String) : Option Json :=
  match members.filter fun member => member.1 = name with
  | [member] => some member.2
  | _ => none

def string? : Json → Option String
  | .string s => some s
  | _ => none

def int64? : Json → Option Int
  | .integer n => if -(signBit : Int) ≤ n ∧ n < signBit then some n else none
  | _ => none

/-- The string that is the only value of the given name. -/
def singleString? (members : List (String × Json)) (name : String) : Option String :=
  (single? members name).bind string?

end Json

namespace StepOutcome

inductive Tag where
  | succeeded
  | failed
deriving DecidableEq

namespace Tag

def name : Tag → String
  | succeeded => "succeeded"
  | failed => "failed"

def read? : Json → Option Tag
  | .string s => if s = name .succeeded then some .succeeded
    else if s = name .failed then some .failed else none
  | .integer n => if n = 0 then some .succeeded else if n = 1 then some .failed else none
  | _ => none

end Tag

/-- Reads the members that give the outcome; only a failure looks at its reason. -/
def ofMembers? (members : List (String × Json)) : Option StepOutcome :=
  match (Json.single? members "status").bind Tag.read? with
  | none => none
  | some .succeeded => some succeeded
  | some .failed => (Json.singleString? members "reason").map failed

end StepOutcome

namespace Envelope

def field (name : String) (value : List Char) : List Char := Json.quote name ++ ':' :: value

def outcomeFields : StepOutcome → List (List Char)
  | .succeeded => [field "status" (Json.quote "succeeded")]
  | .failed reason => [field "status" (Json.quote "failed"), field "reason" (Json.quote reason)]

def integerText (n : Int) : List Char :=
  match n with
  | .ofNat n => Nat.toDigits 10 n
  | .negSucc n => '-' :: Nat.toDigits 10 (n + 1)

def fields (e : Envelope) : List (List Char) :=
  [field "event_id" (Json.quote e.eventId), field "saga_id" (Json.quote e.sagaId),
   field "step" (Json.quote e.step)] ++ outcomeFields e.outcome ++
  [field "occurred_at" (integerText e.occurredAt)]

def encodeChars (e : Envelope) : List Char :=
  '\x7b' :: ([','].intercalate e.fields ++ ['\x7d'])

def encode (e : Envelope) : ByteArray := (String.ofList e.encodeChars).toUTF8

/-- Members come in any order, and those with other names are passed over. -/
def ofMembers? (members : List (String × Json)) : Option Envelope := do
  let eventId ← Json.singleString? members "event_id"
  let sagaId ← Json.singleString? members "saga_id"
  let step ← Json.singleString? members "step"
  let occurredAt ← (Json.single? members "occurred_at").bind Json.int64?
  let outcome ← StepOutcome.ofMembers? members
  return ⟨eventId, sagaId, step, outcome, occurredAt⟩

def decode? (bytes : ByteArray) : Option Envelope :=
  match Json.parseBytes? bytes with
  | some (.object members) => ofMembers? members
  | _ => none

end Envelope

end OutcomeRelay
