import OutcomeRelay.Text.Blank

set_option autoImplicit false

namespace OutcomeRelay

inductive StepOutcome where
  | succeeded
  | failed (reason : String)
deriving DecidableEq

structure Envelope where
  eventId : String
  sagaId : String
  step : String
  outcome : StepOutcome
  occurredAt : Int
deriving DecidableEq

inductive OutcomeError where
  | validation (reason : String)
deriving DecidableEq

namespace OutcomeError

def message : OutcomeError → String
  | validation reason => "validation failed: " ++ reason

end OutcomeError

namespace Envelope

def emptySagaId : OutcomeError := .validation "saga_id must not be empty"
def emptyStep : OutcomeError := .validation "step must not be empty"
def emptyReason : OutcomeError := .validation "a failed step needs a reason"

/-- The first thing that an envelope lacks. -/
def flaw? (e : Envelope) : Option OutcomeError :=
  if Text.isBlank e.sagaId then some emptySagaId
  else if Text.isBlank e.step then some emptyStep
  else match e.outcome with
    | .succeeded => none
    | .failed reason => if Text.isBlank reason then some emptyReason else none

end Envelope

end OutcomeRelay
