import OutcomeRelay.Outcome.Codec
import OutcomeRelay.Publish.Error

set_option autoImplicit false

namespace OutcomeRelay

structure OutcomeRecord where
  topic : String
  eventId : String
  payload : ByteArray
deriving DecidableEq

def Envelope.record? (topic : String) (e : Envelope) : Except OutcomeError OutcomeRecord :=
  match e.flaw? with
  | some error => .error error
  | none => .ok ⟨topic, e.eventId, e.encode⟩

inductive ReportError where
  | outcome (error : OutcomeError)
  | publish (error : PublishError)
deriving DecidableEq

namespace ReportError

def message : ReportError → String
  | outcome error => error.message
  | publish error => error.message

def chain : ReportError → List String
  | outcome error => [error.message]
  | publish error => error.chain

end ReportError

structure Report where
  sagaId : String
  step : String
  outcome : StepOutcome
deriving DecidableEq

/-- What a report is stamped with when it comes in. -/
structure Stamp where
  eventId : String
  occurredAt : Int
deriving DecidableEq

namespace Report

def envelope (r : Report) (stamp : Stamp) : Envelope :=
  ⟨stamp.eventId, r.sagaId, r.step, r.outcome, stamp.occurredAt⟩

def record? (r : Report) (topic : String) (stamp : Stamp) : Except OutcomeError OutcomeRecord :=
  (r.envelope stamp).record? topic

def conclude (eventId : String) : PublishResult → Except ReportError String
  | .ok () => .ok eventId
  | .error error => .error (.publish error)

def ofMembers? (members : List (String × Json)) : Option Report := do
  let sagaId ← Json.singleString? members "saga_id"
  let step ← Json.singleString? members "step"
  let outcome ← StepOutcome.ofMembers? members
  return ⟨sagaId, step, outcome⟩

def decode? (bytes : ByteArray) : Option Report :=
  match Json.parseBytes? bytes with
  | some (.object members) => ofMembers? members
  | _ => none

end Report

end OutcomeRelay
