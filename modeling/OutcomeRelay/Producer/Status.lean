import OutcomeRelay.Broker.Error

set_option autoImplicit false

namespace OutcomeRelay

inductive Status where
  | ready
  | inTransaction
  | abortable
  | fatal
  | closed
deriving DecidableEq

namespace Status

def name : Status → String
  | ready => "ready"
  | inTransaction => "in transaction"
  | abortable => "abortable"
  | fatal => "fatal"
  | closed => "closed"

def permits : Status → Operation → Bool
  | _, .init => false
  | s, .begin => s = ready
  | s, .send => s = inTransaction
  | s, .commit => s = inTransaction
  | s, .abort => s = inTransaction || s = abortable
  | _, .close => true

/-- Nothing but closing leads on from here. -/
def isTerminal (s : Status) : Bool := s = fatal || s = closed

def isReusable (s : Status) : Bool := s = ready

/-- A fatal error ends the producer, an abortable one leaves only the abort, and any other error
changes nothing. -/
def after (s : Status) (operation : Operation) (reply : Reply) : Status :=
  if operation = .close then closed
  else if s.isTerminal then s
  else match operation, reply with
    | _, .error (.fatal _) => fatal
    | .begin, .ok () => inTransaction
    | .commit, .ok () => ready
    | .abort, .ok () => ready
    | .send, .error (.abortable _) => abortable
    | .commit, .error (.abortable _) => abortable
    | _, _ => s

end Status

end OutcomeRelay
