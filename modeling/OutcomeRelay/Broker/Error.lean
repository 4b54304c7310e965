import OutcomeRelay.Equality

set_option autoImplicit false

namespace OutcomeRelay

inductive Operation where
  | init
  | begin
  | send
  | commit
  | abort
  | close
deriving DecidableEq

namespace Operation

def all : List Operation := [.init, .begin, .send, .commit, .abort, .close]

def name : Operation → String
  | init => "init"
  | begin => "begin"
  | send => "send"
  | commit => "commit"
  | abort => "abort"
  | close => "close"

end Operation

inductive BrokerError where
  | unreachable (reason : String)
  | retriable (reason : String)
  | abortable (reason : String)
  | fatal (reason : String)
  | illegalState (operation : Operation) (state : String)
deriving DecidableEq

namespace BrokerError

/-- What is left to do after an error. -/
inductive Kind where
  | unreachable
  | retriable
  | abortable
  | fatal
  | illegalState
deriving DecidableEq

def kind : BrokerError → Kind
  | unreachable _ => .unreachable
  | retriable _ => .retriable
  | abortable _ => .abortable
  | fatal _ => .fatal
  | illegalState _ _ => .illegalState

def isFatal (e : BrokerError) : Bool := e.kind = .fatal

def message : BrokerError → String
  | unreachable reason => "broker unreachable: " ++ reason
  | retriable reason => "retriable broker error: " ++ reason
  | abortable reason => "transaction must be aborted: " ++ reason
  | fatal reason => "fatal producer error: " ++ reason
  | illegalState operation state =>
    operation.name ++ " is not permitted while the producer is " ++ state

def chain (e : BrokerError) : List String := [e.message]

end BrokerError

abbrev Reply := Except BrokerError Unit

end OutcomeRelay
