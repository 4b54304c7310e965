import OutcomeRelay.Producer.Creation
import OutcomeRelay.Text.Quoted

set_option autoImplicit false

namespace OutcomeRelay

inductive PublishError where
  | pool (error : PoolError)
  | begin (reason : BrokerError)
  | aborted (reason : BrokerError)
  | retriesExhausted (attempts : UInt32) (last : BrokerError)
  | cancelled
  | fatal (id : String) (reason : BrokerError)
  | interrupted (reason : String)
deriving DecidableEq

namespace PublishError

def isFatal : PublishError → Bool
  | fatal _ _ => true
  | _ => false

def message : PublishError → String
  | pool error => error.message
  | begin reason => "could not begin transaction: " ++ reason.message
  | aborted reason => "transaction aborted: " ++ reason.message
  | retriesExhausted attempts last =>
    "gave up after " ++ toString attempts.toNat ++ " retries: " ++ last.message
  | cancelled => "publish cancelled before commit"
  | fatal id reason => "fatal error on producer " ++ id ++ ": " ++ reason.message
  | interrupted reason => "publish task interrupted: " ++ reason

/-- An error followed by what caused it; the error of a pool stands for itself. -/
def chain : PublishError → List String
  | pool error => error.chain
  | begin reason => message (begin reason) :: reason.chain
  | aborted reason => message (aborted reason) :: reason.chain
  | error => [error.message]

/-- How a task that panicked reports itself. Tasks are not told apart by number. -/
def panicText (text : String) : String := "task N panicked with message " ++ Text.quoted text

end PublishError

abbrev PublishResult := Except PublishError Unit

end OutcomeRelay
