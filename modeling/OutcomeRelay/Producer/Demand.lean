import OutcomeRelay.Broker.Cluster

set_option autoImplicit false

namespace OutcomeRelay

/-- Every operation of a producer is a machine that stands still between two signals from outside.
Its demand says what it waits for, and the next signal moves it on. -/
inductive Demand where
  | connection (id : String) (limit : Span)
  | answer (session : SessionId) (id : String) (request : Request) (limit : Option Span)
  /-- The end of a pause, which a cancellation cuts short if it may be cancelled. -/
  | pause (length : Span) (cancellable : Bool)
  | turn
  | rest
deriving DecidableEq

namespace Demand

def isCall : Demand → Bool
  | connection _ _ => true
  | answer _ _ _ _ => true
  | _ => false

def limit? : Demand → Option Span
  | connection _ limit => some limit
  | answer _ _ _ limit => limit
  | _ => none

end Demand

inductive Signal where
  | opened (session : SessionId)
  | answered (reply : Reply)
  /-- The limit passed without an answer. -/
  | silence
  /-- The pause is over, or there was nothing to wait for. -/
  | resumed
deriving DecidableEq

end OutcomeRelay
