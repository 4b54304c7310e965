import OutcomeRelay.Producer.Demand
import OutcomeRelay.Producer.Handle
import OutcomeRelay.Producer.Options
import OutcomeRelay.Time.Backoff

set_option autoImplicit false

/-!
# Creating a producer

An attempt connects, registers the transactional id and, when the registration failed, closes the
session again; it waits for this last answer without a limit. A creation repeats attempts with one
transactional id until one succeeds, a fatal error ends it, the budget is used up or it is
cancelled.
-/

namespace OutcomeRelay

inductive PoolError where
  | creationExhausted (attempts : UInt32) (last : BrokerError)
  | cancelled
  | closed
deriving DecidableEq

namespace PoolError

def message : PoolError → String
  | creationExhausted attempts last =>
    "no producer could be created after " ++ toString attempts.toNat ++ " attempts: " ++
      last.message
  | cancelled => "cancelled while waiting for a producer"
  | closed => "producer pool is closed"

def chain (e : PoolError) : List String := [e.message]

end PoolError

inductive Attempt where
  | connecting
  | registering (session : SessionId)
  | closing (session : SessionId) (error : BrokerError)
deriving DecidableEq

namespace Attempt

inductive Next where
  | ongoing (attempt : Attempt)
  | made (session : SessionId)
  | failed (error : BrokerError)
deriving DecidableEq

def connectSilence (limit : Span) : BrokerError :=
  .unreachable ("no connection within " ++ limit.text)

def registerSilence (limit : Span) : BrokerError :=
  .unreachable ("producer id not assigned within " ++ limit.text)

def demand (id : String) (limit : Span) : Attempt → Demand
  | connecting => .connection id limit
  | registering session => .answer session id .init (some limit)
  | closing session _ => .answer session id .close none

/-- A signal that an attempt does not wait for leaves it as it is. -/
def resume (limit : Span) : Attempt → Signal → Next
  | connecting, .opened session => .ongoing (registering session)
  | connecting, .answered (.error error) => .failed error
  | connecting, .silence => .failed (connectSilence limit)
  | registering session, .answered (.ok ()) => .made session
  | registering session, .answered (.error error) => .ongoing (closing session error)
  | registering session, .silence => .ongoing (closing session (registerSilence limit))
  | closing _ error, .answered _ => .failed error
  | attempt, _ => .ongoing attempt

def handle (options : ProducerOptions) (id : String) (session : SessionId) : Handle where
  session := session
  brokers := options.brokers
  id := id
  limit := options.operationLimit

end Attempt

/-- Attempts with one transactional id, with the number of those that failed. -/
inductive Creation where
  | trying (failures : UInt32) (attempt : Attempt)
  | pausing (failures : UInt32)
deriving DecidableEq

namespace Creation

inductive Next where
  | ongoing (creation : Creation)
  | made (session : SessionId)
  | failed (error : PoolError)
deriving DecidableEq

/-- The next attempt, unless the caller has cancelled. -/
def begin (cancelled : Bool) (failures : UInt32) : Next :=
  if cancelled then .failed .cancelled else .ongoing (trying failures .connecting)

def demand (id : String) (limit : Span) (policy : Backoff) : Creation → Demand
  | trying _ attempt => attempt.demand id limit
  | pausing failures => .pause (policy.delayFor failures) true

def fail (policy : Backoff) (failures : UInt32) (error : BrokerError) : Next :=
  if error.isFatal || !policy.canRetry (failures + 1) then
    .failed (.creationExhausted (failures + 1) error)
  else .ongoing (pausing (failures + 1))

def resume (limit : Span) (policy : Backoff) (cancelled : Bool) : Creation → Signal → Next
  | trying failures attempt, signal =>
    match attempt.resume limit signal with
    | .ongoing attempt => .ongoing (trying failures attempt)
    | .made session => .made session
    | .failed error => fail policy failures error
  | pausing failures, .resumed => begin cancelled failures
  | creation, _ => .ongoing creation

end Creation

end OutcomeRelay
