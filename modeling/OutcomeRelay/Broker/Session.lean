import OutcomeRelay.Broker.Error
import OutcomeRelay.Broker.Settings
import OutcomeRelay.Broker.TopicLog

set_option autoImplicit false

/-!
# A transactional broker and one session on it

The broker keeps the committed records, counts how often each transactional id was initialised, and
holds the failures that are to be injected. A session keeps the records of its open transaction
until the commit. A session is fenced when its transactional id has been initialised by a later one:
from then on everything it asks fails for good.
-/

namespace OutcomeRelay

inductive Request where
  | init
  | begin
  | send (topic : String) (payload : ByteArray)
  | commit
  | abort
  | close
deriving DecidableEq

def Request.operation : Request → Operation
  | init => .init
  | begin => .begin
  | send _ _ => .send
  | commit => .commit
  | abort => .abort
  | close => .close

structure Broker where
  topics : Topics
  offline : Bool
  refusals : Nat
  epochs : List (String × Nat)
  faults : List (Operation × BrokerError)
deriving DecidableEq

namespace Broker

def empty (partitions : Nat) : Broker := ⟨Topics.empty partitions, false, 0, [], []⟩

def epoch (b : Broker) (id : String) : Nat := (b.epochs.lookup id).getD 0

def register (b : Broker) (id : String) : Broker :=
  { b with epochs := (id, b.epoch id + 1) :: b.epochs.filter (·.1 ≠ id) }

def inject (b : Broker) (operation : Operation) (error : BrokerError) : Broker :=
  { b with faults := b.faults ++ [(operation, error)] }

def fault? (b : Broker) (operation : Operation) : Option (BrokerError × Broker) :=
  match b.faults.lookup operation with
  | none => none
  | some error =>
    some (error, { b with faults := b.faults.eraseP fun fault => fault.1 = operation })

def refuse (b : Broker) (count : Nat) : Broker := { b with refusals := b.refusals + count }

def toggleOffline (b : Broker) : Broker := { b with offline := !b.offline }

end Broker

structure Session where
  id : String
  epoch : Nat := 0
  pending : List (String × ByteArray) := []
  failure : Option String := none
  closed : Bool := false
deriving DecidableEq

namespace Session

def closedError : BrokerError := .fatal "session closed"

def fencedReason (id : String) : String :=
  "producer fenced: transactional id " ++ id ++ " was initialised by a newer session"

def failWith (s : Session) : BrokerError → Session
  | .fatal reason => { s with failure := some reason }
  | _ => s

/-- What stands between a request and its effect: a closed session, a remembered failure, a later
session of the same transactional id and an injected failure, in this order. -/
def check (s : Session) (b : Broker) (operation : Operation) : Reply × Session × Broker :=
  if s.closed then (.error closedError, s, b)
  else match s.failure with
    | some reason => (.error (.fatal reason), s, b)
    | none =>
      if s.epoch < b.epoch s.id then
        let reason := fencedReason s.id
        (.error (.fatal reason), { s with failure := some reason }, b)
      else match b.fault? operation with
        | some (error, rest) => (.error error, s.failWith error, rest)
        | none => (.ok (), s, b)

/-- Registers the producer, which fences the earlier sessions of its transactional id. -/
def init (s : Session) (b : Broker) : Reply × Session × Broker :=
  if s.closed then (.error closedError, s, b)
  else match b.fault? .init with
    | some (error, rest) => (.error error, s, rest)
    | none =>
      let registered := b.register s.id
      (.ok (), { s with epoch := registered.epoch s.id }, registered)

def guarded (s : Session) (b : Broker) (operation : Operation)
    (effect : Session → Broker → Session × Broker) : Reply × Session × Broker :=
  match s.check b operation with
  | (.ok (), s, b) => (.ok (), effect s b)
  | failed => failed

def perform (s : Session) (b : Broker) : Request → Reply × Session × Broker
  | .init => s.init b
  | .begin => s.guarded b .begin fun s b => ({ s with pending := [] }, b)
  | .send topic payload =>
    s.guarded b .send fun s b => ({ s with pending := s.pending ++ [(topic, payload)] }, b)
  | .commit =>
    s.guarded b .commit fun s b =>
      ({ s with pending := [] }, { b with topics := b.topics.appendAll s.id s.pending })
  | .abort => s.guarded b .abort fun s b => ({ s with pending := [] }, b)
  | .close => (.ok (), if s.closed then s else { s with closed := true, pending := [] }, b)

end Session

end OutcomeRelay
