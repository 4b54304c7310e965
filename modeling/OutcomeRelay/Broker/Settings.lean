import OutcomeRelay.Time.Span

set_option autoImplicit false

namespace OutcomeRelay

inductive Acks where
  | leader
  | all
deriving DecidableEq

inductive Partitioner where
  | roundRobin
deriving DecidableEq

structure Settings where
  brokers : List String
  id : String
  idempotent : Bool
  acks : Acks
  partitioner : Partitioner
  maxInFlight : UInt32
  transactionTimeout : Span
deriving DecidableEq

namespace Settings

def transactional (brokers : List String) (id : String) (transactionTimeout : Span) : Settings where
  brokers := brokers
  id := id
  idempotent := true
  acks := .all
  partitioner := .roundRobin
  maxInFlight := 1
  transactionTimeout := transactionTimeout

def supportsTransactions (s : Settings) : Bool :=
  s.idempotent && s.acks = .all && s.maxInFlight = 1

theorem supportsTransactions_transactional (brokers : List String) (id : String) (timeout : Span) :
    (transactional brokers id timeout).supportsTransactions = true := rfl

end Settings

end OutcomeRelay
