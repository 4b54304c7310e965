import OutcomeRelay.Broker.Settings
import OutcomeRelay.Producer.IdSource

set_option autoImplicit false

namespace OutcomeRelay

structure ProducerOptions where
  brokers : List String
  baseId : String
  transactionTimeout : Span := .ofSecs 60
  operationLimit : Span := .ofSecs 10
deriving DecidableEq

namespace ProducerOptions

def settingsFor (options : ProducerOptions) (id : String) : Settings :=
  Settings.transactional options.brokers id options.transactionTimeout

def takeIds (options : ProducerOptions) : Nat → IdSource → List String
  | 0, _ => []
  | n + 1, source =>
    (source.nextId options.baseId).1 :: options.takeIds n (source.nextId options.baseId).2

end ProducerOptions

end OutcomeRelay
