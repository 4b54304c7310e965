import OutcomeRelay.Broker.Cluster
import OutcomeRelay.Producer.Status

set_option autoImplicit false

namespace OutcomeRelay

/-- A session together with its status. What the status does not permit is refused, and the session
is not asked. -/
structure Handle where
  session : SessionId
  brokers : List String
  id : String
  status : Status := .ready
  limit : Span
deriving DecidableEq

namespace Handle

def refusal? (h : Handle) (operation : Operation) : Option BrokerError :=
  if h.status.permits operation then none else some (.illegalState operation h.status.name)

def silence (h : Handle) : BrokerError :=
  .retriable ("no broker response within " ++ h.limit.text)

/-- The answer that counts: the one that came within the limit, or silence. -/
def verdict (h : Handle) : Option Reply → Reply
  | some reply => reply
  | none => .error h.silence

def record (h : Handle) (operation : Operation) (reply : Reply) : Handle :=
  { h with status := h.status.after operation reply }

def markFatal (h : Handle) : Handle :=
  if h.status = .closed then h else { h with status := .fatal }

def perform (h : Handle) (request : Request) (answer : Option Reply) : Reply × Handle :=
  match h.refusal? request.operation with
  | some error => (.error error, h)
  | none => (h.verdict answer, h.record request.operation (h.verdict answer))

end Handle

end OutcomeRelay
