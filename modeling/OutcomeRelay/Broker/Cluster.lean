import OutcomeRelay.Broker.Session

set_option autoImplicit false

namespace OutcomeRelay

abbrev SessionId := Nat

/-- A broker with its sessions. They are numbered in the order in which they were opened and stay in
the table when they are closed, so that a number never names two sessions. -/
structure Cluster where
  broker : Broker
  sessions : List Session
deriving DecidableEq

namespace Cluster

def empty (partitions : Nat) : Cluster := ⟨Broker.empty partitions, []⟩

def offlineError : BrokerError := .unreachable "In memory broker offline"
def refusedError : BrokerError := .unreachable "connection refused"
def unsupportedError : BrokerError :=
  .fatal "transactional producers require idempotence, acks=all and one in-flight request"

/-- Opens a session. A broker that is offline answers nobody, settings without transactions are
turned down for good, and a refusal uses up one of those that were asked for. -/
def connect (c : Cluster) (settings : Settings) : Except BrokerError SessionId × Cluster :=
  if c.broker.offline then (.error offlineError, c)
  else if !settings.supportsTransactions then (.error unsupportedError, c)
  else if 0 < c.broker.refusals then
    (.error refusedError, { c with broker := { c.broker with refusals := c.broker.refusals - 1 } })
  else (.ok c.sessions.length, { c with sessions := c.sessions ++ [{ id := settings.id }] })

def perform (c : Cluster) (s : SessionId) (request : Request) : Reply × Cluster :=
  match c.sessions[s]? with
  | none => (.error Session.closedError, c)
  | some session =>
    match session.perform c.broker request with
    | (reply, session, broker) => (reply, ⟨broker, c.sessions.set s session⟩)

def openSessions (c : Cluster) : Nat := c.sessions.countP fun s => !s.closed

end Cluster

end OutcomeRelay
