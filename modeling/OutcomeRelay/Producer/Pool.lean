import OutcomeRelay.Producer.Creation

set_option autoImplicit false

namespace OutcomeRelay

/-- Producers that are ready. Once closed the pool keeps and lends none. -/
structure Pool where
  idle : List Handle := []
  isClosed : Bool := false
  created : Nat := 0
  discarded : Nat := 0
  ids : IdSource := {}
deriving DecidableEq

namespace Pool

inductive Lookup where
  | closed
  | hit (handle : Handle)
  | miss (id : String)
deriving DecidableEq

/-- Takes the producer that came back last; without one, takes a new transactional id. -/
def lookup (p : Pool) (baseId : String) : Lookup × Pool :=
  if p.isClosed then (.closed, p)
  else match p.idle with
    | handle :: idle => (.hit handle, { p with idle := idle })
    | [] => (.miss (p.ids.nextId baseId).1, { p with ids := (p.ids.nextId baseId).2 })

def countCreated (p : Pool) : Pool := { p with created := p.created + 1 }
def countDiscarded (p : Pool) : Pool := { p with discarded := p.discarded + 1 }

inductive Return where
  | kept
  | discard
  | close
deriving DecidableEq

/-- Keeps a producer that may serve again, unless the pool is closed. -/
def giveBack (p : Pool) (handle : Handle) : Return × Pool :=
  if !handle.status.isReusable then (.discard, p)
  else if p.isClosed then (.close, p)
  else (.kept, { p with idle := handle :: p.idle })

/-- Closes the pool and takes out its producers, the one that has been idle longest first. -/
def drain (p : Pool) : List Handle × Pool :=
  (p.idle.reverse, { p with idle := [], isClosed := true })

end Pool

end OutcomeRelay
