import OutcomeRelay.Publish.Error

set_option autoImplicit false

/-!
# A line of blocking calls

A client whose calls block runs each call apart from its caller. A caller that gives up leaves its
call running; the call is parked, and whoever comes next waits for it before anything else is
issued. If the next caller asks for the very operation that was parked, and it succeeded, that
success is the answer.
-/

namespace OutcomeRelay

inductive CallOutcome where
  | replied (reply : Reply)
  | panicked (text : String)
deriving DecidableEq

/-- What the caller is told; a panic counts as an error that may be tried again. -/
def CallOutcome.reply : CallOutcome → Reply
  | replied reply => reply
  | panicked text => .error (.retriable ("blocking task failed: " ++ PublishError.panicText text))

structure BlockingCall where
  operation : Operation
  outcome : Option CallOutcome := none
deriving DecidableEq

/-- All calls issued so far, the first one first, and which of them is awaited or parked. -/
structure CallLine where
  calls : List BlockingCall := []
  inFlight : Option Nat := none
deriving DecidableEq

namespace CallLine

inductive Wait where
  /-- The parked call, before a call of its own may be issued. -/
  | turn (operation : Operation)
  | own
  /-- The parked call, and nothing else. -/
  | settling
deriving DecidableEq

inductive Progress where
  | waiting (wait : Wait)
  | answered (reply : Reply)
deriving DecidableEq

def isIdle (l : CallLine) : Bool := l.inFlight.isNone

def running (l : CallLine) : Nat := l.calls.countP fun call => call.outcome.isNone

def issue (l : CallLine) (operation : Operation) : CallLine :=
  ⟨l.calls ++ [{ operation := operation }], some l.calls.length⟩

def finish (l : CallLine) (call : Nat) (outcome : CallOutcome) : CallLine :=
  { l with calls := l.calls.modify call fun c =>
      if c.outcome.isNone then { c with outcome := some outcome } else c }

def request (l : CallLine) (operation : Operation) : CallLine × Wait :=
  match l.inFlight with
  | none => (l.issue operation, .own)
  | some _ => (l, .turn operation)

def settle (l : CallLine) : Option Wait := l.inFlight.map fun _ => .settling

def current? (l : CallLine) : Option BlockingCall := l.inFlight.bind fun call => l.calls[call]?

/-- Looks whether the call in flight has ended, and if so what that means for the caller. -/
def poll (l : CallLine) (wait : Wait) : CallLine × Progress :=
  match l.current? with
  | none => (l, .waiting wait)
  | some call => match call.outcome with
    | none => (l, .waiting wait)
    | some outcome =>
      let free := { l with inFlight := none }
      match wait with
      | .turn operation =>
        if call.operation = operation && outcome.reply = .ok () then (free, .answered (.ok ()))
        else (free.issue operation, .waiting .own)
      | .own => (free, .answered outcome.reply)
      | .settling => (free, .answered outcome.reply)

end CallLine

end OutcomeRelay
