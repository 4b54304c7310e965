import OutcomeRelay.World.Basic

set_option autoImplicit false

namespace OutcomeRelay

inductive Fate where
  | answers
  | neverStarts
  /-- It takes effect and is never answered. -/
  | neverAnswers
  | panics (text : String)
deriving DecidableEq

/-- The course of a call: its fate, the wait for its effect, and how long its answer takes. -/
structure CallPlan where
  before : Nat := 0
  after : Nat := 0
  fate : Fate := .answers
deriving DecidableEq

/-- The courses that are laid down for the next calls, and how long any other call waits. -/
structure Script where
  plans : List (CallName × CallPlan) := []
  latency : List (CallName × Nat) := []
deriving DecidableEq

namespace Script

def take (s : Script) (call : CallName) : CallPlan × Script :=
  match s.plans.lookup call with
  | some plan => (plan, { s with plans := s.plans.eraseP fun entry => entry.1 = call })
  | none => ({ before := (s.latency.lookup call).getD 0 }, s)

def add (s : Script) (call : CallName) (plan : CallPlan) (times : Nat) : Script :=
  { s with plans := s.plans ++ List.replicate times (call, plan) }

end Script

inductive Timer where
  /-- The times of the effect, or of the panic with this text, of the answer and of the limit. -/
  | call (effect : Option Nat) (panic : Option String) (answer : Option Nat) (limit : Option Nat)
  | pause (finish : Nat)
deriving DecidableEq

namespace Timer

def ofPlan (now : Nat) (plan : CallPlan) (limit : Option Span) : Timer :=
  let effect := now + plan.before
  let deadline := limit.map fun span => now + span.ticks
  match plan.fate with
  | .answers => .call (some effect) none (some (effect + plan.after)) deadline
  | .neverStarts => .call none none none deadline
  | .neverAnswers => .call (some effect) none none deadline
  | .panics text => .call (some effect) (some text) none deadline

def alarms : Timer → List Nat
  | call effect _ _ limit => effect.toList ++ limit.toList
  | pause finish => [finish]

def answerTime? : Timer → Option Nat
  | call _ _ answer _ => answer
  | pause _ => none

end Timer

def Demand.call? : Demand → Option CallName
  | .connection _ _ => some .connect
  | .answer _ _ request _ => some (.operation request.operation)
  | _ => none

def Script.arm (s : Script) (now : Nat) (demand : Demand) : Option Timer × Script :=
  match demand with
  | .pause length _ => (some (.pause (now + length.ticks)), s)
  | _ => match demand.call? with
    | none => (none, s)
    | some call =>
      match s.take call with
      | (plan, s) => (some (Timer.ofPlan now plan demand.limit?), s)

def isDue (now : Nat) (time : Option Nat) : Bool :=
  match time with
  | none => false
  | some time => time ≤ now

/-- What happens to a task now. An effect or an answer that is due comes before a limit that is due,
and a cancellation before the end of the pause that it cuts short. -/
def Task.due? (task : Task) (index now : Nat) (demand : Demand) (timer : Option Timer) :
    Option Event :=
  match demand, timer with
  | .turn, _ => some (.proceed index)
  | .pause _ cancellable, some (.pause finish) =>
    if (cancellable && task.cancelled) || finish ≤ now then some (.wake index) else none
  | _, some (.call effect panic answer limit) =>
    if task.answer.isSome && isDue now answer then some (.deliver index)
    else if task.answer.isNone && isDue now effect then
      match panic with
      | none => some (.effect index)
      | some text => some (.crash index text)
    else if isDue now limit then some (.expire index)
    else none
  | _, _ => none

end OutcomeRelay
