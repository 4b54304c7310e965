import OutcomeRelay.World.Schedule

set_option autoImplicit false

/-!
# Simulation

A simulation runs a world by a schedule. Tasks take turns: one acts until it has to wait, and then
comes the one that has been in line the longest. A task gets in line when it is started and when
something it waits for is due; what is due at the same time is taken in the order in which the tasks
began to wait for it. The clock moves on only when nobody is in line. Each step of a simulation is
one event of its world.
-/

namespace OutcomeRelay

inductive Turn where
  | task (index : Nat)
  | cancellation (index : Nat)
deriving DecidableEq

/-- A world with the script for its calls and a timer for each task. -/
structure Simulation where
  world : World
  script : Script := {}
  timers : List (Option Timer) := []
  /-- The turns that are going to come, with their times, in the order in which they were set. -/
  agenda : List (Nat × Turn) := []
  /-- The turns that have come, the next one first. -/
  line : List Turn := []
deriving DecidableEq

namespace Simulation

def rearms : Event → Bool
  | .proceed _ => true
  | .deliver _ => true
  | .expire _ => true
  | .wake _ => true
  | .crash _ _ => true
  | _ => false

def arrange (s : Simulation) (index : Nat) (times : List Nat) : Simulation :=
  { s with agenda := s.agenda ++ times.map fun time => (time, Turn.task index) }

/-- Sets the timer of a task for what it now waits for. The turns it had for what it waited for
before are off. -/
def arm (s : Simulation) (index : Nat) : Simulation :=
  match s.world.tasks[index]? with
  | none => s
  | some task =>
    match s.script.arm s.world.now (s.world.demand task) with
    | (timer, script) =>
      { s with
        script := script
        timers := s.timers.set index timer
        agenda := s.agenda.filter (·.2 ≠ Turn.task index) }.arrange index
          ((timer.map Timer.alarms).getD [])

def awaitAnswer (s : Simulation) (index : Nat) : Simulation :=
  s.arrange index ((s.timers[index]?.join.bind Timer.answerTime?).toList)

def step (s : Simulation) (event : Event) : Simulation :=
  let next := { s with world := s.world.apply event }
  match event, World.eventTask? event with
  | .effect _, some index => next.awaitAnswer index
  | _, some index => if rearms event then next.arm index else next
  | _, none => next

def setCancellation (s : Simulation) (index : Nat) : Option Nat → Simulation
  | none => s
  | some time =>
    if time ≤ s.world.now then { s with line := s.line ++ [.cancellation index] }
    else { s with agenda := s.agenda ++ [(time, .cancellation index)] }

def start (s : Simulation) (service : Nat) (job : Job) (cancelled : Bool) (cancelAt : Option Nat) :
    Nat × Simulation :=
  let index := s.world.tasks.length
  let next := (s.step (.start service job cancelled)).setCancellation index cancelAt
  let next := { next with
    timers := next.timers ++ List.replicate (next.world.tasks.length - index) none
    line := next.line ++ [Turn.task index] }
  (index, next.arm index)

def due? (s : Simulation) (index : Nat) : Option Event := do
  let task ← s.world.tasks[index]?
  task.due? index s.world.now (s.world.demand task) (← s.timers[index]?)

def hasYetToBegin (s : Simulation) (index : Nat) : Bool :=
  match s.world.tasks[index]? with
  | some task => task.activity.isWaiting
  | none => false

/-- What happens now, and who is in line after it. A task keeps its turn while something is due for
it; when it begins to act, and when it has been cancelled, it gets in line again. -/
def next? (s : Simulation) : List Turn → Option (Event × List Turn)
  | [] => none
  | .cancellation index :: rest => some (.cancel index, rest ++ [.task index])
  | .task index :: rest =>
    match s.due? index with
    | none => s.next? rest
    | some event =>
      some (event, if s.hasYetToBegin index then rest ++ [.task index] else .task index :: rest)

inductive Goal where
  /-- The given time, before anything else happens at it. -/
  | clock (time : Nat)
  /-- The end of all the given tasks, and of everything else that happens at that time. -/
  | ended (tasks : List Nat)
  /-- The end of a task, or the given time if that is earlier. -/
  | endedOr (task : Nat) (time : Nat)
  /-- The end of a task that goes before all others, before anything else happens. -/
  | foremost (task : Nat)
deriving DecidableEq

def hasEnded (s : Simulation) (index : Nat) : Bool :=
  match s.world.tasks[index]? with
  | none => true
  | some task => task.activity.outcome?.isSome

namespace Goal

def time? : Goal → Option Nat
  | clock time => some time
  | endedOr _ time => some time
  | _ => none

def foremost? : Goal → Option Turn
  | foremost task => some (.task task)
  | _ => none

def hasEnded (s : Simulation) : Goal → Bool
  | clock _ => false
  | ended tasks => tasks.all s.hasEnded
  | endedOr task _ => s.hasEnded task
  | foremost task => s.hasEnded task

def isReached (s : Simulation) : Goal → Bool
  | clock time => time ≤ s.world.now
  | ended _ => false
  | endedOr _ time => time ≤ s.world.now
  | foremost task => s.hasEnded task

end Goal

def nextTime? (s : Simulation) (goal : Goal) : Option Nat :=
  ((goal.time?.toList ++ s.agenda.map (·.1)).filter (s.world.now < ·)).min?

def tick (s : Simulation) (goal : Goal) (time : Nat) : Simulation :=
  let come := (s.agenda.filter fun entry => s.world.now < entry.1 && entry.1 ≤ time).map (·.2)
  let (first, others) := come.partition fun turn => goal.foremost? = some turn
  { s with line := first ++ others }.step (.tick time)

/-- Runs until the goal is reached; without one, the run ends when nothing is going to happen any
more or the fuel is used up. The second component says that the goal was reached. -/
def run (goal : Goal) : Nat → Simulation → Simulation × Bool
  | 0, s => (s, false)
  | fuel + 1, s =>
    if goal.isReached s then (s, true)
    else match s.next? s.line with
      | some (event, line) => run goal fuel ({ s with line := line }.step event)
      | none =>
        if goal.hasEnded s then (s, true)
        else match s.nextTime? goal with
          | none => (s, false)
          | some time => run goal fuel (s.tick goal time)

/-- More events than a task of the service can meet before it ends, unless a budget is as large as
the counters of attempts themselves. -/
def taskFuel (service : Option Service) : Nat :=
  match service with
  | none => 1
  | some service => 8 + service.creation.retries.toNat + 3 * service.retry.retries.toNat

/-- Fuel for a run: each attempt of each task, and each session that is yet to be closed, takes
fewer events than this allows for. -/
def fuel (s : Simulation) : Nat :=
  let tasks := s.world.tasks.filter fun task => task.activity.outcome?.isNone
  64 * tasks.foldl (fun total task => total + taskFuel (s.world.service? task))
    (1 + s.agenda.length + s.line.length + s.world.cluster.sessions.length)

def runTo (s : Simulation) (goal : Goal) : Simulation × Bool :=
  if goal.hasEnded s then (s, true)
  else run goal s.fuel { s with line := goal.foremost?.toList ++ s.line }

end Simulation

end OutcomeRelay
