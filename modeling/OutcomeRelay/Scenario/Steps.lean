import OutcomeRelay.Web.Router
import OutcomeRelay.World.Client

set_option autoImplicit false

/-!
# Scenarios

A scenario is a list of steps on a simulated world: publishing, using producers and sessions
directly, and laying down what the broker will do. A step is performed when the one before it has
its result; tasks that are still running go on meanwhile. What publishes gets in line behind them;
any other step goes before them. A step that never gets a result ends the scenario.

Event ids and times differ from run to run. In a scenario the event ids that reporters get are
numbered, and the time of an outcome is zero.
-/

namespace OutcomeRelay.Scenario

inductive Cancellation where
  | never
  | beforehand
  /-- So long after the task begins to act. -/
  | after (millis : Nat)

namespace Cancellation

def isBeforehand : Cancellation → Bool
  | beforehand => true
  | _ => false

def time? (start : Nat) : Cancellation → Option Nat
  | after millis => some (start + millis)
  | _ => none

end Cancellation

structure Item where
  delay : Nat
  service : Nat
  topic : String
  payload : ByteArray
  cancellation : Cancellation

inductive Step where
  /-- Publishes; whoever waits may stop waiting after some milliseconds. -/
  | publish (item : Item) (dropAfter : Option Nat)
  | concurrent (items : List Item)
  | report (service : Nat) (report : Report)
  | http (service : Nat) (request : Web.HttpRequest)
  | shutdown (service : Nat)
  | borrow (service : Nat) (slot : String) (cancellation : Cancellation)
  | release (service : Nat) (slot : String)
  | forget (slot : String)
  | create (service : Nat) (slot : String) (id : Option String)
  | operate (slot : String) (request : Request)
  | markFatal (slot : String)
  | inspect (slot : String)
  | openSession (slot : String) (settings : Settings)
  | request (slot : String) (request : Request)
  | toggleOffline
  | refuse (count : Nat)
  | fail (operation : Operation) (error : BrokerError) (times : Nat)
  | script (call : CallName) (plan : CallPlan) (times : Nat)
  | sleep (millis : Nat)
  | records (topic : String)
  | payloads (topic : String)

inductive Result where
  | done
  | published (result : PublishResult)
  | dropped
  | finished (items : List (PublishResult × Nat))
  | reported (result : Except ReportError String)
  | responded (response : Web.HttpResponse) (eventId : Option String)
  | drained (closed : Nat)
  | lent (result : Except PoolError String)
  | replied (reply : Reply)
  | vacant
  | inspected (brokers : List String) (id : String)
  | records (records : List StoredRecord)
  | payloads (payloads : List ByteArray)
  | hung

structure Seen where
  result : Result
  now : Nat
  openSessions : Nat
  pools : List (Nat × Nat × Nat)
  handles : List (String × Status)
  calls : List JournalEntry

structure State where
  simulation : Simulation
  returned : Nat := 0
  shown : Nat := 0

namespace State

def world (s : State) : World := s.simulation.world

def task? (s : State) (index : Nat) : Option Task := s.world.tasks[index]?

def happen (s : State) (events : List Event) : State :=
  { s with simulation := events.foldl Simulation.step s.simulation }

/-- Runs the simulation to a goal. If it is never reached, the state in which nothing is going to
happen any more is the error. -/
def runTo (s : State) (goal : Simulation.Goal) : Except State State :=
  match s.simulation.runTo goal with
  | (simulation, reached) =>
    if reached then .ok { s with simulation := simulation }
    else .error { s with simulation := simulation }

def require {α : Type} (s : State) : Option α → Except State α
  | some x => .ok x
  | none => .error s

def start (s : State) (service : Nat) (job : Job) (delay : Nat) (cancellation : Cancellation) :
    Nat × State :=
  match s.simulation.start service job cancellation.isBeforehand
      (cancellation.time? (s.world.now + delay)) with
  | (index, simulation) => (index, { s with simulation := simulation })

def publishResult : Outcome → Option PublishResult
  | .published result => some result
  | .crashed text => some (.error (.interrupted (PublishError.panicText text)))
  | _ => none

def reportResult (eventId : Option String) (outcome : Outcome) :
    Option (Except ReportError String) :=
  match outcome, eventId with
  | .rejected error, _ => some (.error (.outcome error))
  | outcome, some eventId => (publishResult outcome).map (Report.conclude eventId)
  | _, none => none

def plainResult : Outcome → Option Result
  | .lent result => some (.lent result)
  | .returned => some .done
  | .drained closed => some (.drained closed)
  | .replied reply => some (.replied reply)
  | _ => none

def calling (s : State) (service : Nat) (work : Work) (buffer : Buffer)
    (cancellation : Cancellation) : Client :=
  let token : Token :=
    { cancelled := cancellation.isBeforehand, cancelAt := cancellation.time? s.world.now }
  let client : Client :=
    { simulation := s.simulation, buffers := fun _ => buffer, tokens := fun _ => token }
  (client.call ⟨service, work, 0⟩).poll 0

def await (s : State) (client : Client) (goal : Simulation.Goal) : Except State (Client × State) :=
  do
    let s ← { s with simulation := client.simulation }.runTo goal
    return ({ client with simulation := s.simulation }.poll 0, s)

/-- Performs a job before all others; its outcome is the result of its step. -/
def plain (s : State) (service : Nat) (job : Job) (cancellation : Cancellation) :
    Except State (Result × State) := do
  let called := s.calling service (.direct job) ⟨"", .empty⟩ cancellation
  let (client, s) ← s.await called (.foremost s.world.tasks.length)
  return (← s.require ((client.outcome? 0).bind plainResult), s)

def startItem (s : State) (item : Item) : Nat × State :=
  s.start item.service (.publish item.delay item.topic item.payload) item.delay item.cancellation

def startItems (s : State) : List Item → List Nat × State
  | [] => ([], s)
  | item :: items =>
    match s.startItem item with
    | (index, s) => match s.startItems items with
      | (indices, s) => (index :: indices, s)

def publish (s : State) (item : Item) (dropAfter : Option Nat) : Except State (Result × State) := do
  let s ← s.runTo (.clock (s.world.now + item.delay))
  let task := s.world.tasks.length
  let called := s.calling item.service (.publishFrom 0) ⟨item.topic, item.payload⟩ item.cancellation
  let goal := match dropAfter with
    | none => .ended [task]
    | some millis => .endedOr task (s.world.now + millis)
  let (client, s) ← s.await called goal
  match client.outcome? 0 with
  | some outcome => return (.published (← s.require (publishResult outcome)), s)
  | none => return (.dropped, { s with simulation := (client.drop 0).simulation })

def itemResult (s : State) (index : Nat) : Option (PublishResult × Nat) := do
  let task ← s.task? index
  let result ← publishResult (← task.activity.outcome?)
  return (result, ← task.endedAt)

def concurrent (s : State) (items : List Item) : Except State (Result × State) :=
  match s.startItems items with
  | (indices, s) => do
    let s ← s.runTo (.ended indices)
    return (.finished (indices.filterMap s.itemResult), s)

def reportAs (s : State) (service : Nat) (report : Report) (eventId : String) :
    Except State (Except ReportError String × State) := do
  let (index, s) := s.start service (.report report ⟨eventId, 0⟩) 0 .never
  let s ← s.runTo (.ended [index])
  let task ← s.require (s.task? index)
  let outcome ← s.require task.activity.outcome?
  return (← s.require (reportResult task.eventId outcome), s)

/-- Reports an outcome under the next number; an id that its reporter does not get has none. No
task looks into a payload, so all else is the same under either id. -/
def report (s : State) (service : Nat) (report : Report) :
    Except State (Except ReportError String × State) :=
  match s.reportAs service report ("evt-" ++ toString (s.returned + 1)) with
  | .ok (.ok eventId, s) => .ok (.ok eventId, { s with returned := s.returned + 1 })
  | _ => s.reportAs service report "evt-?"

def http (s : State) (service : Nat) (request : Web.HttpRequest) : Except State (Result × State) :=
  match Web.route request with
  | .response response => .ok (.responded response none, s)
  | .report report => do
    let (result, s) ← s.report service report
    return (.responded (Web.respond result) result.toOption, s)

def records (s : State) (topic : String) : List StoredRecord :=
  s.world.cluster.broker.topics.records topic

def withHandle (s : State) (slot : String) (next : Handle → Except State (Result × State)) :
    Except State (Result × State) :=
  match s.world.handles.lookup slot with
  | none => .ok (.vacant, s)
  | some handle => next handle

def perform (s : State) : Step → Except State (Result × State)
  | .publish item dropAfter => s.publish item dropAfter
  | .concurrent items => s.concurrent items
  | .report service report => do
    let (result, s) ← s.report service report
    return (.reported result, s)
  | .http service request => s.http service request
  | .shutdown service => s.plain service .shutdown .never
  | .borrow service slot cancellation => s.plain service (.borrow slot) cancellation
  | .release service slot =>
    s.withHandle slot fun _ => s.plain service (.release slot) .never
  | .forget slot => s.withHandle slot fun _ => .ok (.done, s.happen [.forget slot])
  | .create service slot id => s.plain service (.create slot id) .never
  | .operate slot request =>
    s.withHandle slot fun _ => s.plain 0 (.operate slot request) .never
  | .markFatal slot => s.withHandle slot fun _ => .ok (.done, s.happen [.markFatal slot])
  | .inspect slot =>
    s.withHandle slot fun handle => .ok (.inspected handle.brokers handle.id, s)
  | .openSession slot settings =>
    .ok (.replied (s.world.openSession slot settings).1, s.happen [.openSession slot settings])
  | .request slot request =>
    match (s.world.request slot request).1 with
    | none => .ok (.vacant, s)
    | some reply => .ok (.replied reply, s.happen [.request slot request])
  | .toggleOffline => .ok (.done, s.happen [.toggleOffline])
  | .refuse count => .ok (.done, s.happen [.refuse count])
  | .fail operation error times =>
    .ok (.done, s.happen (List.replicate times (.inject operation error)))
  | .script call plan times =>
    .ok (.done, { s with simulation :=
      { s.simulation with script := s.simulation.script.add call plan times } })
  | .sleep millis => do
    let s ← s.runTo (.clock (s.world.now + millis))
    return (.done, s)
  | .records topic => .ok (.records (s.records topic), s)
  | .payloads topic => .ok (.payloads ((s.records topic).map (·.payload)), s)

def seen (s : State) (result : Result) : Seen where
  result := result
  now := s.world.now
  openSessions := s.world.cluster.openSessions
  pools := s.world.services.map fun service =>
    (service.pool.idle.length, service.pool.created, service.pool.discarded)
  handles := s.world.handles.map fun (slot, handle) => (slot, handle.status)
  calls := (s.world.journal.take (s.world.journal.length - s.shown)).reverse

def play (s : State) : List Step → List Seen × State
  | [] => ([], s)
  | step :: rest =>
    match s.perform step with
    | .error last => ([last.seen .hung], last)
    | .ok (result, next) =>
      match play { next with shown := next.world.journal.length } rest with
      | (seen, last) => (next.seen result :: seen, last)

end State

def State.initial (partitions : Nat) (latency : List (CallName × Nat)) (services : List Service) :
    State where
  simulation := { world := World.initial partitions services, script := { latency := latency } }

end OutcomeRelay.Scenario
