import OutcomeRelay.World.Activity

set_option autoImplicit false

/-!
# The world

A broker with its sessions, the services that publish on it and the tasks that run. Whatever happens
is an event; an event that cannot happen in a world changes nothing. Nothing is said about when
events happen: a call may be answered at any time after it took effect, or its limit may pass first,
so the worlds that lists of events lead to are those of every order in which tasks and time can move
on.
-/

namespace OutcomeRelay

/-- A running activity of a service. `answer` is set while the call it waits for has taken effect
but its answer is still on its way. -/
structure Task where
  service : Nat
  activity : Activity
  cancelled : Bool := false
  answer : Option Signal := none
  eventId : Option String := none
  endedAt : Option Nat := none
deriving DecidableEq

inductive CallName where
  | connect
  | operation (operation : Operation)
deriving DecidableEq

structure JournalEntry where
  time : Nat
  task : Nat
  id : String
  call : CallName
deriving DecidableEq

abbrev Slots (α : Type) := List (String × α)

namespace Slots

def put {α : Type} (slots : Slots α) (name : String) (x : α) : Slots α :=
  (name, x) :: slots.filter (·.1 ≠ name)

def clear {α : Type} (slots : Slots α) (name : String) : Slots α := slots.filter (·.1 ≠ name)

end Slots

structure World where
  now : Nat := 0
  cluster : Cluster
  services : List Service
  tasks : List Task := []
  handles : Slots Handle := []
  sessions : Slots SessionId := []
  journal : List JournalEntry := []
deriving DecidableEq

inductive Job where
  | publish (after : Nat) (topic : String) (payload : ByteArray)
  | report (report : Report) (stamp : Stamp)
  | borrow (slot : String)
  | release (slot : String)
  | shutdown
  | create (slot : String) (id : Option String)
  | operate (slot : String) (request : Request)
deriving DecidableEq

inductive Event where
  | tick (time : Nat)
  | start (service : Nat) (job : Job) (cancelled : Bool)
  /-- A task that waits for nothing moves on. -/
  | proceed (task : Nat)
  /-- The call that a task waits for takes effect. -/
  | effect (task : Nat)
  /-- The answer to a call that took effect arrives. -/
  | deliver (task : Nat)
  /-- The limit passes without an answer. -/
  | expire (task : Nat)
  | wake (task : Nat)
  | crash (task : Nat) (text : String)
  | cancel (task : Nat)
  | toggleOffline
  | refuse (count : Nat)
  | inject (operation : Operation) (error : BrokerError)
  /-- A handle in a slot is dropped without being closed. -/
  | forget (slot : String)
  | markFatal (slot : String)
  /-- A session is opened and used without a handle. -/
  | openSession (slot : String) (settings : Settings)
  | request (slot : String) (request : Request)
deriving DecidableEq

namespace World

def service? (w : World) (task : Task) : Option Service := w.services[task.service]?

def outcome? (w : World) (index : Nat) : Option Outcome :=
  w.tasks[index]?.bind (·.activity.outcome?)

def demand (w : World) (task : Task) : Demand :=
  match w.service? task with
  | none => .rest
  | some service => task.activity.demand service

def entry? (w : World) (index : Nat) (task : Task) : Option JournalEntry :=
  match w.demand task with
  | .connection id _ => some ⟨w.now, index, id, .connect⟩
  | .answer _ id request _ => some ⟨w.now, index, id, .operation request.operation⟩
  | _ => none

def noteCall (w : World) (index : Nat) : World :=
  match w.tasks[index]? with
  | none => w
  | some task => { w with journal := (w.entry? index task).toList ++ w.journal }

def setPool (w : World) (service : Nat) (pool : Pool) : World :=
  { w with services := w.services.modify service fun s => { s with pool := pool } }

def setTask (w : World) (index : Nat) (task : Task) : World :=
  { w with tasks := w.tasks.set index task }

def putLent (w : World) : Option (String × Handle) → World
  | none => w
  | some (slot, handle) => { w with handles := w.handles.put slot handle }

/-- A task with a new activity. The time is kept when it has come to its end. -/
def moved (w : World) (task : Task) (activity : Activity) : Task :=
  { task with
    activity := activity
    answer := none
    endedAt := if activity.outcome?.isSome then some w.now else none }

def signal (w : World) (index : Nat) (task : Task) (signal : Signal) : World :=
  match w.service? task with
  | none => w
  | some service =>
    let move := task.activity.resume service task.cancelled signal
    (((w.setPool task.service move.pool).putLent move.lent).setTask index
      (w.moved task move.activity)).noteCall index

def callEffect (w : World) (task : Task) : Option (Signal × Cluster) :=
  match w.service? task, w.demand task with
  | some service, .connection id _ =>
    match w.cluster.connect (service.options.settingsFor id) with
    | (.ok session, cluster) => some (.opened session, cluster)
    | (.error error, cluster) => some (.answered (.error error), cluster)
  | _, .answer session _ request _ =>
    match w.cluster.perform session request with
    | (reply, cluster) => some (.answered reply, cluster)
  | _, _ => none

def addTask (w : World) (task : Task) : World :=
  ({ w with tasks := w.tasks ++ [w.moved task task.activity] }).noteCall w.tasks.length

/-- Starts a task. What is taken from a slot or from the pool is taken at once. -/
def start (w : World) (service : Nat) (job : Job) (cancelled : Bool) : World :=
  match w.services[service]? with
  | none => w
  | some s =>
    let task (activity : Activity) : Task :=
      { service := service, activity := activity, cancelled := cancelled }
    match job with
    | .publish after topic payload =>
      w.addTask (task (Activity.begin after (.publish topic payload)))
    | .report report stamp =>
      match report.record? s.topic stamp with
      | .error error => w.addTask (task (.ended (.rejected error)))
      | .ok record =>
        w.addTask { task (.borrowing (.publish record.topic record.payload)) with
          eventId := some record.eventId }
    | .borrow slot => w.addTask (task (.borrowing (.lend slot)))
    | .release slot =>
      match w.handles.lookup slot with
      | none => w
      | some handle =>
        { w with handles := w.handles.clear slot }.addTask (task (.returning handle .returned))
    | .shutdown =>
      match s.pool.drain with
      | (handles, pool) =>
        (w.setPool service pool).addTask (task (.draining handles handles.length))
    | .create slot id =>
      match id with
      | some id => w.addTask (task (.making slot id .connecting))
      | none =>
        match s.pool.ids.nextId s.options.baseId with
        | (id, ids) =>
          (w.setPool service { s.pool with ids := ids }).addTask
            (task (.making slot id .connecting))
    | .operate slot request =>
      match w.handles.lookup slot with
      | none => w
      | some handle =>
        { w with handles := w.handles.clear slot }.addTask (task (.operating slot handle request))

def openSession (w : World) (slot : String) (settings : Settings) : Reply × World :=
  match w.cluster.connect settings with
  | (.ok session, cluster) =>
    (.ok (), { w with cluster := cluster, sessions := w.sessions.put slot session })
  | (.error error, cluster) => (.error error, { w with cluster := cluster })

def request (w : World) (slot : String) (request : Request) : Option Reply × World :=
  match w.sessions.lookup slot with
  | none => (none, w)
  | some session =>
    match w.cluster.perform session request with
    | (reply, cluster) => (some reply, { w with cluster := cluster })

def markFatal (w : World) (slot : String) : World :=
  match w.handles.lookup slot with
  | none => w
  | some handle => { w with handles := w.handles.put slot handle.markFatal }

def mapBroker (w : World) (f : Broker → Broker) : World :=
  { w with cluster := { w.cluster with broker := f w.cluster.broker } }

def applyTask (w : World) (index : Nat) (task : Task) : Event → World
  | .proceed _ => if w.demand task = .turn then w.signal index task .resumed else w
  | .effect _ =>
    if task.answer.isSome then w
    else match w.callEffect task with
      | none => w
      | some (answer, cluster) =>
        { w with cluster := cluster }.setTask index { task with answer := some answer }
  | .deliver _ =>
    match task.answer with
    | none => w
    | some answer => w.signal index task answer
  | .expire _ => if (w.demand task).limit?.isSome then w.signal index task .silence else w
  | .wake _ =>
    match w.demand task with
    | .pause _ _ => w.signal index task .resumed
    | _ => w
  | .crash _ text =>
    if (w.demand task).isCall then w.setTask index (w.moved task (.ended (.crashed text))) else w
  | .cancel _ => w.setTask index { task with cancelled := true }
  | _ => w

def eventTask? : Event → Option Nat
  | .proceed task => some task
  | .effect task => some task
  | .deliver task => some task
  | .expire task => some task
  | .wake task => some task
  | .crash task _ => some task
  | .cancel task => some task
  | _ => none

def apply (w : World) (event : Event) : World :=
  match eventTask? event with
  | some index =>
    match w.tasks[index]? with
    | none => w
    | some task => w.applyTask index task event
  | none =>
    match event with
    | .tick time => { w with now := max w.now time }
    | .start service job cancelled => w.start service job cancelled
    | .toggleOffline => w.mapBroker Broker.toggleOffline
    | .refuse count => w.mapBroker (·.refuse count)
    | .inject operation error => w.mapBroker (·.inject operation error)
    | .forget slot => { w with handles := w.handles.clear slot }
    | .markFatal slot => w.markFatal slot
    | .openSession slot settings => (w.openSession slot settings).2
    | .request slot request => (w.request slot request).2
    | _ => w

def run (w : World) (events : List Event) : World := events.foldl apply w

def initial (partitions : Nat) (services : List Service) : World where
  cluster := Cluster.empty partitions
  services := services

end World

end OutcomeRelay
