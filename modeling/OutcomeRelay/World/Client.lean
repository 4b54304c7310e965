import OutcomeRelay.World.Simulation

set_option autoImplicit false

/-!
# Clients

A client has its jobs done through futures. A future does nothing until it is polled for the first
time. A publish is then spawned: it runs in a task of its own, on copies of what it was called with,
and its future only waits for it. Any other job is done by the polls of its future and ends with it.
-/

namespace OutcomeRelay

def Job.spawns : Job → Bool
  | .publish _ _ _ => true
  | .report _ _ => true
  | _ => false

/-- A producer that an activity only borrows from its slot, and that stays there without it. -/
def Activity.leaves? : Activity → Option (String × Handle)
  | operating slot handle _ => some (slot, handle)
  | _ => none

/-- Ends a task where it stands. What it owns is lost with it. -/
def World.quit (w : World) (index : Nat) : World :=
  match w.tasks[index]? with
  | none => w
  | some task =>
    if task.activity.outcome?.isSome then w
    else (w.putLent task.activity.leaves?).setTask index (w.moved task (.ended .dropped))

namespace Simulation

def quit (s : Simulation) (index : Nat) : Simulation :=
  { s with world := s.world.quit index }.arm index

def act (index : Nat) : Nat → Simulation → Simulation
  | 0, s => s
  | fuel + 1, s =>
    match s.due? index with
    | none => s
    | some event => act index fuel (s.step event)

def cancel (s : Simulation) (index : Nat) : Simulation :=
  let next := s.step (.cancel index)
  { next with line := next.line ++ [.task index] }

end Simulation

structure Buffer where
  topic : String
  payload : ByteArray

structure Token where
  cancelled : Bool := false
  cancelAt : Option Nat := none

/-- What a future is to do. A publish refers to a buffer of its caller. -/
inductive Work where
  | publishFrom (buffer : Nat)
  | direct (job : Job)

namespace Work

def job (buffers : Nat → Buffer) : Work → Job
  | publishFrom b => .publish 0 (buffers b).topic (buffers b).payload
  | direct job => job

def spawns : Work → Bool
  | publishFrom _ => true
  | direct job => job.spawns

def reads (b : Nat) : Work → Bool
  | publishFrom own => own = b
  | direct _ => false

/-- The slot of a producer that is handed over with the call, before the work begins. -/
def takes? : Work → Option String
  | direct (.release slot) => some slot
  | _ => none

end Work

structure Client.Call where
  service : Nat
  work : Work
  token : Nat

inductive Stage where
  | unpolled
  /-- Waits for a task that runs by itself. -/
  | joining (task : Nat)
  /-- Runs a task by its own polls. -/
  | driving (task : Nat)
  | resolved (outcome : Outcome)
  | dropped

namespace Stage

def task? : Stage → Option Nat
  | joining task => some task
  | driving task => some task
  | _ => none

def isLive : Stage → Bool
  | unpolled => true
  | stage => stage.task?.isSome

end Stage

structure Future where
  call : Client.Call
  stage : Stage := .unpolled

/-- As long as a future is awaited, nobody else can write to what it refers to. -/
def Future.borrows (future : Future) (b : Nat) : Bool :=
  future.call.work.reads b && future.stage.isLive

/-- A simulation with the futures, buffers and tokens of a client. A task that was spawned has a
clone of the token it was called with. -/
structure Client where
  simulation : Simulation
  futures : List Future := []
  buffers : Nat → Buffer := fun _ => ⟨"", .empty⟩
  tokens : Nat → Token := fun _ => {}
  clones : List (Nat × Nat) := []

namespace Client

def world (c : Client) : World := c.simulation.world

def setStage (c : Client) (f : Nat) (stage : Stage) : Client :=
  { c with futures := c.futures.modify f fun future => { future with stage := stage } }

def call (c : Client) (call : Call) : Client :=
  { c with futures := c.futures ++ [{ call := call }] }

def outcome? (c : Client) (f : Nat) : Option Outcome :=
  match c.futures[f]? with
  | some ⟨_, .resolved outcome⟩ => some outcome
  | _ => none

def started (c : Client) (call : Call) : Simulation :=
  let token := c.tokens call.token
  (c.simulation.start call.service (call.work.job c.buffers) token.cancelled token.cancelAt).2

/-- Begins the work of a future. A publish is copied from its buffer, and runs from now on. -/
def begin (c : Client) (f : Nat) (call : Call) : Client :=
  let task := c.world.tasks.length
  let s := c.started call
  let begun := { c with simulation := s, clones := (call.token, task) :: c.clones }
  if task < s.world.tasks.length then
    if call.work.spawns then begun.setStage f (.joining task)
    else { begun with simulation := s.act task s.fuel }.setStage f (.driving task)
  else c

/-- A future resolves when its task has come to its end. -/
def settle (c : Client) (f : Nat) : Client :=
  match (c.futures[f]?).bind (·.stage.task?) with
  | none => c
  | some task =>
    match c.world.outcome? task with
    | none => c
    | some outcome => c.setStage f (.resolved outcome)

def poll (c : Client) (f : Nat) : Client :=
  match c.futures[f]? with
  | some ⟨call, .unpolled⟩ => (c.begin f call).settle f
  | _ => c.settle f

/-- Drops a future. A task that was spawned is detached and goes on; any other is dropped too. -/
def drop (c : Client) (f : Nat) : Client :=
  match c.futures[f]? with
  | some ⟨call, .unpolled⟩ =>
    match call.work.takes? with
    | none => c.setStage f .dropped
    | some slot => { c with simulation := c.simulation.step (.forget slot) }.setStage f .dropped
  | some ⟨_, .joining _⟩ => c.setStage f .dropped
  | some ⟨_, .driving task⟩ =>
    { c with simulation := c.simulation.quit task }.setStage f .dropped
  | _ => c

def write (c : Client) (b : Nat) (buffer : Buffer) : Client :=
  if c.futures.any (·.borrows b) then c
  else { c with buffers := fun k => if k = b then buffer else c.buffers k }

def cancel (c : Client) (token : Nat) : Client :=
  { c with
    tokens := fun k => if k = token then { c.tokens k with cancelled := true } else c.tokens k
    simulation := (c.clones.filter (·.1 = token)).foldl (fun s clone => s.cancel clone.2)
      c.simulation }

end Client

end OutcomeRelay
