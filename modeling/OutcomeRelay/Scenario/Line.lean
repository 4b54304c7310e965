import OutcomeRelay.Producer.LineProducer

set_option autoImplicit false

namespace OutcomeRelay.Scenario

/-- What a script keeps track of: the call that is held, with the outcome it will have, the numbers
of the steps that issued something, and the most calls that ever ran at once. -/
structure LineTrack where
  held : Option (Nat × CallOutcome) := none
  issued : List Nat := []
  peak : Nat := 0

namespace LineTrack

def note (t : LineTrack) (step : Nat) (before after : CallLine) : LineTrack :=
  { t with
    issued := if before.calls.length < after.calls.length then t.issued ++ [step] else t.issued
    peak := max t.peak after.running }

end LineTrack

def isHeld (t : LineTrack) (line : CallLine) : Bool :=
  match t.held with
  | none => false
  | some (call, _) => line.inFlight = some call

def letGo (t : LineTrack) (line : CallLine) : LineTrack × CallLine :=
  match t.held with
  | none => (t, line)
  | some (call, outcome) => ({ t with held := none }, line.finish call outcome)

namespace Line

/-- A step may hold its call, which then runs until a later step lets it go. The caller of a step
that holds gives up as soon as it would have to wait for a call that is held. -/
inductive Step where
  | run (operation : Operation) (outcome : CallOutcome) (hold : Bool)
  | settle (hold : Bool)
  | release

inductive Result where
  | nothing
  | abandoned
  | released
  | reply (reply : Reply)

structure Seen where
  result : Result
  idle : Bool
  issued : List Nat

structure State where
  line : CallLine := {}
  track : LineTrack := {}

namespace State

def seen (s : State) (result : Result) : Seen := ⟨result, s.line.isIdle, s.track.issued⟩

def letGo (s : State) : State :=
  match Scenario.letGo s.track s.line with
  | (track, line) => ⟨line, track⟩

def moveTo (s : State) (step : Nat) (line : CallLine) : State :=
  ⟨line, s.track.note step s.line line⟩

def awaitOwn (s : State) (outcome : CallOutcome) (hold : Bool) : State × Result :=
  match s.line.inFlight with
  | none => (s, .abandoned)
  | some call =>
    if hold then ({ s with track := { s.track with held := some (call, outcome) } }, .abandoned)
    else match (s.line.finish call outcome).poll .own with
      | (line, .answered reply) => ({ s with line := line }, .reply reply)
      | (line, .waiting _) => ({ s with line := line }, .abandoned)

def run (s : State) (step : Nat) (operation : Operation) (outcome : CallOutcome) (hold : Bool) :
    State × Result :=
  match s.line.request operation with
  | (line, .own) => (s.moveTo step line).awaitOwn outcome hold
  | (line, wait) =>
    if isHeld s.track line then (s, .abandoned)
    else match line.poll wait with
      | (line, .answered reply) => (s.moveTo step line, .reply reply)
      | (line, .waiting _) => (s.moveTo step line).awaitOwn outcome hold

def settle (s : State) (step : Nat) : State × Result :=
  match s.line.settle with
  | none => (s, .nothing)
  | some wait =>
    if isHeld s.track s.line then (s, .abandoned)
    else match s.line.poll wait with
      | (line, .answered reply) => (s.moveTo step line, .reply reply)
      | (_, .waiting _) => (s, .abandoned)

def perform (s : State) (number : Nat) : Step → State × Result
  | .run operation outcome hold =>
    (if hold then s else s.letGo).run number operation outcome hold
  | .settle hold => (if hold then s else s.letGo).settle number
  | .release => (s.letGo, .released)

end State

def play (s : State) (number : Nat) : List Step → List Seen × Nat
  | [] => ([], s.track.peak)
  | step :: rest =>
    match s.perform number step with
    | (s, result) =>
      match play s (number + 1) rest with
      | (seen, peak) => (s.seen result :: seen, peak)

end Line

end OutcomeRelay.Scenario
