import OutcomeRelay.Scenario.Line

set_option autoImplicit false

namespace OutcomeRelay.Scenario

namespace SlowProducer

/-- As in the scripts for a line alone, a step may hold its call. Here the caller does not give up
of its own: the limit of the producer passes once the call of the step has started, or while it
waits for a call that is held. -/
inductive Step where
  | ask (request : Request) (outcome : CallOutcome) (hold : Bool)
  | markFatal (hold : Bool)
  | release

structure Seen where
  result : Reply
  status : Status
  issued : List Nat

structure State where
  producer : LineProducer
  track : LineTrack := {}

namespace State

def letGo (s : State) : State :=
  match Scenario.letGo s.track s.producer.line with
  | (track, line) => ⟨{ s.producer with line := line }, track⟩

def moveTo (s : State) (step : Nat) (producer : LineProducer) : State :=
  ⟨producer, s.track.note step s.producer.line producer.line⟩

def noteSend (s : State) (step : Nat) : State :=
  { s with track := { s.track with issued := s.track.issued ++ [step] } }

def giveUp (s : State) (step : Nat) : State × Reply :=
  match s.producer.expire with
  | (producer, reply) => (s.moveTo step producer, reply.getD (.ok ()))

/-- The producer waits for its own call: the call is held until the caller has given up, or it ends
at once. -/
def awaitOwn (s : State) (step : Nat) (outcome : CallOutcome) (hold : Bool) : State × Reply :=
  match s.producer.line.inFlight with
  | none => s.giveUp step
  | some call =>
    if hold then { s with track := { s.track with held := some (call, outcome) } }.giveUp step
    else match (s.producer.finish call outcome).poll with
      | (producer, some reply) => (s.moveTo step producer, reply)
      | (producer, none) => (s.moveTo step producer).giveUp step

def goOn (s : State) (step : Nat) (request : Request) (outcome : CallOutcome) (hold : Bool) :
    State × Reply :=
  match s.producer.busy with
  | none => s.giveUp step
  | some b =>
    if b.wait = .own then s.awaitOwn step outcome hold
    else if isHeld s.track s.producer.line then s.giveUp step
    else match s.producer.poll with
      | (producer, some reply) =>
        let s := s.moveTo step producer
        (if request.operation = .send then s.noteSend step else s, reply)
      | (producer, none) => (s.moveTo step producer).awaitOwn step outcome hold

def ask (s : State) (step : Nat) (request : Request) (outcome : CallOutcome) (hold : Bool) :
    State × Reply :=
  let permitted := s.producer.handle.status.permits request.operation
  match s.producer.ask request outcome.reply with
  | (producer, some reply) =>
    let s := s.moveTo step producer
    (if permitted && request.operation = .send then s.noteSend step else s, reply)
  | (producer, none) => (s.moveTo step producer).goOn step request outcome hold

def perform (s : State) (number : Nat) : Step → State × Reply
  | .ask request outcome hold => (if hold then s else s.letGo).ask number request outcome hold
  | .markFatal hold =>
    let s := if hold then s else s.letGo
    ({ s with producer := { s.producer with handle := s.producer.handle.markFatal } }, .ok ())
  | .release => (s.letGo, .ok ())

end State

def start (limit : Span) : State :=
  ⟨{ handle := { session := 0, brokers := [], id := "svc-1", limit := limit } }, {}⟩

def play (s : State) (number : Nat) : List Step → List Seen × Nat
  | [] => ([], s.track.peak)
  | step :: rest =>
    match s.perform number step with
    | (s, result) =>
      match play s (number + 1) rest with
      | (seen, peak) => (⟨result, s.producer.handle.status, s.track.issued⟩ :: seen, peak)

end SlowProducer

end OutcomeRelay.Scenario
