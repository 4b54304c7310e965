import OutcomeRelay.Producer.CallLine

set_option autoImplicit false

/-!
# A producer on a line of blocking calls

The session of this producer begins, commits and aborts through one line of calls. A send first
waits for a parked call, whose outcome it drops, and then has its reply at once; closing waits for a
parked call. A caller that waits longer than the limit gives up.
-/

namespace OutcomeRelay

/-- The request that the producer is busy with. `sendReply` is the reply a send will have. -/
structure LineRequest where
  request : Request
  wait : CallLine.Wait
  sendReply : Reply
deriving DecidableEq

structure LineProducer where
  handle : Handle
  line : CallLine := {}
  busy : Option LineRequest := none
deriving DecidableEq

namespace LineProducer

def complete (p : LineProducer) (request : Request) (reply : Reply) : LineProducer × Option Reply :=
  ({ p with handle := p.handle.record request.operation reply, busy := none }, some reply)

/-- Waits for a parked call; without one the reply is at hand. -/
def afterSettling (p : LineProducer) (request : Request) (reply : Reply) :
    LineProducer × Option Reply :=
  match p.line.settle with
  | none => p.complete request reply
  | some wait => ({ p with busy := some ⟨request, wait, reply⟩ }, none)

def throughLine (p : LineProducer) (request : Request) : LineProducer × Option Reply :=
  match p.line.request request.operation with
  | (line, wait) => ({ p with line := line, busy := some ⟨request, wait, .ok ()⟩ }, none)

/-- A caller makes a request. A closed producer is not closed again. -/
def ask (p : LineProducer) (request : Request) (sendReply : Reply) : LineProducer × Option Reply :=
  if p.busy.isSome then (p, none)
  else match p.handle.refusal? request.operation with
    | some error => (p, some (.error error))
    | none => match request with
      | .close =>
        if p.handle.status = .closed then (p, some (.ok ())) else p.afterSettling request (.ok ())
      | .send _ _ => p.afterSettling request sendReply
      | _ => p.throughLine request

def LineRequest.reply (b : LineRequest) (outcome : Reply) : Reply :=
  match b.request with
  | .send _ _ => b.sendReply
  | .close => .ok ()
  | _ => outcome

def poll (p : LineProducer) : LineProducer × Option Reply :=
  match p.busy with
  | none => (p, none)
  | some b => match p.line.poll b.wait with
    | (line, .waiting wait) => ({ p with line := line, busy := some { b with wait := wait } }, none)
    | (line, .answered outcome) =>
      { p with line := line }.complete b.request (LineRequest.reply b outcome)

/-- The limit has passed: the caller gives up, and a call in flight stays parked. -/
def expire (p : LineProducer) : LineProducer × Option Reply :=
  match p.busy with
  | none => (p, none)
  | some b => match b.request with
    | .close => p.complete .close (.ok ())
    | request => p.complete request (p.handle.verdict none)

def finish (p : LineProducer) (call : Nat) (outcome : CallOutcome) : LineProducer :=
  { p with line := p.line.finish call outcome }

end LineProducer

end OutcomeRelay
