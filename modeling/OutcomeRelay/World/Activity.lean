import OutcomeRelay.Outcome.Report
import OutcomeRelay.Producer.Pool
import OutcomeRelay.Publish.Transaction

set_option autoImplicit false

namespace OutcomeRelay

structure Service where
  options : ProducerOptions
  retry : Backoff
  creation : Backoff
  topic : String
  pool : Pool := {}
deriving DecidableEq

inductive Outcome where
  | published (result : PublishResult)
  | rejected (error : OutcomeError)
  | lent (result : Except PoolError String)
  | returned
  | drained (closed : Nat)
  | replied (reply : Reply)
  | crashed (text : String)
  /-- It was given up before it had come to its end. -/
  | dropped
deriving DecidableEq

inductive Purpose where
  | publish (topic : String) (payload : ByteArray)
  | lend (slot : String)
deriving DecidableEq

/-- What one task does with a pool and its producers. It waits for one thing at a time, and each
signal takes it to what it waits for next. -/
inductive Activity where
  /-- Waits some milliseconds before it borrows. -/
  | waiting (millis : Nat) (purpose : Purpose)
  | borrowing (purpose : Purpose)
  | creating (purpose : Purpose) (id : String) (creation : Creation)
  | transacting (transaction : Transaction)
  | returning (handle : Handle) (outcome : Outcome)
  /-- Closes a producer that the pool does not keep, and counts it if it is discarded. -/
  | retiring (handle : Handle) (discarded : Bool) (outcome : Outcome)
  | draining (handles : List Handle) (closed : Nat)
  | operating (slot : String) (handle : Handle) (request : Request)
  | making (slot : String) (id : String) (attempt : Attempt)
  | ended (outcome : Outcome)
deriving DecidableEq

/-- What a signal leads to: the activity, the pool, and a producer that is put into a slot. -/
structure Move where
  activity : Activity
  pool : Pool
  lent : Option (String × Handle) := none
deriving DecidableEq

namespace Activity

def closeDemand (handle : Handle) : Demand :=
  if handle.status = .closed then .turn
  else .answer handle.session handle.id .close (some handle.limit)

def demand (service : Service) : Activity → Demand
  | waiting millis _ => .pause (.ofMillis millis) false
  | borrowing _ => .turn
  | creating _ id creation =>
    creation.demand id service.options.operationLimit service.creation
  | transacting transaction => transaction.demand service.retry
  | returning _ _ => .turn
  | retiring handle _ _ => closeDemand handle
  | draining [] _ => .turn
  | draining (handle :: _) _ => closeDemand handle
  | operating _ handle request =>
    if request = .close then closeDemand handle
    else if handle.status.permits request.operation then
      .answer handle.session handle.id request (some handle.limit)
    else .turn
  | making _ id attempt => attempt.demand id service.options.operationLimit
  | ended _ => .rest

def outcome? : Activity → Option Outcome
  | ended outcome => some outcome
  | _ => none

def begin (millis : Nat) (purpose : Purpose) : Activity :=
  if millis = 0 then borrowing purpose else waiting millis purpose

def isWaiting : Activity → Bool
  | waiting _ _ => true
  | _ => false

def serve (pool : Pool) (handle : Handle) : Purpose → Move
  | .publish topic payload =>
    { activity := transacting { handle := handle, topic := topic, payload := payload }
      pool := pool }
  | .lend slot =>
    { activity := ended (.lent (.ok handle.id)), pool := pool, lent := some (slot, handle) }

def refuse (pool : Pool) (error : PoolError) : Purpose → Move
  | .publish _ _ => { activity := ended (.published (.error (.pool error))), pool := pool }
  | .lend _ => { activity := ended (.lent (.error error)), pool := pool }

def afterCreation (service : Service) (pool : Pool) (purpose : Purpose) (id : String) :
    Creation.Next → Move
  | .ongoing creation => { activity := creating purpose id creation, pool := pool }
  | .made session => serve pool.countCreated (Attempt.handle service.options id session) purpose
  | .failed error => refuse pool error purpose

/-- Looks for an idle producer and starts to create one if there is none. -/
def borrow (service : Service) (cancelled : Bool) (purpose : Purpose) : Move :=
  match service.pool.lookup service.options.baseId with
  | (.closed, pool) => refuse pool .closed purpose
  | (.hit handle, pool) => serve pool handle purpose
  | (.miss id, pool) => afterCreation service pool purpose id (Creation.begin cancelled 0)

def afterTransaction (pool : Pool) (transaction : Transaction) : Move :=
  match transaction.result? with
  | none => { activity := transacting transaction, pool := pool }
  | some result => { activity := returning transaction.handle (.published result), pool := pool }

def giveBack (pool : Pool) (handle : Handle) (outcome : Outcome) : Move :=
  match pool.giveBack handle with
  | (.kept, pool) => { activity := ended outcome, pool := pool }
  | (.discard, pool) => { activity := retiring handle true outcome, pool := pool }
  | (.close, pool) => { activity := retiring handle false outcome, pool := pool }

def afterRetiring (pool : Pool) (discarded : Bool) (outcome : Outcome) : Move :=
  { activity := ended outcome, pool := if discarded then pool.countDiscarded else pool }

def replyOf : Signal → Option Reply
  | .answered reply => some reply
  | _ => none

/-- A lent producer has been used and goes back to its slot. Closing has no reply of its own. -/
def afterOperating (pool : Pool) (slot : String) (handle : Handle) (request : Request)
    (answer : Option Reply) : Move :=
  match handle.perform request answer with
  | (reply, handle) =>
    { activity := ended (.replied (if request = .close then .ok () else reply))
      pool := pool
      lent := some (slot, handle) }

def afterMaking (service : Service) (slot id : String) : Attempt.Next → Move
  | .ongoing attempt => { activity := making slot id attempt, pool := service.pool }
  | .made session =>
    { activity := ended (.replied (.ok ()))
      pool := service.pool
      lent := some (slot, Attempt.handle service.options id session) }
  | .failed error => { activity := ended (.replied (.error error)), pool := service.pool }

def resume (service : Service) (cancelled : Bool) (activity : Activity) (signal : Signal) : Move :=
  match activity with
  | waiting _ purpose => { activity := borrowing purpose, pool := service.pool }
  | borrowing purpose => borrow service cancelled purpose
  | creating purpose id creation =>
    afterCreation service service.pool purpose id
      (creation.resume service.options.operationLimit service.creation cancelled signal)
  | transacting transaction =>
    afterTransaction service.pool (transaction.resume service.retry cancelled signal)
  | returning handle outcome => giveBack service.pool handle outcome
  | retiring _ discarded outcome => afterRetiring service.pool discarded outcome
  | draining [] closed => { activity := ended (.drained closed), pool := service.pool }
  | draining (_ :: handles) closed => { activity := draining handles closed, pool := service.pool }
  | operating slot handle request =>
    afterOperating service.pool slot handle request (replyOf signal)
  | making slot id attempt =>
    afterMaking service slot id (attempt.resume service.options.operationLimit signal)
  | ended outcome => { activity := ended outcome, pool := service.pool }

end Activity

end OutcomeRelay
