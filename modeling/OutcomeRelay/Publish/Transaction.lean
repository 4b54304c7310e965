import OutcomeRelay.Publish.Error

set_option autoImplicit false

/-!
# One record in one transaction

A transaction begins, sends its record and commits. A soft failure of the send or the commit is
tried again after a pause; an abortable one, a used-up budget or a cancellation leads to the abort,
which nothing interrupts; a fatal one ends the transaction where it stands. When a transaction has
ended, its handle is ready for the next one or fatal.
-/

namespace OutcomeRelay

namespace Transaction

inductive Step where
  | send
  | commit
deriving DecidableEq

/-- How far a transaction has come; `failures` counts the soft failures of its present step. -/
inductive Phase where
  | beginning
  | performing (step : Step) (failures : UInt32)
  | pausing (step : Step) (failures : UInt32)
  | aborting (reason : PublishError) (failures : UInt32)
  | abortPausing (reason : PublishError) (failures : UInt32)
  | ended (result : PublishResult)
deriving DecidableEq

end Transaction

structure Transaction where
  handle : Handle
  topic : String
  payload : ByteArray
  phase : Transaction.Phase := .beginning
deriving DecidableEq

namespace Transaction

def stepRequest (t : Transaction) : Step → Request
  | .send => .send t.topic t.payload
  | .commit => .commit

def request? (t : Transaction) : Option Request :=
  match t.phase with
  | .beginning => some .begin
  | .performing step _ => some (t.stepRequest step)
  | .aborting _ _ => some .abort
  | _ => none

/-- A request that the status does not permit is not made; its refusal is at hand. -/
def demand (retry : Backoff) (t : Transaction) : Demand :=
  match t.phase with
  | .pausing _ failures => .pause (retry.delayFor failures) true
  | .abortPausing _ failures => .pause (retry.delayFor failures) false
  | .ended _ => .rest
  | _ => match t.request? with
    | none => .rest
    | some request =>
      if t.handle.status.permits request.operation then
        .answer t.handle.session t.handle.id request (some t.handle.limit)
      else .turn

def enter (t : Transaction) (phase : Phase) : Transaction := { t with phase := phase }

def finish (t : Transaction) (error : PublishError) : Transaction := t.enter (.ended (.error error))

def startAbort (t : Transaction) (reason : PublishError) : Transaction :=
  t.enter (.aborting reason 0)

def afterBegin (t : Transaction) : Reply → Transaction
  | .ok () => t.enter (.performing .send 0)
  | .error error =>
    if t.handle.status = .fatal then t.finish (.fatal t.handle.id error)
    else t.finish (.begin error)

def afterFailure (retry : Backoff) (t : Transaction) (step : Step) (failures : UInt32)
    (error : BrokerError) : Transaction :=
  match t.handle.status with
  | .fatal => t.finish (.fatal t.handle.id error)
  | .abortable => t.startAbort (.aborted error)
  | _ =>
    if retry.canRetry (failures + 1) then t.enter (.pausing step (failures + 1))
    else t.startAbort (.retriesExhausted (failures + 1 - 1) error)

/-- What the answer to the send or the commit leads to. A cancellation that came before the first
commit is heeded here. -/
def afterStep (retry : Backoff) (cancelled : Bool) (t : Transaction) (step : Step)
    (failures : UInt32) : Reply → Transaction
  | .error error => t.afterFailure retry step failures error
  | .ok () => match step with
    | .send => if cancelled then t.startAbort .cancelled else t.enter (.performing .commit 0)
    | .commit => t.enter (.ended (.ok ()))

/-- What the answer to the abort leads to. An abort that keeps failing leaves the handle fatal. -/
def afterAbort (retry : Backoff) (t : Transaction) (reason : PublishError) (failures : UInt32) :
    Reply → Transaction
  | .ok () => t.finish reason
  | .error error =>
    if t.handle.status = .fatal then t.finish (.fatal t.handle.id error)
    else if !t.handle.status.permits .abort then t.finish reason
    else if retry.canRetry (failures + 1) then t.enter (.abortPausing reason (failures + 1))
    else { t with handle := t.handle.markFatal }.finish reason

def afterReply (retry : Backoff) (cancelled : Bool) (t : Transaction) (reply : Reply) :
    Transaction :=
  match t.phase with
  | .beginning => t.afterBegin reply
  | .performing step failures => t.afterStep retry cancelled step failures reply
  | .aborting reason failures => t.afterAbort retry reason failures reply
  | _ => t

/-- The outstanding request has been answered, or was not answered within the limit. -/
def settle (retry : Backoff) (cancelled : Bool) (t : Transaction) (answer : Option Reply) :
    Transaction :=
  match t.request? with
  | none => t
  | some request =>
    match t.handle.perform request answer with
    | (reply, handle) => { t with handle := handle }.afterReply retry cancelled reply

def resume (retry : Backoff) (cancelled : Bool) (t : Transaction) (signal : Signal) : Transaction :=
  match t.phase, signal with
  | .pausing step failures, .resumed =>
    if cancelled then t.startAbort .cancelled else t.enter (.performing step failures)
  | .abortPausing reason failures, .resumed => t.enter (.aborting reason failures)
  | _, .answered reply => t.settle retry cancelled (some reply)
  | _, .silence => t.settle retry cancelled none
  | _, .resumed => if t.demand retry = .turn then t.settle retry cancelled none else t
  | _, .opened _ => t

def result? (t : Transaction) : Option PublishResult :=
  match t.phase with
  | .ended result => some result
  | _ => none

end Transaction

end OutcomeRelay
