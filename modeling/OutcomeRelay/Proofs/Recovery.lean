import OutcomeRelay.Proofs.Conclusion

set_option autoImplicit false

/-!
# How a transaction recovers

A transaction is left alone with a session whose answers are fixed beforehand. What it then comes to
is given here without its phases and counters: each request is made until a reply decides, and what
follows is told by that reply. Main statement: a transaction that nobody cancels ends with just this
result, leaves its handle with just this status and has done just that.
-/

namespace OutcomeRelay

def BrokerError.isSoft (e : BrokerError) : Bool :=
  match e.kind with
  | .unreachable | .retriable | .illegalState => true
  | .abortable | .fatal => false

namespace Status

variable {s : Status} {operation : Operation} {error : BrokerError}

theorem after_of_soft (s : Status) (unclosed : operation ≠ .close) (soft : error.isSoft = true) :
    s.after operation (.error error) = s := by
  unfold after
  rw [if_neg unclosed]
  split
  · rfl
  · cases error with
    | unreachable | retriable | illegalState => cases operation <;> rfl
    | abortable | fatal => simp [BrokerError.isSoft, BrokerError.kind] at soft

theorem after_of_alive (s : Status) (aside : operation = .begin ∨ operation = .abort)
    (alive : error.isFatal = false) : s.after operation (.error error) = s := by
  cases error with
  | fatal => simp [BrokerError.isFatal, BrokerError.kind] at alive
  | _ => rcases aside with rfl | rfl <;> cases s <;> rfl

theorem after_of_fatal (going : s.isTerminal = false) (unclosed : operation ≠ .close)
    (fatal : error.isFatal = true) : s.after operation (.error error) = .fatal := by
  unfold after
  rw [if_neg unclosed, going]
  cases error with
  | fatal => rfl
  | _ => simp [BrokerError.isFatal, BrokerError.kind] at fatal

theorem eq_of_permits_abort (h : s.permits .abort = true) :
    s = .inTransaction ∨ s = .abortable := by
  cases s <;> simp [permits] at h ⊢

end Status

namespace Transaction

/-- What a transaction does: it asks its session for something, or it waits. -/
inductive Act where
  | call (request : Request)
  | pause (length : Span)
deriving DecidableEq

def Act.request? : Act → Option Request
  | call request => some request
  | pause _ => none

def requests (acts : List Act) : List Request := acts.filterMap Act.request?

def asked (acts : List Act) (operation : Operation) : Nat :=
  (requests acts).countP (·.operation = operation)

/-- What a session answers to each operation, for the first call of it, the second and so on. There
may be no answer within the limit. -/
abbrev Answers := Operation → Nat → Option Reply

/-- The replies that count. No answer counts as a failure that may be tried again. -/
def replies (handle : Handle) (answers : Answers) (operation : Operation) (k : Nat) : Reply :=
  handle.verdict (answers operation k)

/-! ### Alone with a session -/

structure Exchange where
  transaction : Transaction
  acts : List Act := []

namespace Exchange

def signal : Option Reply → Signal
  | some reply => .answered reply
  | none => .silence

def next (retry : Backoff) (answers : Answers) (x : Exchange) : Exchange :=
  match x.transaction.demand retry with
  | .answer _ _ request _ =>
    let answer := answers request.operation (asked x.acts request.operation)
    ⟨x.transaction.resume retry false (signal answer), x.acts ++ [.call request]⟩
  | .pause length _ => ⟨x.transaction.resume retry false .resumed, x.acts ++ [.pause length]⟩
  | .turn => ⟨x.transaction.resume retry false .resumed, x.acts⟩
  | .connection _ _ | .rest => x

end Exchange

/-! ### What a transaction comes to -/

/-- How a transaction comes to its end. -/
structure Recovery where
  result : PublishResult
  status : Status
  acts : List Act := []
deriving DecidableEq

def Recovery.after (first : List Act) (r : Recovery) : Recovery :=
  { r with acts := first ++ r.acts }

def failing (retry : Backoff) (request : Request) (n : Nat) : List Act :=
  (List.range n).flatMap fun k => [.call request, .pause (retry.delayFor (.ofNat (k + 1)))]

def attempts (retry : Backoff) (request : Request) (n : Nat) : List Act :=
  failing retry request n ++ [.call request]

def decides (again : BrokerError → Bool) : Reply → Bool
  | .ok () => true
  | .error error => !again error

/-- How many replies come before the first one that decides, or before the last one that the budget
allows. -/
def repeated (retries : UInt32) (again : BrokerError → Bool) (replies : Nat → Reply) : Nat :=
  (List.range retries.toNat).findIdx fun k => decides again (replies k)

section Reference

variable (retry : Backoff) (handle : Handle) (answers : Answers)

def onAbort (reason : PublishError) : Reply → Recovery
  | .ok () => { result := .error reason, status := .ready }
  | .error error =>
    if error.isFatal then { result := .error (.fatal handle.id error), status := .fatal }
    else { result := .error reason, status := .fatal }

def abortion (reason : PublishError) : Recovery :=
  let heard := replies handle answers .abort
  let n := repeated retry.retries (!·.isFatal) heard
  (onAbort handle reason (heard n)).after (attempts retry .abort n)

def onStep (success : Recovery) : Reply → Recovery
  | .ok () => success
  | .error error =>
    match error.kind with
    | .fatal => { result := .error (.fatal handle.id error), status := .fatal }
    | .abortable => abortion retry handle answers (.aborted error)
    | .unreachable | .retriable | .illegalState =>
      abortion retry handle answers (.retriesExhausted retry.retries error)

def completion (request : Request) (success : Recovery) : Recovery :=
  let heard := replies handle answers request.operation
  let n := repeated retry.retries BrokerError.isSoft heard
  (onStep retry handle answers success (heard n)).after (attempts retry request n)

def onBegin (success : Recovery) : Reply → Recovery
  | .ok () => success
  | .error error =>
    if error.isFatal then { result := .error (.fatal handle.id error), status := .fatal }
    else { result := .error (.begin error), status := .ready }

/-- What a transaction that nobody cancels comes to. -/
def recovery (topic : String) (payload : ByteArray) : Recovery :=
  let committed := completion retry handle answers .commit { result := .ok (), status := .ready }
  let begun := completion retry handle answers (.send topic payload) committed
  (onBegin handle begun (replies handle answers .begin 0)).after [.call .begin]

end Reference

/-! ### What has been asked for -/

variable {retry : Backoff} {answers : Answers} {request : Request} {operation : Operation}
  {acts more : List Act} {t u : Transaction} {x : Exchange} {status : Status} {phase : Phase}

@[simp] theorem requests_append : requests (acts ++ more) = requests acts ++ requests more :=
  List.filterMap_append

@[simp] theorem requests_call : requests [.call request] = [request] := rfl

theorem failing_succ (retry : Backoff) (request : Request) (n : Nat) :
    failing retry request (n + 1) =
      failing retry request n ++ [.call request, .pause (retry.delayFor (.ofNat (n + 1)))] := by
  simp [failing, List.range_succ]

@[simp] theorem requests_failing (n : Nat) :
    requests (failing retry request n) = List.replicate n request := by
  induction n with
  | zero => rfl
  | succ n ih =>
    rw [failing_succ, requests_append, ih, List.replicate_succ']
    rfl

@[simp] theorem requests_attempts (n : Nat) :
    requests (attempts retry request n) = List.replicate (n + 1) request := by
  simp [attempts, List.replicate_succ']

@[simp] theorem asked_append :
    asked (acts ++ more) operation = asked acts operation + asked more operation := by
  simp [asked]

theorem asked_failing (n : Nat) : asked (failing retry request n) request.operation = n := by
  simp [asked, List.countP_replicate]

theorem asked_attempts (n : Nat) (other : request.operation ≠ operation) :
    asked (attempts retry request n) operation = 0 := by
  simp [asked, List.countP_replicate, other]

/-! ### From act to act -/

def Leads (retry : Backoff) (answers : Answers) (x : Exchange) (acts : List Act)
    (t : Transaction) : Prop :=
  (Exchange.next retry answers)^[acts.length] x = ⟨t, x.acts ++ acts⟩

theorem Leads.refl (t : Transaction) (acts : List Act) : Leads retry answers ⟨t, acts⟩ [] t := by
  simp [Leads]

theorem Leads.trans (first : Leads retry answers x acts t)
    (second : Leads retry answers ⟨t, x.acts ++ acts⟩ more u) :
    Leads retry answers x (acts ++ more) u := by
  unfold Leads at *
  rw [List.length_append, Nat.add_comm, Function.iterate_add_apply, first, second,
    List.append_assoc]

def placed (t : Transaction) (status : Status) (phase : Phase) : Transaction :=
  { t with handle := { t.handle with status := status }, phase := phase }

def heeding (t : Transaction) (retry : Backoff) (status : Status) (phase : Phase)
    (request : Request) (reply : Reply) : Transaction :=
  (t.placed (status.after request.operation reply) phase).afterReply retry false reply

theorem leads_call (hr : (t.placed status phase).request? = some request)
    (permitted : status.permits request.operation = true) {k : Nat}
    (count : asked acts request.operation = k) :
    Leads retry answers ⟨t.placed status phase, acts⟩ [.call request]
      (t.heeding retry status phase request (replies t.handle answers request.operation k)) := by
  have demand := demand_of_request hr permitted retry
  obtain ⟨answered, unanswered⟩ := resume_of_request hr retry false
  have resumed (answer : Option Reply) :
      (t.placed status phase).resume retry false (Exchange.signal answer) =
        t.heeding retry status phase request (t.handle.verdict answer) := by
    have settled := settle_of_request hr permitted retry false answer
    cases answer with
    | none => exact unanswered.trans settled
    | some reply => exact (answered reply).trans settled
  simp [Leads, Exchange.next, demand, resumed, replies, count]

theorem leads_pause {length : Span} {cancellable : Bool}
    (demand : t.demand retry = .pause length cancellable) :
    Leads retry answers ⟨t, acts⟩ [.pause length] (t.resume retry false .resumed) := by
  simp [Leads, Exchange.next, demand]

/-! ### Repetitions -/

section Repeated

variable {retries : UInt32} {again : BrokerError → Bool} {heard : Nat → Reply}
  {error : BrokerError} {k : Nat}

theorem repeated_le (retries : UInt32) (again : BrokerError → Bool) (heard : Nat → Reply) :
    repeated retries again heard ≤ retries.toNat := by
  have bound : repeated retries again heard ≤ (List.range retries.toNat).length :=
    List.findIdx_le_length
  simpa using bound

theorem again_of_lt_repeated (h : k < repeated retries again heard) :
    ∃ error, heard k = .error error ∧ again error = true := by
  have passed : decides again (heard k) = false := by
    simpa only [List.getElem_range] using List.not_of_lt_findIdx h
  cases answer : heard k with
  | ok _ => simp [answer, decides] at passed
  | error error => exact ⟨error, rfl, by simpa [answer, decides] using passed⟩

theorem repeated_eq (last : heard (repeated retries again heard) = .error error)
    (more : again error = true) : repeated retries again heard = retries.toNat := by
  refine Nat.le_antisymm (repeated_le _ _ _) (Nat.not_lt.mp fun less => ?_)
  have inside : repeated retries again heard < (List.range retries.toNat).length := by
    simpa using less
  have decided : decides again (heard (List.range retries.toNat)[repeated retries again heard]) =
      true := List.findIdx_getElem (w := inside)
  rw [List.getElem_range, last] at decided
  simp [decides, more] at decided

end Repeated

theorem canRetry_ofNat {k : Nat} (within : k ≤ retry.retries.toNat)
    (finite : retry.retries.toNat + 1 < UInt32.size) :
    retry.canRetry (.ofNat k + 1) = decide (k < retry.retries.toNat) := by
  have small : k < UInt32.size := by omega
  -- A budget below the largest number keeps the counter from running over.
  have count : (UInt32.ofNat k + 1).toNat = k + 1 := by
    rw [UInt32.toNat_add, UInt32.toNat_ofNat_of_lt' small, UInt32.toNat_one]
    exact Nat.mod_eq_of_lt (Nat.lt_of_le_of_lt (Nat.succ_le_succ within) finite)
  rw [Backoff.canRetry, decide_eq_decide, UInt32.le_iff_toNat_le, count]
  exact Nat.succ_le_iff

/-- A request that is made again, after a pause, if it fails in a certain way. -/
structure Repeats (t : Transaction) (retry : Backoff) (status : Status) (request : Request)
    (again : BrokerError → Bool) (calling waiting : UInt32 → Phase) : Prop where
  asks : ∀ failures, (t.placed status (calling failures)).request? = some request
  permitted : status.permits request.operation = true
  fails : ∀ failures error, again error = true → retry.canRetry (failures + 1) = true →
    t.heeding retry status (calling failures) request (.error error) =
      t.placed status (waiting (failures + 1))
  pauses : ∀ failures, ∃ cancellable,
    (t.placed status (waiting failures)).demand retry =
      .pause (retry.delayFor failures) cancellable
  resumes : ∀ failures, (t.placed status (waiting failures)).resume retry false .resumed =
    t.placed status (calling failures)

namespace Repeats

variable {again : BrokerError → Bool} {calling waiting : UInt32 → Phase} {error : BrokerError}

theorem leads_again (h : t.Repeats retry status request again calling waiting) {k : Nat}
    (count : asked acts request.operation = k) (within : k < retry.retries.toNat)
    (finite : retry.retries.toNat + 1 < UInt32.size)
    (heard : replies t.handle answers request.operation k = .error error)
    (more : again error = true) :
    Leads retry answers ⟨t.placed status (calling (.ofNat k)), acts⟩
      [.call request, .pause (retry.delayFor (.ofNat (k + 1)))]
      (t.placed status (calling (.ofNat (k + 1)))) := by
  have allowed : retry.canRetry (.ofNat k + 1) = true := by
    simpa [canRetry_ofNat within.le finite] using within
  have called : Leads retry answers ⟨t.placed status (calling (.ofNat k)), acts⟩ [.call request]
      (t.placed status (waiting (.ofNat k + 1))) := by
    rw [← h.fails _ error more allowed, ← heard]
    exact leads_call (h.asks _) h.permitted count
  obtain ⟨cancellable, demand⟩ := h.pauses (.ofNat k + 1)
  have next : UInt32.ofNat (k + 1) = .ofNat k + 1 := UInt32.ofNat_add k 1
  rw [next, ← h.resumes (.ofNat k + 1)]
  exact called.trans (leads_pause demand)

/-- The request is made until a reply decides, or until the budget is used up. -/
theorem leads (h : t.Repeats retry status request again calling waiting)
    (unasked : asked acts request.operation = 0)
    (finite : retry.retries.toNat + 1 < UInt32.size) {n : Nat}
    (count : repeated retry.retries again (replies t.handle answers request.operation) = n) :
    Leads retry answers ⟨t.placed status (calling 0), acts⟩ (attempts retry request n)
      (t.heeding retry status (calling (.ofNat n)) request
        (replies t.handle answers request.operation n)) := by
  -- The number of calls so far is both the count in the phase and the place of the next answer.
  have before (k : Nat) : asked (acts ++ failing retry request k) request.operation = k := by
    rw [asked_append, unasked, asked_failing, Nat.zero_add]
  have failed (k : Nat) (early : k ≤ n) :
      Leads retry answers ⟨t.placed status (calling 0), acts⟩ (failing retry request k)
        (t.placed status (calling (.ofNat k))) := by
    induction k with
    | zero => exact .refl _ _
    | succ k ih =>
      obtain ⟨error, heard, more⟩ := again_of_lt_repeated (count ▸ early)
      have within : k < retry.retries.toNat := Nat.lt_of_lt_of_le early (count ▸ repeated_le _ _ _)
      rw [failing_succ]
      exact (ih (Nat.le_of_succ_le early)).trans (h.leads_again (before k) within finite heard more)
  exact (failed n (Nat.le_refl n)).trans (leads_call (h.asks _) h.permitted (before n))

end Repeats

variable {step : Step} {error : BrokerError} {reason : PublishError} {failures : UInt32}

theorem stepRequest_unclosed (t : Transaction) (step : Step) :
    (t.stepRequest step).operation ≠ .close := by
  cases step <;> simp [stepRequest, Request.operation]

theorem heeding_of_soft (soft : error.isSoft = true) :
    t.heeding retry .inTransaction (.performing step failures) (t.stepRequest step)
        (.error error) =
      if retry.canRetry (failures + 1) then
        t.placed .inTransaction (.pausing step (failures + 1))
      else t.placed .inTransaction (.aborting (.retriesExhausted (failures + 1 - 1) error) 0) := by
  rw [heeding, Status.after_of_soft _ (stepRequest_unclosed t step) soft]
  rfl

theorem heeding_of_alive (permitted : status.permits .abort = true)
    (alive : error.isFatal = false) :
    t.heeding retry status (.aborting reason failures) .abort (.error error) =
      if retry.canRetry (failures + 1) then
        t.placed status (.abortPausing reason (failures + 1))
      else t.placed .fatal (.ended (.error reason)) := by
  rw [heeding, Request.operation, Status.after_of_alive _ (.inr rfl) alive]
  rcases Status.eq_of_permits_abort permitted with rfl | rfl <;> rfl

theorem repeats_step (t : Transaction) (retry : Backoff) (step : Step) :
    t.Repeats retry .inTransaction (t.stepRequest step) BrokerError.isSoft (.performing step)
      (.pausing step) where
  asks _ := rfl
  permitted := by cases step <;> rfl
  fails _ _ soft allowed := (heeding_of_soft soft).trans (if_pos allowed)
  pauses _ := ⟨true, rfl⟩
  resumes _ := rfl

theorem repeats_abort (t : Transaction) (retry : Backoff) (reason : PublishError)
    (permitted : status.permits .abort = true) :
    t.Repeats retry status .abort (!·.isFatal) (.aborting reason) (.abortPausing reason) where
  asks _ := rfl
  permitted := permitted
  fails _ _ alive allowed :=
    (heeding_of_alive permitted (by simpa using alive)).trans (if_pos allowed)
  pauses _ := ⟨false, rfl⟩
  resumes _ := rfl

/-! ### To the end -/

def Follows (retry : Backoff) (answers : Answers) (t : Transaction) (x : Exchange)
    (r : Recovery) : Prop :=
  Leads retry answers x r.acts (t.placed r.status (.ended r.result))

theorem Follows.after {r : Recovery} (first : Leads retry answers x acts u)
    (rest : Follows retry answers t ⟨u, x.acts ++ acts⟩ r) :
    Follows retry answers t x (r.after acts) :=
  Leads.trans first rest

theorem follows_end {result : PublishResult} :
    Follows retry answers t ⟨t.placed status (.ended result), acts⟩
      { result := result, status := status } :=
  Leads.refl _ _

theorem spent_of_again {again : BrokerError → Bool} {heard : Nat → Reply}
    (finite : retry.retries.toNat + 1 < UInt32.size)
    (last : heard (repeated retry.retries again heard) = .error error)
    (more : again error = true) :
    retry.canRetry (.ofNat (repeated retry.retries again heard) + 1) = false ∧
      UInt32.ofNat (repeated retry.retries again heard) = retry.retries := by
  rw [repeated_eq last more, canRetry_ofNat (Nat.le_refl _) finite]
  simp

theorem follows_onAbort (permitted : status.permits .abort = true) (reason : PublishError)
    {reply : Reply} (spent : ∀ error, reply = .error error → error.isFatal = false →
      retry.canRetry (failures + 1) = false) :
    Follows retry answers t
      ⟨t.heeding retry status (.aborting reason failures) .abort reply, acts⟩
      (onAbort t.handle reason reply) := by
  cases reply with
  | ok _ =>
    rw [heeding, Request.operation, Status.after_abort permitted]
    exact follows_end
  | error error =>
    cases fatal : error.isFatal with
    | true =>
      have going : status.isTerminal = false := by
        rcases Status.eq_of_permits_abort permitted with rfl | rfl <;> rfl
      rw [heeding, Status.after_of_fatal going (by simp [Request.operation]) fatal, onAbort,
        if_pos fatal]
      exact follows_end
    | false =>
      rw [heeding_of_alive permitted fatal, spent error rfl fatal, onAbort, fatal]
      exact follows_end

theorem follows_abortion (permitted : status.permits .abort = true)
    (unasked : asked acts .abort = 0) (finite : retry.retries.toNat + 1 < UInt32.size)
    (reason : PublishError) :
    Follows retry answers t ⟨t.placed status (.aborting reason 0), acts⟩
      (abortion retry t.handle answers reason) := by
  have repeats := t.repeats_abort retry reason permitted
  refine Follows.after (repeats.leads unasked finite rfl) (follows_onAbort permitted reason ?_)
  intro error last alive
  exact (spent_of_again finite last (by simp [alive])).1

theorem follows_onStep {success : Recovery} {reply : Reply} (unaborted : asked acts .abort = 0)
    (finite : retry.retries.toNat + 1 < UInt32.size)
    (succeeds : reply = .ok () → Follows retry answers t
      ⟨t.heeding retry .inTransaction (.performing step failures) (t.stepRequest step) reply,
        acts⟩ success)
    (spent : ∀ error, reply = .error error → error.isSoft = true →
      retry.canRetry (failures + 1) = false ∧ failures = retry.retries) :
    Follows retry answers t
      ⟨t.heeding retry .inTransaction (.performing step failures) (t.stepRequest step) reply, acts⟩
      (onStep retry t.handle answers success reply) := by
  cases reply with
  | ok _ => exact succeeds rfl
  | error error =>
    cases error with
    | fatal text =>
      rw [heeding, Status.after_of_fatal rfl (stepRequest_unclosed t step) rfl]
      exact follows_end
    | abortable text =>
      have opened : t.heeding retry .inTransaction (.performing step failures) (t.stepRequest step)
          (.error (.abortable text)) =
            t.placed .abortable (.aborting (.aborted (.abortable text)) 0) := by
        cases step <;> rfl
      rw [opened]
      exact follows_abortion rfl unaborted finite _
    | unreachable | retriable | illegalState =>
      obtain ⟨no_more, all⟩ := spent _ rfl rfl
      rw [heeding_of_soft rfl, no_more, UInt32.add_sub_cancel, all]
      exact follows_abortion rfl unaborted finite _

theorem follows_completion (step : Step) {success : Recovery}
    (unasked : asked acts (t.stepRequest step).operation = 0)
    (unaborted : asked acts .abort = 0) (finite : retry.retries.toNat + 1 < UInt32.size)
    (succeeds : ∀ failures n, Follows retry answers t
      ⟨t.heeding retry .inTransaction (.performing step failures) (t.stepRequest step) (.ok ()),
        acts ++ attempts retry (t.stepRequest step) n⟩ success) :
    Follows retry answers t ⟨t.placed .inTransaction (.performing step 0), acts⟩
      (completion retry t.handle answers (t.stepRequest step) success) := by
  have repeats := t.repeats_step retry step
  refine Follows.after (repeats.leads unasked finite rfl) (follows_onStep ?_ finite ?_ ?_)
  · rw [asked_append, unaborted,
      asked_attempts _ (by cases step <;> simp [stepRequest, Request.operation])]
  · intro ok
    rw [ok]
    exact succeeds _ _
  · intro error last soft
    exact spent_of_again finite last soft

theorem follows_onBegin {success : Recovery} {reply : Reply}
    (succeeds : reply = .ok () → Follows retry answers t
      ⟨t.placed .inTransaction (.performing .send 0), acts⟩ success) :
    Follows retry answers t ⟨t.heeding retry .ready .beginning .begin reply, acts⟩
      (onBegin t.handle success reply) := by
  cases reply with
  | ok _ => exact succeeds rfl
  | error error =>
    cases fatal : error.isFatal with
    | true =>
      rw [heeding, Request.operation, Status.after_of_fatal rfl (by simp) fatal, onBegin,
        if_pos fatal]
      exact follows_end
    | false =>
      rw [heeding, Request.operation, Status.after_of_alive _ (.inl rfl) fatal, onBegin, fatal]
      exact follows_end

theorem follows_recovery (t : Transaction) (answers : Answers)
    (finite : retry.retries.toNat + 1 < UInt32.size) :
    Follows retry answers t ⟨t.placed .ready .beginning, []⟩
      (recovery retry t.handle answers t.topic t.payload) := by
  have commits (failures : UInt32) (n : Nat) : Follows retry answers t
      ⟨t.heeding retry .inTransaction (.performing .send failures) (t.stepRequest .send) (.ok ()),
        [.call .begin] ++ attempts retry (t.stepRequest .send) n⟩
      (completion retry t.handle answers .commit { result := .ok (), status := .ready }) := by
    have unasked (operation : Operation) (unbegun : .begin ≠ operation)
        (unsent : .send ≠ operation) :
        asked ([.call .begin] ++ attempts retry (t.stepRequest .send) n) operation = 0 := by
      have other : (t.stepRequest .send).operation ≠ operation := unsent
      rw [asked_append, asked_attempts n other]
      simp [asked, Request.operation, unbegun]
    have uncommitted := unasked .commit (by simp) (by simp)
    have unaborted := unasked .abort (by simp) (by simp)
    exact follows_completion .commit uncommitted unaborted finite fun _ _ => follows_end
  refine Follows.after (leads_call rfl rfl rfl) (follows_onBegin fun _ => ?_)
  exact follows_completion .send rfl rfl finite commits

/-! ### What is asked for in the end -/

def Tried (retries : UInt32) (request : Request) (asked : List Request) : Prop :=
  ∃ n ≤ retries.toNat + 1, asked = List.replicate n request

section Reference

variable (retry : Backoff) (handle : Handle) (answers : Answers)

theorem onAbort_acts (reason : PublishError) (reply : Reply) :
    (onAbort handle reason reply).acts = [] := by
  cases reply with
  | ok _ => rfl
  | error error => cases error <;> rfl

theorem tried_abortion (reason : PublishError) :
    Tried retry.retries .abort (requests (abortion retry handle answers reason).acts) := by
  refine ⟨repeated retry.retries (!·.isFatal) (replies handle answers .abort) + 1,
    Nat.succ_le_succ (repeated_le _ _ _), ?_⟩
  rw [abortion, Recovery.after, onAbort_acts, List.append_nil, requests_attempts]

theorem requests_onStep (success : Recovery) (reply : Reply) :
    requests (onStep retry handle answers success reply).acts = requests success.acts ∨
      Tried retry.retries .abort (requests (onStep retry handle answers success reply).acts) := by
  cases reply with
  | ok _ => exact .inl rfl
  | error error =>
    refine .inr ?_
    cases error with
    | fatal => exact ⟨0, Nat.zero_le _, rfl⟩
    | abortable | unreachable | retriable | illegalState => exact tried_abortion _ _ _ _

theorem requests_completion (request : Request) (success : Recovery) :
    ∃ first rest, Tried retry.retries request first ∧
      requests (completion retry handle answers request success).acts = first ++ rest ∧
      (rest = requests success.acts ∨ Tried retry.retries .abort rest) :=
  ⟨_, _, ⟨_, Nat.succ_le_succ (repeated_le _ _ _), rfl⟩,
    by rw [completion, Recovery.after, requests_append, requests_attempts],
    requests_onStep retry handle answers success _⟩

theorem requests_recovery (topic : String) (payload : ByteArray) :
    ∃ sends commits aborts, Tried retry.retries (.send topic payload) sends ∧
      Tried retry.retries .commit commits ∧ Tried retry.retries .abort aborts ∧
      requests (recovery retry handle answers topic payload).acts =
        .begin :: (sends ++ commits ++ aborts) := by
  have none_of (request : Request) : Tried retry.retries request [] := ⟨0, Nat.zero_le _, rfl⟩
  let done : Recovery := { result := .ok (), status := .ready }
  let committed := completion retry handle answers .commit done
  obtain ⟨sends, later, sent, begun, follows⟩ :=
    requests_completion retry handle answers (.send topic payload) committed
  obtain ⟨commits, last, tried, second, ends⟩ :=
    requests_completion retry handle answers .commit done
  cases reply : replies handle answers .begin 0 with
  | error error =>
    refine ⟨[], [], [], none_of _, none_of _, none_of _, ?_⟩
    rw [recovery, reply]
    cases error <;> rfl
  | ok _ =>
    have all : requests (recovery retry handle answers topic payload).acts =
        .begin :: (sends ++ later) := by
      simp only [recovery, reply, onBegin, Recovery.after, requests_append, requests_call]
      rw [begun]
      rfl
    rcases follows with rfl | aborted
    · rcases ends with rfl | aborted
      · have nothing : requests done.acts = [] := rfl
        exact ⟨sends, commits, [], sent, tried, none_of _,
          by rw [all, second, nothing, List.append_nil, List.append_nil]⟩
      · exact ⟨sends, commits, last, sent, tried, aborted, by rw [all, second, List.append_assoc]⟩
    · exact ⟨sends, [], later, sent, none_of _, aborted, by rw [all, List.append_nil]⟩

end Reference

/-- A transaction that nobody cancels, left alone with a session, comes to its end: its result, the
status of its handle and all that it has done are those of the reference. It has asked for the
begin, then for the send, then for the commit and then for the abort, and for none of the last
three more than once plus as often as the budget allows repetitions. -/
theorem recovers (handle : Handle) (ready : handle.status = .ready) (topic : String)
    (payload : ByteArray) (retry : Backoff) (finite : retry.retries.toNat + 1 < UInt32.size)
    (answers : Answers) :
    let start : Transaction := { handle := handle, topic := topic, payload := payload }
    let expected := recovery retry handle answers topic payload
    (∀ turns ≥ expected.acts.length,
      let played := (Exchange.next retry answers)^[turns] { transaction := start }
      played.transaction.result? = some expected.result ∧
      played.transaction.handle = { handle with status := expected.status } ∧
      played.acts = expected.acts) ∧
    ∃ sends commits aborts, Tried retry.retries (.send topic payload) sends ∧
      Tried retry.retries .commit commits ∧ Tried retry.retries .abort aborts ∧
      requests expected.acts = .begin :: (sends ++ commits ++ aborts) := by
  intro start expected
  refine ⟨fun turns enough => ?_, requests_recovery retry handle answers topic payload⟩
  obtain ⟨more, rfl⟩ := Nat.exists_eq_add_of_le' enough
  have still : start.placed .ready .beginning = start := by
    simp [start, placed, ← ready]
  have led : (Exchange.next retry answers)^[expected.acts.length] { transaction := start } =
      ⟨start.placed expected.status (.ended expected.result), expected.acts⟩ :=
    still ▸ start.follows_recovery answers finite
  have rests : Exchange.next retry answers
      ⟨start.placed expected.status (.ended expected.result), expected.acts⟩ =
      ⟨start.placed expected.status (.ended expected.result), expected.acts⟩ := rfl
  rw [Function.iterate_add_apply, led, Function.iterate_fixed rests]
  exact ⟨rfl, rfl, rfl⟩

/-- A session that loses the answer to the first send and is too busy to commit. -/
def busy : Answers
  | .send, 0 => none
  | .commit, _ => some (.error (.retriable "busy"))
  | .abort, 0 => some (.error (.abortable "busy"))
  | _, _ => some (.ok ())

def once : Backoff := ⟨.ofMillis 100, .ofSecs 5, 1⟩

def patient : Handle := { session := 0, brokers := ["b"], id := "svc-1", limit := .ofSecs 10 }

/-- The two sends, the two commits and the two aborts that are tried. -/
def givenUp : Recovery where
  result := .error (.retriesExhausted 1 (.retriable "busy"))
  status := .ready
  acts := [.call .begin,
    .call (.send "results" ⟨#[1]⟩), .pause (.ofMillis 100), .call (.send "results" ⟨#[1]⟩),
    .call .commit, .pause (.ofMillis 100), .call .commit,
    .call .abort, .pause (.ofMillis 100), .call .abort]

theorem busy_givenUp :
    let start : Transaction := { handle := patient, topic := "results", payload := ⟨#[1]⟩ }
    let played := (Exchange.next once busy)^[20] { transaction := start }
    played.transaction.result? = some givenUp.result ∧
    played.transaction.handle = { patient with status := givenUp.status } ∧
    played.acts = givenUp.acts := by
  have expected : recovery once patient busy "results" ⟨#[1]⟩ = givenUp := by decide +kernel
  obtain ⟨plays, -⟩ := recovers patient rfl "results" ⟨#[1]⟩ once (by decide) busy
  rw [expected] at plays
  exact plays 20 (by decide)

end Transaction

end OutcomeRelay
