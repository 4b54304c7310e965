import OutcomeRelay.Proofs.AnyAnswer
import OutcomeRelay.Proofs.Tally

set_option autoImplicit false

namespace OutcomeRelay

namespace Transaction

/-- The reply that a transaction takes a signal for. -/
def heard? (t : Transaction) : Signal → Option (Request × Reply)
  | .answered reply => t.request?.map fun request => (request, reply)
  | .silence => t.request?.map fun request => (request, .error t.handle.silence)
  | _ => none

variable {t : Transaction} {retry : Backoff} {cancelled : Bool} {request : Request} {reply : Reply}
  {signal : Signal}

def told (t : Transaction) (retry : Backoff) (cancelled : Bool) (request : Request)
    (reply : Reply) : Transaction :=
  { t with handle := t.handle.record request.operation reply }.afterReply retry cancelled reply

theorem result?_eq_some {result : PublishResult} :
    t.result? = some result ↔ t.phase = .ended result := by
  unfold result?
  cases t.phase <;> simp

theorem demand_of_request (hr : t.request? = some request)
    (permitted : t.handle.status.permits request.operation = true) (retry : Backoff) :
    t.demand retry = .answer t.handle.session t.handle.id request (some t.handle.limit) := by
  rcases request?_cases hr with ⟨hp, -⟩ | ⟨_, hp, -⟩ | ⟨_, hp, -⟩ | ⟨_, _, hp, -⟩ <;>
    simp [Transaction.demand, hp, hr, permitted]

theorem resume_of_request (hr : t.request? = some request) (retry : Backoff) (cancelled : Bool) :
    (∀ reply, t.resume retry cancelled (.answered reply) =
      t.settle retry cancelled (some reply)) ∧
    t.resume retry cancelled .silence = t.settle retry cancelled none := by
  rcases request?_cases hr with ⟨hp, -⟩ | ⟨_, hp, -⟩ | ⟨_, hp, -⟩ | ⟨_, _, hp, -⟩ <;>
    simp [resume, hp]

theorem settle_of_request (hr : t.request? = some request)
    (permitted : t.handle.status.permits request.operation = true) (retry : Backoff)
    (cancelled : Bool) (answer : Option Reply) :
    t.settle retry cancelled answer =
      t.told retry cancelled request (t.handle.verdict answer) := by
  simp only [settle, hr, Handle.perform_permitted permitted, told]

theorem resume_cases (cancelled : Bool) (permits : ∀ request, t.request? = some request →
      t.handle.status.permits request.operation = true)
    (ends : (t.demand retry).EndsWith signal) :
    (∃ request reply, t.request? = some request ∧ t.heard? signal = some (request, reply) ∧
      t.resume retry cancelled signal = t.told retry cancelled request reply) ∨
    (t.heard? signal = none ∧ ∃ step failures, t.phase = .pausing step failures ∧
      t.resume retry cancelled signal =
        if cancelled then t.startAbort .cancelled else t.enter (.performing step failures)) ∨
    (t.heard? signal = none ∧ ∃ reason failures, t.phase = .abortPausing reason failures ∧
      t.resume retry cancelled signal = t.enter (.aborting reason failures)) := by
  cases hr : t.request? with
  | some request =>
    have permitted := permits request hr
    have settled := settle_of_request hr permitted retry cancelled
    obtain ⟨answered, unanswered⟩ := resume_of_request hr retry cancelled
    rw [demand_of_request hr permitted] at ends
    refine .inl ?_
    cases ends with
    | answered session id request limit reply =>
      exact ⟨_, reply, rfl, by simp [heard?, hr], (answered reply).trans (settled (some reply))⟩
    | unanswered session id request limit =>
      exact ⟨_, .error t.handle.silence, rfl, by simp [heard?, hr],
        unanswered.trans (settled none)⟩
  | none =>
    refine .inr ?_
    cases hp : t.phase with
    | beginning | performing | aborting => simp [request?, hp] at hr
    | ended result =>
      simp only [Transaction.demand, hp] at ends
      cases ends
    | pausing step failures =>
      simp only [Transaction.demand, hp] at ends
      cases ends with
      | rested => exact .inl ⟨rfl, step, failures, rfl, by simp [resume, hp]⟩
    | abortPausing reason failures =>
      simp only [Transaction.demand, hp] at ends
      cases ends with
      | rested => exact .inr ⟨rfl, reason, failures, rfl, by simp [resume, hp]⟩

namespace Phase

/-- What may follow a phase, with so many repetitions and with or without a cancellation. -/
inductive Next (retries : UInt32) (cancelled : Bool) : Phase → Phase → Prop where
  | begun : Next retries cancelled .beginning (.performing .send 0)
  | unbegun (error : PublishError) : Next retries cancelled .beginning (.ended (.error error))
  | sent (failures : UInt32) (goes_on : cancelled = false) :
      Next retries cancelled (.performing .send failures) (.performing .commit 0)
  | committed (failures : UInt32) :
      Next retries cancelled (.performing .commit failures) (.ended (.ok ()))
  | failed (step : Step) {failures : UInt32} (again : failures + 1 ≤ retries) :
      Next retries cancelled (.performing step failures) (.pausing step (failures + 1))
  | stopped (step : Step) (failures : UInt32) (reason : PublishError) :
      Next retries cancelled (.performing step failures) (.aborting reason 0)
  | lost (step : Step) (failures : UInt32) (error : PublishError) :
      Next retries cancelled (.performing step failures) (.ended (.error error))
  | repeated (step : Step) (failures : UInt32) (goes_on : cancelled = false) :
      Next retries cancelled (.pausing step failures) (.performing step failures)
  | cut (step : Step) (failures : UInt32) (heeded : cancelled = true) :
      Next retries cancelled (.pausing step failures) (.aborting .cancelled 0)
  | unaborted (reason : PublishError) {failures : UInt32} (again : failures + 1 ≤ retries) :
      Next retries cancelled (.aborting reason failures) (.abortPausing reason (failures + 1))
  | abortRepeated (reason : PublishError) (failures : UInt32) :
      Next retries cancelled (.abortPausing reason failures) (.aborting reason failures)
  | aborted (reason : PublishError) (failures : UInt32) (error : PublishError) :
      Next retries cancelled (.aborting reason failures) (.ended (.error error))

end Phase

theorem afterBegin_next (retries : UInt32) (cancelled : Bool) (reply : Reply) :
    Phase.Next retries cancelled .beginning (t.afterBegin reply).phase := by
  cases reply with
  | ok _ => exact .begun
  | error error =>
    simp only [afterBegin]
    split <;> exact .unbegun _

theorem afterStep_next (step : Step) (failures : UInt32) (reply : Reply) :
    Phase.Next retry.retries cancelled (.performing step failures)
      (t.afterStep retry cancelled step failures reply).phase := by
  cases reply with
  | ok _ =>
    cases step with
    | commit => exact .committed failures
    | send =>
      simp only [afterStep]
      split
      · exact .stopped .send failures _
      · rename_i goes_on
        exact .sent failures (by simpa using goes_on)
  | error error =>
    simp only [afterStep, afterFailure]
    split
    · exact .lost step failures _
    · exact .stopped step failures _
    · split
      · rename_i again
        exact .failed step (by simpa [Backoff.canRetry] using again)
      · exact .stopped step failures _

theorem afterAbort_next (reason : PublishError) (failures : UInt32) (reply : Reply) :
    Phase.Next retry.retries cancelled (.aborting reason failures)
      (t.afterAbort retry reason failures reply).phase := by
  cases reply with
  | ok _ => exact .aborted reason failures _
  | error error =>
    simp only [afterAbort]
    split
    · exact .aborted reason failures _
    · split
      · exact .aborted reason failures _
      · split
        · rename_i again
          exact .unaborted reason (by simpa [Backoff.canRetry] using again)
        · exact .aborted reason failures _

/-- Each signal that a transaction waits for takes it to its next phase. -/
theorem resume_next (cancelled : Bool) (permits : ∀ request, t.request? = some request →
      t.handle.status.permits request.operation = true)
    (ends : (t.demand retry).EndsWith signal) :
    Phase.Next retry.retries cancelled t.phase (t.resume retry cancelled signal).phase := by
  rcases resume_cases cancelled permits ends with
    ⟨request, reply, hr, -, hn⟩ | ⟨-, step, failures, hp, hn⟩ | ⟨-, reason, failures, hp, hn⟩
  · rw [hn]
    unfold told afterReply
    rcases request?_cases hr with ⟨hp, -⟩ | ⟨failures, hp, -⟩ | ⟨failures, hp, -⟩ |
      ⟨reason, failures, hp, -⟩
    · simp only [hp]
      exact afterBegin_next _ _ reply
    · simp only [hp]
      exact afterStep_next .send failures reply
    · simp only [hp]
      exact afterStep_next .commit failures reply
    · simp only [hp]
      exact afterAbort_next reason failures reply
  · rw [hn, hp]
    split
    · exact .cut step failures ‹_›
    · rename_i goes_on
      exact .repeated step failures (by simpa using goes_on)
  · rw [hn, hp]
    exact .abortRepeated reason failures

end Transaction

end OutcomeRelay
