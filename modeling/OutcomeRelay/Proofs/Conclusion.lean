import OutcomeRelay.Proofs.Phases

set_option autoImplicit false

namespace OutcomeRelay

/-- The requests that were made for a publish, each with the reply that counted, the newest first.
A missing answer counts as a failure. -/
abbrev Replies := List (Request × Reply)

namespace Replies

def aborts (past : Replies) : List Reply := (past.filter (·.1 = .abort)).map Prod.snd

theorem aborts_abort (reply : Reply) (past : Replies) :
    aborts ((.abort, reply) :: past) = reply :: past.aborts := rfl

theorem aborts_cons_of_ne {request : Request} (other : request ≠ .abort) (reply : Reply)
    (past : Replies) : aborts ((request, reply) :: past) = past.aborts := by
  simp [aborts, other]

end Replies

def Reply.isFailure : Reply → Bool
  | .ok () => false
  | .error _ => true

namespace PublishError

def isAbort : PublishError → Bool
  | aborted _ => true
  | retriesExhausted _ _ => true
  | cancelled => true
  | _ => false

end PublishError

/-- The last abort went through, or every attempt that the budget allows has failed. -/
def Status.Aborted (status : Status) (retries : UInt32) (past : Replies) : Prop :=
  (status = .ready ∧ past.aborts.head? = some (.ok ())) ∨
  (status = .fatal ∧ past.aborts.length = retries.toNat + 1 ∧
    ∀ reply ∈ past.aborts, Reply.isFailure reply = true)

/-- What a result tells about the status of the handle that is left behind. -/
def PublishResult.Tells (retries : UInt32) (past : Replies) (status : Status) :
    PublishResult → Prop
  | .ok () => status = .ready
  | .error (.begin _) => status = .ready ∧ (.begin, .ok ()) ∉ past
  | .error (.fatal _ _) => status = .fatal
  | .error error => error.isAbort = true ∧ status.Aborted retries past

theorem Status.after_begin : Status.after .ready .begin (.ok ()) = .inTransaction := rfl

theorem Status.after_send : Status.after .inTransaction .send (.ok ()) = .inTransaction := rfl

theorem Status.after_commit : Status.after .inTransaction .commit (.ok ()) = .ready := rfl

theorem Status.after_abort {status : Status} (h : status.permits .abort = true) :
    status.after .abort (.ok ()) = .ready := by
  cases status with
  | inTransaction | abortable => rfl
  | ready | fatal | closed => simp [permits] at h

namespace Transaction

/-- All aborts so far have failed, and unless the count can run over, they have been counted. -/
structure Failing (retries failures : UInt32) (past : Replies) : Prop where
  failed : ∀ reply ∈ past.aborts, Reply.isFailure reply = true
  within : failures ≤ retries
  counted : retries.toNat + 1 < UInt32.size → past.aborts.length = failures.toNat

def InHand (t : Transaction) (retries : UInt32) (past : Replies) : Prop :=
  match t.phase with
  | .beginning => t.handle.status = .ready ∧ past = []
  | .performing _ _ => t.handle.status = .inTransaction ∧ past.aborts = []
  | .pausing _ _ => t.handle.status = .inTransaction ∧ past.aborts = []
  | .aborting reason failures =>
    t.handle.status.permits .abort = true ∧ reason.isAbort = true ∧ Failing retries failures past
  | .abortPausing reason failures =>
    t.handle.status.permits .abort = true ∧ reason.isAbort = true ∧ Failing retries failures past
  | .ended result => result.Tells retries past t.handle.status

variable {t : Transaction} {retry : Backoff} {past : Replies}
  {request : Request} {reply : Reply} {signal : Signal}

theorem InHand.permits (h : t.InHand retry.retries past) (hr : t.request? = some request) :
    t.handle.status.permits request.operation = true := by
  unfold InHand at h
  rcases request?_cases hr with ⟨hp, rfl⟩ | ⟨failures, hp, rfl⟩ | ⟨failures, hp, rfl⟩ |
    ⟨reason, failures, hp, rfl⟩
  · rw [hp] at h
    simp [h.1, Status.permits, Request.operation]
  · rw [hp] at h
    simp [h.1, Status.permits, Request.operation]
  · rw [hp] at h
    simp [h.1, Status.permits, Request.operation]
  · rw [hp] at h
    exact h.1

theorem InHand.endsByItself (h : t.InHand retry.retries past) (going : t.result? = none) :
    (t.demand retry).endsByItself = true := by
  cases hr : t.request? with
  | some request =>
    rw [demand_of_request hr (h.permits hr)]
    rfl
  | none =>
    cases hp : t.phase with
    | beginning | performing | aborting => simp [request?, hp] at hr
    | ended result => simp [result?, hp] at going
    | pausing step failures => simp [Transaction.demand, hp, Demand.endsByItself]
    | abortPausing reason failures => simp [Transaction.demand, hp, Demand.endsByItself]

theorem InHand.tells {retries : UInt32} {result : PublishResult} (h : t.InHand retries past)
    (ended : t.result? = some result) : result.Tells retries past t.handle.status := by
  simpa only [InHand, result?_eq_some.mp ended] using h

theorem Failing.start (retries : UInt32) (none_yet : past.aborts = []) :
    Failing retries 0 past where
  failed := by simp [none_yet]
  within := by simp
  counted _ := by simp [none_yet]

theorem Failing.again {retries failures : UInt32} (h : Failing retries failures past)
    (error : BrokerError) (more : failures + 1 ≤ retries) :
    Failing retries (failures + 1) ((.abort, .error error) :: past) where
  failed := by
    intro reply hm
    rcases List.mem_cons.mp (Replies.aborts_abort _ past ▸ hm) with rfl | old
    · rfl
    · exact h.failed reply old
  within := more
  counted small := by
    have count := h.counted small
    have bound := h.within
    simp only [Replies.aborts_abort, List.length_cons, count, UInt32.le_iff_toNat_le,
      UInt32.size, UInt32.toNat_add, UInt32.toNat_one] at *
    omega

theorem Failing.exhausted {retries failures : UInt32} (h : Failing retries failures past)
    (error : BrokerError) (no_more : ¬ failures + 1 ≤ retries) :
    Status.Aborted .fatal retries ((.abort, .error error) :: past) := by
  refine .inr ⟨rfl, ?_, ?_⟩
  · have bound := h.within
    have least := retries.toNat_lt
    have count := h.counted
    simp only [Replies.aborts_abort, List.length_cons, UInt32.le_iff_toNat_le, UInt32.size,
      UInt32.toNat_add, UInt32.toNat_one] at *
    omega
  · intro reply hm
    rcases List.mem_cons.mp (Replies.aborts_abort _ past ▸ hm) with rfl | old
    · rfl
    · exact h.failed reply old

theorem aborting_of_permits {retries : UInt32} {reason : PublishError}
    (hp : t.handle.status.permits .abort = true) (hr : reason.isAbort = true)
    (none_yet : past.aborts = []) : (t.startAbort reason).InHand retries past :=
  ⟨hp, hr, .start retries none_yet⟩

theorem InHand.begin (hp : t.phase = .beginning) (h : t.InHand retry.retries past)
    (cancelled : Bool) (reply : Reply) :
    (t.told retry cancelled .begin reply).InHand retry.retries ((.begin, reply) :: past) := by
  simp only [InHand, hp] at h
  obtain ⟨status, rfl⟩ := h
  have nothing : Replies.aborts [(.begin, reply)] = [] := rfl
  simp only [told, afterReply, hp]
  cases reply with
  | ok _ =>
    refine ⟨?_, nothing⟩
    change t.handle.status.after .begin (.ok ()) = _
    rw [status, Status.after_begin]
  | error error =>
    simp only [afterBegin]
    split
    · assumption
    · rename_i alive
      rcases Status.after_error .ready (show Operation.begin ≠ .close by simp) error with
        same | spent | ⟨other, -⟩
      · exact ⟨by simp [finish, enter, Handle.record, status, Request.operation, same], by simp⟩
      · simp [Handle.record, status, Request.operation, spent] at alive
      · simp at other

theorem InHand.perform {step : Step} {failures : UInt32} (hp : t.phase = .performing step failures)
    (h : t.InHand retry.retries past) (cancelled : Bool) (reply : Reply) :
    (t.told retry cancelled (t.stepRequest step) reply).InHand retry.retries
      ((t.stepRequest step, reply) :: past) := by
  simp only [InHand, hp] at h
  obtain ⟨status, none_yet⟩ := h
  have nothing : Replies.aborts ((t.stepRequest step, reply) :: past) = [] := by
    rw [Replies.aborts_cons_of_ne (by cases step <;> simp [stepRequest]), none_yet]
  simp only [told, afterReply, hp]
  cases reply with
  | ok _ =>
    cases step with
    | send =>
      have sent : (t.handle.record (t.stepRequest .send).operation (.ok ())).status =
          .inTransaction := by
        change t.handle.status.after .send (.ok ()) = _
        rw [status, Status.after_send]
      simp only [afterStep]
      split
      · exact aborting_of_permits (by rw [sent]; rfl) rfl nothing
      · exact ⟨sent, nothing⟩
    | commit =>
      change t.handle.status.after .commit (.ok ()) = .ready
      rw [status, Status.after_commit]
  | error error =>
    simp only [afterStep, afterFailure]
    split
    · assumption
    · rename_i abortable
      exact aborting_of_permits (by simp [abortable, Status.permits]) rfl nothing
    · rename_i alive sound
      have still : (t.handle.record (t.stepRequest step).operation (.error error)).status =
          .inTransaction := by
        have unclosed : (t.stepRequest step).operation ≠ .close := by
          cases step <;> simp [stepRequest, Request.operation]
        rcases Status.after_error .inTransaction unclosed error with
          same | spent | ⟨-, abortable⟩
        · simpa [Handle.record, status] using same
        · exact absurd (by simpa [Handle.record, status] using spent) alive
        · exact absurd (by simpa [Handle.record, status] using abortable) sound
      split
      · exact ⟨still, nothing⟩
      · exact aborting_of_permits (by rw [still]; rfl) rfl nothing

theorem InHand.abort {reason : PublishError} {failures : UInt32}
    (hp : t.phase = .aborting reason failures) (h : t.InHand retry.retries past)
    (cancelled : Bool) (reply : Reply) :
    (t.told retry cancelled .abort reply).InHand retry.retries ((.abort, reply) :: past) := by
  simp only [InHand, hp] at h
  obtain ⟨permits, tells, failing⟩ := h
  have result (status : Status) (aborted : status.Aborted retry.retries ((.abort, reply) :: past)) :
      PublishResult.Tells retry.retries ((.abort, reply) :: past) status (.error reason) := by
    cases reason with
    | aborted | retriesExhausted | cancelled => exact ⟨rfl, aborted⟩
    | pool | begin | fatal | interrupted => simp [PublishError.isAbort] at tells
  simp only [told, afterReply, hp]
  cases reply with
  | ok _ =>
    exact result _ (.inl ⟨Status.after_abort permits, rfl⟩)
  | error error =>
    simp only [afterAbort]
    split
    · assumption
    · rename_i alive
      have same : (t.handle.record Request.abort.operation (.error error)).status =
          t.handle.status := by
        rcases Status.after_error t.handle.status (show Operation.abort ≠ .close by simp) error with
          same | spent | ⟨other, -⟩
        · exact same
        · exact absurd spent alive
        · simp at other
      rw [same, permits]
      simp only [Bool.not_true, Bool.false_eq_true, ↓reduceIte]
      split
      · rename_i more
        refine ⟨by simpa [enter, same] using permits, tells, failing.again error ?_⟩
        simpa [Backoff.canRetry] using more
      · rename_i no_more
        have spent : (t.handle.record Request.abort.operation (.error error)).markFatal.status =
            .fatal := by
          have unclosed : t.handle.status ≠ .closed := by
            intro closed
            simp [closed, Status.permits] at permits
          simp [Handle.markFatal, same, unclosed]
        refine result _ (?_ : Status.Aborted (Handle.markFatal _).status _ _)
        rw [spent]
        exact failing.exhausted error (by simpa [Backoff.canRetry] using no_more)

/-- Whatever the reply, a transaction stays in hand. -/
theorem InHand.resume (h : t.InHand retry.retries past)
    (ends : (t.demand retry).EndsWith signal) (cancelled : Bool) :
    (t.resume retry cancelled signal).InHand retry.retries ((t.heard? signal).toList ++ past) := by
  rcases resume_cases cancelled (fun _ => h.permits) ends with
    ⟨request, reply, hr, heard, hn⟩ | ⟨heard, step, failures, hp, hn⟩ |
    ⟨heard, reason, failures, hp, hn⟩
  · rw [hn, heard]
    rcases request?_cases hr with ⟨hp, rfl⟩ | ⟨failures, hp, rfl⟩ | ⟨failures, hp, rfl⟩ |
      ⟨reason, failures, hp, rfl⟩
    · exact h.begin hp cancelled reply
    · exact h.perform hp cancelled reply
    · exact h.perform hp cancelled reply
    · exact h.abort hp cancelled reply
  · simp only [InHand, hp] at h
    rw [hn, heard]
    split
    · exact aborting_of_permits (by simp [h.1, Status.permits]) rfl h.2
    · exact h
  · simp only [InHand, hp] at h
    rw [hn, heard]
    exact h

end Transaction

end OutcomeRelay
