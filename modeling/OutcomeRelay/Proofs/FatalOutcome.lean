import OutcomeRelay.Proofs.Handover
import OutcomeRelay.Proofs.LineNotes

set_option autoImplicit false

namespace OutcomeRelay

theorem Status.eq_close_of_permits {s : Status} {operation : Operation}
    (ended : s.isTerminal = true) (permitted : s.permits operation = true) :
    operation = .close := by
  cases s <;> cases operation <;> simp_all [isTerminal, permits]

theorem Status.isTerminal_after_fatal (s : Status) (operation : Operation) (reason : String) :
    (s.after operation (.error (.fatal reason))).isTerminal = true := by
  unfold after
  split
  · rfl
  · split
    · assumption
    · rfl

theorem Status.isTerminal_after_close (s : Status) (reply : Reply) :
    (s.after .close reply).isTerminal = true := by
  simp [after, isTerminal]

theorem Status.after_retriable {operation : Operation} (open_ : operation ≠ .close) (s : Status)
    (reason : String) : s.after operation (.error (.retriable reason)) = s := by
  unfold after
  rw [if_neg open_]
  split
  · rfl
  · cases operation <;> rfl

namespace LineProducer

def sends (p : LineProducer) (e : Event) : Bool :=
  e ≠ .expire && (p.subject? e).any (fun request => request.operation = .send) &&
    p.handle.status.permits .send && (p.step e).2.isSome

def deed? (p : LineProducer) (e : Event) : Option Operation :=
  match (p.step e).1.line.calls[p.line.calls.length]? with
  | some call => some call.operation
  | none => if p.sends e then some .send else none

/-- The client is asked for nothing, and a request that is answered leaves the producer at its
end. -/
def Heeds (p : LineProducer) (e : Event) : Prop :=
  p.deed? e = none ∧ ((p.step e).2.isSome → (p.step e).1.handle.status.isTerminal = true)

instance (p : LineProducer) (e : Event) : Decidable (p.Heeds e) :=
  inferInstanceAs (Decidable (_ ∧ _))

/-- A request that does not close is refused, is given up, or looks at the end of a call that it has
not issued. -/
def overlooks (p : LineProducer) : Event → Bool
  | .ask request _ => p.busy.isNone && !p.handle.status.permits request.operation
  | .poll => p.busy.any fun b => b.wait ≠ .own && b.request ≠ .close
  | .expire => p.busy.any fun b => b.request ≠ .close
  | .finish _ _ | .markFatal => false

def Throughout (P : LineProducer → Event → Prop) (p : LineProducer) : List Event → Prop
  | [] => True
  | e :: later => P p e ∧ (p.step e).1.Throughout P later

instance decidableThroughout {P : LineProducer → Event → Prop} [∀ p e, Decidable (P p e)]
    (p : LineProducer) : (later : List Event) → Decidable (p.Throughout P later)
  | [] => .isTrue trivial
  | e :: later =>
    have := decidableThroughout (P := P) (p.step e).1 later
    inferInstanceAs (Decidable (P p e ∧ (p.step e).1.Throughout P later))

def Struck (p : LineProducer) : Prop :=
  ∃ j operation reason, p.line.Landed j operation (.replied (.error (.fatal reason)))

def Alert (p : LineProducer) : Prop := p.handle.status.isTerminal = true ∨ p.Struck

variable {p next : LineProducer} {past : LineNotes} {e : Event} {note : Option LineNote}

theorem Moves.ages (moved : p.Moves note next) : p.handle.Ages next.handle := by
  cases moved with
  | answered | completed => exact p.handle.record_ages _ _
  | givenUp => exact p.handle.markFatal_ages
  | _ => exact .rfl

theorem heeds_of_calm (calls : (p.step e).1.line.calls.length = p.line.calls.length)
    (unsent : p.sends e = false)
    (last : (p.step e).2.isSome → (p.step e).1.handle.status.isTerminal = true) : p.Heeds e :=
  ⟨by simp [deed?, ← calls, unsent], last⟩

theorem heeds_of_silent (calls : (p.step e).1.line.calls.length = p.line.calls.length)
    (silent : (p.step e).2 = none) : p.Heeds e :=
  heeds_of_calm calls (by simp [sends, silent]) (by simp [silent])

theorem heeds_of_complete {q : LineProducer} {request : Request} {reply : Reply}
    (answered : p.step e = q.complete request reply) (calls : q.line.calls = p.line.calls)
    (unsent : p.sends e = false)
    (last : (q.handle.status.after request.operation reply).isTerminal = true) : p.Heeds e := by
  refine heeds_of_calm ?_ unsent fun _ => ?_
  · simp [answered, complete, calls]
  · simpa [answered, complete, Handle.record] using last

theorem not_heeds_of_answer (answered : (p.step e).2.isSome)
    (unended : (p.step e).1.handle.status.isTerminal = false) : ¬ p.Heeds e :=
  fun heeds => by simp [heeds.2 answered] at unended

theorem Moves.calls_of_terminal (moved : p.Moves note next) (told : p.Told past)
    (ended : p.handle.status.isTerminal = true) :
    next.line.calls.length = p.line.calls.length := by
  have unpermitted (request : Request) (call : request.isCall = true) :
      p.handle.status.permits request.operation ≠ true := fun permitted => by
    have close := Status.eq_close_of_permits ended permitted
    cases request <;> simp_all [Request.isCall, Request.operation]
  cases moved with
  | issued idle permitted free call => exact absurd permitted (unpermitted _ call)
  | @reissued b busy operation parked j outcome landed turn other =>
    obtain ⟨call, -⟩ := told.of_turn busy turn
    exact absurd (told.permitted b busy) (unpermitted _ call)
  | ended => exact CallLine.finish_length _ _ _
  | _ => rfl

theorem heeds_of_terminal (told : p.Told past) (ended : p.handle.status.isTerminal = true)
    (e : Event) : p.Heeds e := by
  have moved := p.moves e
  refine heeds_of_calm (moved.calls_of_terminal told ended) ?_ fun _ => moved.ages.terminal ended
  have unpermitted : p.handle.status.permits .send = false :=
    Bool.eq_false_iff.mpr fun permitted => nomatch Status.eq_close_of_permits ended permitted
  simp [sends, unpermitted]

theorem ask_waits (struck : p.Struck) (unended : p.handle.status.isTerminal = false)
    (idle : p.busy = none) {request : Request}
    (permitted : p.handle.status.permits request.operation = true) (sendReply : Reply) :
    ∃ b, p.ask request sendReply = ({ p with busy := some b }, none) := by
  obtain ⟨j, operation, reason, landed⟩ := struck
  have flying := landed.inFlight
  have unclosed : p.handle.status ≠ .closed := by
    rintro closed
    simp [closed, Status.isTerminal] at unended
  cases request with
  | close | send =>
    simp [ask, idle, Handle.refusal?, permitted, unclosed, afterSettling, CallLine.settle, flying]
  | init | begin | commit | abort =>
    simp [ask, idle, Handle.refusal?, permitted, throughLine, CallLine.request, flying]

theorem ask_heeds_iff (struck : p.Struck) (unended : p.handle.status.isTerminal = false)
    (request : Request) (sendReply : Reply) :
    p.Heeds (.ask request sendReply) ↔ p.overlooks (.ask request sendReply) = false := by
  cases busy : p.busy with
  | some b =>
    have silent : p.Heeds (.ask request sendReply) :=
      heeds_of_silent (by simp [step, ask, busy]) (by simp [step, ask, busy])
    simp [silent, overlooks, busy]
  | none =>
    cases permitted : p.handle.status.permits request.operation with
    | true =>
      obtain ⟨b, waits⟩ := ask_waits struck unended busy permitted sendReply
      have silent : p.Heeds (.ask request sendReply) :=
        heeds_of_silent (by simp [step, waits]) (by simp [step, waits])
      simp [silent, overlooks, permitted]
    | false =>
      have refused : p.ask request sendReply =
          (p, some (.error (.illegalState request.operation p.handle.status.name))) := by
        simp [ask, busy, Handle.refusal?, permitted]
      have heedless : ¬ p.Heeds (.ask request sendReply) :=
        not_heeds_of_answer (by simp [step, refused]) (by simpa [step, refused] using unended)
      simp [heedless, overlooks, busy, permitted]

theorem poll_heeds_iff (struck : p.Struck) (told : p.Told past) :
    p.Heeds .poll ↔ p.overlooks .poll = false := by
  cases busy : p.busy with
  | none =>
    have silent : p.Heeds .poll :=
      heeds_of_silent (by simp [step, poll, busy]) (by simp [step, poll, busy])
    simp [silent, overlooks, busy]
  | some b =>
    obtain ⟨j, operation, reason, landed⟩ := struck
    obtain ⟨request, wait, sendReply⟩ := b
    have suits := told.suits _ busy
    have permitted := told.permitted _ busy
    have current :
        p.line.current? = some ⟨operation, some (.replied (.error (.fatal reason)))⟩ := by
      simp [CallLine.current?, landed.inFlight, landed.call]
    cases wait with
    | own =>
      have call : request.isCall = true := suits.1
      have own (outcome : Reply) : LineRequest.reply ⟨request, .own, sendReply⟩ outcome = outcome :=
        reply_of_isCall call outcome
      have polled : p.step .poll = ({ p with line := p.line.clear } : LineProducer).complete request
          (.error (.fatal reason)) := by
        simp [step, poll, busy, CallLine.poll, current, CallOutcome.reply, own, CallLine.clear]
      have unsent : p.sends .poll = false := by
        cases request <;> simp_all [sends, subject?, Request.isCall, Request.operation]
      have learned : p.Heeds .poll :=
        heeds_of_complete polled rfl unsent (Status.isTerminal_after_fatal _ _ _)
      simp [learned, overlooks, busy]
    | turn own =>
      have call : request.isCall = true := suits.1
      have polled : p.step .poll =
          ({ p with line := p.line.issue own, busy := some ⟨request, .own, sendReply⟩ }, none) := by
        simp [step, poll, busy, CallLine.poll, current, CallOutcome.reply, CallLine.issue]
      have heedless : ¬ p.Heeds .poll := fun heeds => by
        simpa [deed?, polled] using heeds.1
      have unclosed : request ≠ .close := Request.ne_close_of_isCall call
      simp [heedless, overlooks, busy, unclosed]
    | settling =>
      have direct : request.isCall = false := suits
      have polled : p.step .poll = ({ p with line := p.line.clear } : LineProducer).complete request
          (LineRequest.reply ⟨request, .settling, sendReply⟩ (.error (.fatal reason))) := by
        simp [step, poll, busy, CallLine.poll, current, CallOutcome.reply, CallLine.clear]
      cases request with
      | close =>
        have unsent : p.sends .poll = false := by simp [sends, subject?, busy, Request.operation]
        have closed : p.Heeds .poll :=
          heeds_of_complete polled rfl unsent (Status.isTerminal_after_close _ _)
        simp [closed, overlooks, busy]
      | send topic payload =>
        have permitted : p.handle.status.permits .send = true := permitted
        have sent : p.sends .poll = true := by
          simp [sends, subject?, busy, Request.operation, permitted, polled, complete]
        have heedless : ¬ p.Heeds .poll := fun heeds => by
          simpa [deed?, polled, complete, sent] using heeds.1
        simp [heedless, overlooks, busy]
      | init | begin | commit | abort => cases direct

theorem expire_heeds_iff (unended : p.handle.status.isTerminal = false) :
    p.Heeds .expire ↔ p.overlooks .expire = false := by
  cases busy : p.busy with
  | none =>
    have silent : p.Heeds .expire :=
      heeds_of_silent (by simp [step, expire, busy]) (by simp [step, expire, busy])
    simp [silent, overlooks, busy]
  | some b =>
    by_cases close : b.request = .close
    · have expired : p.step .expire = p.complete .close (.ok ()) := by
        simp [step, expire, busy, close]
      have closed : p.Heeds .expire :=
        heeds_of_complete expired rfl (by simp [sends]) (Status.isTerminal_after_close _ _)
      simp [closed, overlooks, busy, close]
    · have expired : p.step .expire = p.complete b.request (p.handle.verdict none) := by
        simp only [step, expire, busy]
      have kept : p.handle.status.after b.request.operation (p.handle.verdict none) =
          p.handle.status :=
        Status.after_retriable (by cases hb : b.request <;> simp_all [Request.operation]) _ _
      have heedless : ¬ p.Heeds .expire :=
        not_heeds_of_answer (by simp [expired, complete])
          (by simpa [expired, complete, Handle.record, kept] using unended)
      simp [heedless, overlooks, busy, close]

theorem heeds_iff (told : p.Told past) (alert : p.Alert) (e : Event) :
    p.Heeds e ↔ (p.handle.status.isTerminal = false → p.overlooks e = false) := by
  cases ended : p.handle.status.isTerminal with
  | true => simp [heeds_of_terminal told ended]
  | false =>
    have struck : p.Struck := alert.resolve_left (by simp [ended])
    refine Iff.trans ?_ (forall_prop_of_true rfl).symm
    cases e with
    | ask request sendReply => exact ask_heeds_iff struck ended request sendReply
    | poll => exact poll_heeds_iff struck told
    | expire => exact expire_heeds_iff ended
    | finish call outcome =>
      have silent : p.Heeds (.finish call outcome) :=
        heeds_of_silent (CallLine.finish_length _ _ _) rfl
      simp [silent, overlooks]
    | markFatal =>
      have silent : p.Heeds .markFatal := by
        refine heeds_of_silent ?_ rfl
        simp only [step]
        split <;> rfl
      simp [silent, overlooks]

/-- Until the fatal outcome is heeded, the call that failed stays in flight. -/
theorem Alert.step (alert : p.Alert) (heeds : p.Heeds e) : (p.step e).1.Alert := by
  have moved := p.moves e
  rcases alert with ended | ⟨j, operation, reason, landed⟩
  · exact .inl (moved.ages.terminal ended)
  obtain ⟨idle, last⟩ := heeds
  have answered {request : Request} {reply : Reply} {source : Option Nat}
      (noted : p.note? e = some (.answered request reply source)) :
      (p.step e).1.handle.status.isTerminal = true :=
    last (by simp [(noted_of_answered noted).2.1])
  unfold deed? at idle
  generalize p.note? e = note at moved answered
  generalize (p.step e).1 = next at moved answered idle ⊢
  -- An answer is the last thing that can happen; nothing else takes the call out of the line.
  cases moved with
  | issued _ _ free => simp [landed.inFlight] at free
  | reissued => simp at idle
  | answered => exact .inl (answered rfl)
  | ended _ outcome => exact .inr ⟨j, operation, reason, landed.finish _ outcome⟩
  | _ => exact .inr ⟨j, operation, reason, landed⟩

theorem throughout_heeds_iff (told : p.Told past) (alert : p.Alert) (later : List Event) :
    p.Throughout Heeds later ↔
      p.Throughout (fun p e => p.handle.status.isTerminal = false → p.overlooks e = false)
        later := by
  -- Up to the first event that does not heed the outcome, the producer is alert.
  induction later generalizing p past with
  | nil => rfl
  | cons e later ih =>
    rw [Throughout, Throughout, ← heeds_iff told alert e]
    exact and_congr_right fun heeds => ih (told.step (p.moves e)) (alert.step heeds)

end LineProducer

namespace LineRun

open LineProducer (Heeds)

variable (r : LineRun)

/-- After a call has failed fatally, the client is asked for nothing more and every request that is
answered leaves the producer at its end: exactly when, until the producer is at its end, nobody
learns of the end of the call but who issued it or closes, and no other request is refused or
given up. -/
theorem fatal_heeded_iff {j : Nat} {operation : Operation}
    (running : r.producer.line.calls[j]? = some ⟨operation, none⟩) (reason : String)
    (later : List LineProducer.Event) :
    let struck := (r.extend [.finish j (.replied (.error (.fatal reason)))]).producer
    struck.Throughout Heeds later ↔ struck.Throughout
      (fun p e => p.handle.status.isTerminal = false → p.overlooks e = false) later := by
  intro struck
  have flying := r.told.orderly.unfinished j _ running rfl
  have ended : struck = r.producer.finish j (.replied (.error (.fatal reason))) :=
    r.extend_producer _
  have landed : struck.line.Landed j operation (.replied (.error (.fatal reason))) := by
    rw [ended]
    exact ⟨flying, by simp [LineProducer.finish, CallLine.finish_getElem?, running]⟩
  exact LineProducer.throughout_heeds_iff (told _) (.inr ⟨j, operation, reason, landed⟩) later

/-- A commit that runs, and whose caller has given up. -/
def committing : LineRun where
  session := 0
  brokers := ["b"]
  id := "svc"
  limit := .ofSecs 1
  events := [.ask .begin (.ok ()), .finish 0 (.replied (.ok ())), .poll, .ask .commit (.ok ()),
    .expire]

/-- Closing is all that is done after the commit has failed. -/
theorem committing_closed_heeds :
    committing.producer.line.calls[1]? = some ⟨.commit, none⟩ ∧
    (committing.extend [.finish 1 (.replied (.error (.fatal "fenced")))]).producer.Throughout Heeds
      [.ask .close (.ok ()), .poll, .ask .begin (.ok ())] := by
  have running : committing.producer.line.calls[1]? = some ⟨.commit, none⟩ := by decide +kernel
  exact ⟨running, (committing.fatal_heeded_iff running "fenced" _).mpr (by decide +kernel)⟩

/-- The commit fails fatally, another one is issued and succeeds, and the producer is ready. -/
theorem committing_again_loses_fatal :
    let struck := (committing.extend [.finish 1 (.replied (.error (.fatal "fenced")))]).producer
    let later : List LineProducer.Event :=
      [.ask .commit (.ok ()), .poll, .finish 2 (.replied (.ok ())), .poll]
    ¬ struck.Throughout Heeds later ∧
    (struck.after later).line.calls = [⟨.begin, some (.replied (.ok ()))⟩,
      ⟨.commit, some (.replied (.error (.fatal "fenced")))⟩,
      ⟨.commit, some (.replied (.ok ()))⟩] ∧
    (struck.after later).handle.status = .ready := by
  decide +kernel

end LineRun

end OutcomeRelay
