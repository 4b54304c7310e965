import OutcomeRelay.Proofs.LateSuccess
import OutcomeRelay.Proofs.Tally
import OutcomeRelay.Proofs.TransactionEnd

set_option autoImplicit false

namespace OutcomeRelay

def BlockingCall.success (operation : Operation) : BlockingCall :=
  ⟨operation, some (.replied (.ok ()))⟩

/-- Every begin that succeeded was followed by a commit or an abort that succeeded. -/
def NothingOpen (calls : List BlockingCall) : Prop :=
  ∀ i, calls[i]? = some (BlockingCall.success .begin) → ∃ (k : Nat) (operation : Operation),
    i < k ∧ operation.isEnding = true ∧ calls[k]? = some (BlockingCall.success operation)

namespace NothingOpen

variable {calls : List BlockingCall}

theorem nil : NothingOpen [] := fun _ begun => by simp at begun

theorem concat (h : NothingOpen calls) {call : BlockingCall} (other : call ≠ .success .begin) :
    NothingOpen (calls ++ [call]) := by
  intro i begun
  rcases Nat.lt_trichotomy i calls.length with older | rfl | beyond
  · rw [List.getElem?_append_left older] at begun
    obtain ⟨k, operation, less, ending, ended⟩ := h i begun
    have inside := (List.getElem?_eq_some_iff.mp ended).1
    exact ⟨k, operation, less, ending, by rwa [List.getElem?_append_left inside]⟩
  · exact absurd (by simpa using begun) other
  · simp [List.getElem?_eq_none (show (calls ++ [call]).length ≤ i by simpa)] at begun

theorem concat_ending {operation : Operation} (ending : operation.isEnding = true)
    (calls : List BlockingCall) : NothingOpen (calls ++ [.success operation]) := by
  intro i begun
  refine ⟨calls.length, operation, ?_, ending, by simp⟩
  have inside : i < calls.length + 1 := by
    simpa using (List.getElem?_eq_some_iff.mp begun).1
  refine Nat.lt_of_le_of_ne (Nat.le_of_lt_succ inside) ?_
  rintro rfl
  obtain rfl : operation = .begin := by simpa [BlockingCall.success] using begun
  cases ending

end NothingOpen

namespace CallLine

variable {l : CallLine} {j : Nat}

theorem Orderly.calls_eq (h : l.Orderly) (flying : l.inFlight = some j) {call : BlockingCall}
    (hj : l.calls[j]? = some call) : l.calls = l.calls.take j ++ [call] := by
  have all := List.take_length (l := l.calls)
  rw [← h.last j flying, List.take_add_one, hj] at all
  exact all.symm

theorem finish_take (l : CallLine) (j : Nat) (outcome : CallOutcome) :
    (l.finish j outcome).calls.take j = l.calls.take j := by
  refine List.ext_getElem? fun k => ?_
  rw [List.getElem?_take, List.getElem?_take]
  split
  · have other : j ≠ k := by omega
    simp [finish_getElem?, other]
  · rfl

end CallLine

namespace LineNotes

variable {past : LineNotes}

/-- The last begin was given up, and nobody has waited for a call to its end since. -/
def Forsaken (past : LineNotes) : Prop :=
  ∃ (later earlier : LineNotes) (reason : String),
    past = later ++ .answered .begin (.error (.retriable reason)) none :: earlier ∧
      later.sources = []

theorem Forsaken.cons (h : past.Forsaken) {n : LineNote} (sourceless : n.source? = none) :
    Forsaken (n :: past) := by
  obtain ⟨later, earlier, reason, rfl, none⟩ := h
  exact ⟨n :: later, earlier, reason, rfl, by simpa [sources, sourceless] using none⟩

theorem forsaken_of_silent (reason : String) (past : LineNotes) :
    Forsaken (.answered .begin (.error (.retriable reason)) none :: past) :=
  ⟨[], past, reason, rfl, rfl⟩

theorem forsaken_cons_cases {n : LineNote} (h : Forsaken (n :: past)) :
    n.source? = none ∧
      (past.Forsaken ∨ ∃ reason, n = .answered .begin (.error (.retriable reason)) none) := by
  obtain ⟨later, earlier, reason, split, unwaited⟩ := h
  cases later with
  | nil =>
    cases split
    exact ⟨rfl, .inr ⟨reason, rfl⟩⟩
  | cons newest later =>
    obtain ⟨rfl, rfl⟩ := List.cons.inj split
    cases sourceless : n.source? with
    | none =>
      have unwaited : sources later = [] := by simpa [sources, sourceless] using unwaited
      exact ⟨rfl, .inl ⟨later, earlier, reason, rfl, unwaited⟩⟩
    | some j => simp [sources, sourceless] at unwaited

end LineNotes

theorem Request.eq_begin_of_permits_ready {request : Request}
    (h : Status.permits .ready request.operation = true) (open_ : request ≠ .close) :
    request = .begin := by
  cases request <;> simp_all [Status.permits, operation]

namespace LineProducer

/-- What is open at the client while the producer is ready: nothing, but for a begin in flight. -/
structure Rests (past : LineNotes) (p : LineProducer) : Prop where
  idle : p.handle.status = .ready → p.line.inFlight = none → NothingOpen p.line.calls
  parked : p.handle.status = .ready → ∀ j, p.line.inFlight = some j →
    NothingOpen (p.line.calls.take j) ∧ ∃ outcome, p.line.calls[j]? = some ⟨.begin, outcome⟩
  forsaken : p.handle.status = .ready → p.busy = none → p.line.inFlight.isSome → past.Forsaken

namespace Rests

variable {past : LineNotes} {p q : LineProducer}

theorem ended (h : p.Rests past) (told : p.Told past) {b : LineRequest} (busy : p.busy = some b)
    {parked : Operation} {j : Nat} {outcome : CallOutcome} (landed : p.line.Landed j parked outcome)
    (same : ∀ operation, b.wait = .turn operation →
      parked = operation ∧ outcome = .replied (.ok ()))
    (ready :
      p.handle.status.after b.request.operation (LineRequest.reply b outcome.reply) = .ready) :
    NothingOpen p.line.calls := by
  have permitted := told.permitted b busy
  have own := (told.suits b busy).own landed same
  have split := told.orderly.calls_eq landed.inFlight landed.call
  -- Ready again after a begin that failed, or ready after a success that ends the transaction.
  rcases Status.eq_ready_of_after ready with before | ⟨ok, ending⟩
  · have begins : b.request = .begin := by
      refine Request.eq_begin_of_permits_ready (before ▸ permitted) fun close => ?_
      simp [close, Request.operation, Status.after] at ready
    have call : b.request.isCall = true := by rw [begins]; rfl
    rw [reply_of_isCall call, begins, before] at ready
    rw [split]
    refine (h.parked before j landed.inFlight).1.concat fun success => ?_
    cases success
    cases ready
  · have call : b.request.isCall = true := by
      cases hb : b.request <;> simp_all [Request.operation, Request.isCall]
    rw [reply_of_isCall call, CallOutcome.reply_eq_ok_iff] at ok
    rw [split, ok, own call]
    exact .concat_ending (by rcases ending with h | h <;> rw [h] <;> rfl) _

theorem step (h : p.Rests past) (told : p.Told past) {note : Option LineNote}
    (moved : p.Moves note q) : q.Rests (note.toList ++ past) := by
  cases moved with
  | idle => exact h
  | refused request error =>
    exact ⟨h.idle, h.parked, fun ready idle flying => (h.forsaken ready idle flying).cons rfl⟩
  | closed =>
    exact ⟨h.idle, h.parked, fun ready idle flying => (h.forsaken ready idle flying).cons rfl⟩
  | waits => exact ⟨h.idle, h.parked, by simp⟩
  | @issued b idle permitted free call own =>
    refine ⟨by simp, fun ready j flying => ?_, by simp⟩
    obtain rfl : p.line.calls.length = j := Option.some.inj flying
    have ready : p.handle.status = .ready := ready
    have begins : b.request = .begin :=
      Request.eq_begin_of_permits_ready (ready ▸ permitted) (Request.ne_close_of_isCall call)
    exact ⟨by simpa using h.idle ready free, none, by simp [begins, Request.operation]⟩
  | @reissued b busy operation parked i outcome landed turn other =>
    refine ⟨by simp, fun ready j flying => ?_, by simp⟩
    obtain rfl : p.line.calls.length = j := Option.some.inj flying
    have ready : p.handle.status = .ready := ready
    obtain ⟨call, same⟩ := told.of_turn busy turn
    have begins : b.request = .begin :=
      Request.eq_begin_of_permits_ready (ready ▸ told.permitted b busy)
        (Request.ne_close_of_isCall call)
    obtain ⟨before, result, called⟩ := h.parked ready i landed.inFlight
    obtain rfl : parked = .begin := by
      simpa using congrArg (Option.map BlockingCall.operation) (landed.call.symm.trans called)
    have split := told.orderly.calls_eq landed.inFlight landed.call
    refine ⟨?_, none, by simp [same, begins, Request.operation]⟩
    rw [CallLine.issue_calls, List.take_left, split]
    -- A begin that succeeded would have been taken as the answer, with no other call.
    refine before.concat fun success => ?_
    cases success
    exact other (by rw [same, begins]; rfl) rfl
  | answered busy landed same =>
    exact ⟨fun ready _ => h.ended told busy landed same ready, by simp [complete],
      by simp [complete]⟩
  | completed request reply permitted own failed =>
    have permitted := told.permits permitted own
    have begins (ready : p.handle.status.after request.operation reply = .ready) :
        p.handle.status = .ready ∧ request = .begin := by
      rcases Status.eq_ready_of_after ready with before | ⟨ok, ending⟩
      · refine ⟨before, Request.eq_begin_of_permits_ready (before ▸ permitted) fun close => ?_⟩
        simp [close, Request.operation, Status.after] at ready
      · obtain ⟨reason, failed⟩ := failed (by
          cases request <;> simp_all [Request.operation, Request.isCall])
        cases ok.symm.trans failed
    refine ⟨fun ready => h.idle (begins ready).1, fun ready => h.parked (begins ready).1, ?_⟩
    intro ready _ _
    obtain ⟨-, rfl⟩ := begins ready
    obtain ⟨reason, rfl⟩ := failed rfl
    exact LineNotes.forsaken_of_silent reason past
  | @ended call operation running outcome =>
    have flying := told.orderly.unfinished call _ running rfl
    refine ⟨fun _ free => ?_, fun ready j here => ?_, fun ready idle here => ?_⟩
    · exact absurd (flying.symm.trans free) (by simp)
    · obtain rfl : call = j := Option.some.inj (flying.symm.trans here)
      obtain ⟨before, result, called⟩ := h.parked ready call flying
      rw [finish, CallLine.finish_take]
      exact ⟨before, CallLine.finish_operation called call outcome⟩
    · exact (h.forsaken ready idle here).cons rfl
  | givenUp =>
    have unready : p.handle.markFatal.status ≠ .ready := by
      unfold Handle.markFatal
      split <;> simp_all
    exact ⟨fun ready => absurd ready unready, fun ready => absurd ready unready,
      fun ready => absurd ready unready⟩

end Rests

/-- A call that fails for want of an answer has had somebody who waited for it. -/
theorem busy_of_silent {p : LineProducer} {e : Event} {request : Request} {reason : String}
    (call : request.isCall = true)
    (silent : p.note? e = some (.answered request (.error (.retriable reason)) none)) :
    p.busy.isSome := by
  obtain ⟨subject, replied, -⟩ := noted_of_answered silent
  by_contra idle
  have idle : p.busy = none := by simpa using idle
  cases e with
  | poll | expire | finish | markFatal => simp [subject?, idle] at subject
  | ask asked sendReply =>
    obtain rfl : asked = request := by simpa [subject?] using subject
    cases refusal : p.handle.refusal? asked.operation with
    | some error =>
      obtain rfl : error = .retriable reason := by
        simpa [step, ask, idle, refusal] using replied
      simp [Handle.refusal?] at refusal
    | none =>
      cases asked with
      | send | close => cases call
      | init | begin | commit | abort => simp [step, ask, idle, refusal, throughLine] at replied

theorem Moves.keeps_flying {p next : LineProducer} {note : Option LineNote}
    (moved : p.Moves note next) (flying : p.line.inFlight.isSome)
    (sourceless : ∀ n ∈ note, n.source? = none) : next.line.inFlight.isSome := by
  cases moved with
  | issued | reissued => rfl
  | answered => cases sourceless _ rfl
  | _ => exact flying

end LineProducer

namespace LineRun

variable (r : LineRun)

theorem flying_of_busy (busy : r.producer.busy.isSome) : r.producer.line.inFlight.isSome := by
  obtain ⟨b, busy⟩ := Option.isSome_iff_exists.mp busy
  obtain ⟨c, waiting, -⟩ : ∃ c, r.desk.caller = some c ∧ c.wait = b.wait := by
    simpa [busy] using r.followed.wait
  rw [← r.followed.line]
  exact (r.sound.attended c waiting).1

theorem flying_of_forsaken (forsaken : r.notes.Forsaken) : r.producer.line.inFlight.isSome := by
  induction r using by_events with
  | idle r nothing =>
    obtain ⟨later, earlier, reason, split, -⟩ := forsaken
    simp [notes, nothing, LineProducer.notes] at split
  | event r e ih =>
    rw [extend_notes] at forsaken
    rw [extend_producer]
    have forsaken : LineNotes.Forsaken ((r.producer.note? e).toList ++ r.notes) := forsaken
    have moved : r.producer.Moves (r.producer.note? e) (r.producer.after [e]) := r.producer.moves e
    cases noted : r.producer.note? e with
    | none =>
      rw [noted] at forsaken
      exact moved.keeps_flying (ih forsaken) (by simp [noted])
    | some n =>
      rw [noted] at forsaken
      obtain ⟨sourceless, cause⟩ := LineNotes.forsaken_cons_cases forsaken
      refine moved.keeps_flying ?_ (by simpa [noted] using sourceless)
      rcases cause with before | ⟨reason, rfl⟩
      · exact ih before
      · exact r.flying_of_busy (LineProducer.busy_of_silent rfl noted)

theorem rests : r.producer.Rests r.notes := by
  induction r using by_events with
  | idle r nothing =>
    have fresh : r.producer.line = {} := by simp [producer, nothing, LineProducer.after, start]
    constructor <;> simp [fresh, NothingOpen.nil]
  | event r e ih =>
    rw [extend_notes, extend_producer]
    exact ih.step r.told (r.producer.moves e)

/-- While a producer is ready and is asked for nothing, no call runs or is parked and no transaction
is open, unless its last begin was given up. Then the call of that begin is in flight, and all
else has come to an end. -/
theorem ready_open_iff (ready : r.producer.handle.status = .ready)
    (idle : r.producer.busy = none) :
    ((r.producer.line.running = 0 ∧ r.producer.line.inFlight = none ∧
        NothingOpen r.producer.line.calls) ↔ ¬ r.notes.Forsaken) ∧
    (r.notes.Forsaken → ∃ j outcome, r.producer.line.inFlight = some j ∧
      r.producer.line.calls[j]? = some ⟨.begin, outcome⟩ ∧
      NothingOpen (r.producer.line.calls.take j)) := by
  refine ⟨⟨fun ⟨_, free, _⟩ forsaken => ?_, fun kept => ?_⟩, fun forsaken => ?_⟩
  · simpa [free] using r.flying_of_forsaken forsaken
  · have free : r.producer.line.inFlight = none := by
      by_contra flying
      exact kept (r.rests.forsaken ready idle (Option.isSome_iff_ne_none.mpr flying))
    have quiet := r.told.orderly.quiet_of_idle free
    refine ⟨List.countP_eq_zero.mpr fun call mem => ?_, free, r.rests.idle ready free⟩
    simpa using quiet call mem
  · obtain ⟨j, flying⟩ := Option.isSome_iff_exists.mp (r.flying_of_forsaken forsaken)
    obtain ⟨closed, outcome, begun⟩ := r.rests.parked ready j flying
    exact ⟨j, outcome, flying, begun, closed⟩

/-- One transaction, all of whose calls are answered in time. -/
def committed : LineRun where
  session := 0
  brokers := ["b"]
  id := "svc"
  limit := .ofSecs 1
  events := [.ask .begin (.ok ()), .finish 0 (.replied (.ok ())), .poll, .ask .commit (.ok ()),
    .finish 1 (.replied (.ok ())), .poll]

theorem committed_leaves_nothing_open :
    committed.producer.handle.status = .ready ∧ committed.producer.busy = none ∧
    committed.producer.line.inFlight = none ∧ NothingOpen committed.producer.line.calls ∧
    ¬ committed.notes.Forsaken := by
  have ready : committed.producer.handle.status = .ready := by decide +kernel
  have idle : committed.producer.busy = none := by decide +kernel
  have kept : ¬ committed.notes.Forsaken := fun forsaken => by
    obtain ⟨j, outcome, flying, -⟩ := (committed.ready_open_iff ready idle).2 forsaken
    have free : committed.producer.line.inFlight = none := by decide +kernel
    simp [free] at flying
  obtain ⟨-, free, closed⟩ := (committed.ready_open_iff ready idle).1.mpr kept
  exact ⟨ready, idle, free, closed, kept⟩

/-- The caller of the first begin gives up, and then the begin succeeds. -/
def begunLate : LineRun := { committed with
  events := [.ask .begin (.ok ()), .expire, .finish 0 (.replied (.ok ()))] }

/-- The producer is ready, its begin is parked, and the transaction that it began is open. -/
theorem begunLate_leaves_open :
    begunLate.producer.handle.status = .ready ∧ begunLate.producer.busy = none ∧
    begunLate.producer.line.inFlight = some 0 ∧ ¬ NothingOpen begunLate.producer.line.calls := by
  have calls : begunLate.producer.line.calls = [.success .begin] := by decide +kernel
  refine ⟨by decide +kernel, by decide +kernel, by decide +kernel, fun closed => ?_⟩
  obtain ⟨k, operation, after_begin, -, ended⟩ := closed 0 (by rw [calls]; rfl)
  have inside : k < 1 := by simpa [calls] using (List.getElem?_eq_some_iff.mp ended).1
  omega

end LineRun

end OutcomeRelay
