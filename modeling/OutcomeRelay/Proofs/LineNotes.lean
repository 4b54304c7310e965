import Mathlib.Data.List.Basic
import Mathlib.Data.List.Induction
import OutcomeRelay.Proofs.Desk

set_option autoImplicit false

namespace OutcomeRelay

inductive LineNote where
  | issued (call : Nat) (operation : Operation)
  | ended (call : Nat) (outcome : CallOutcome)
  /-- With the answer call `source` has left the line. -/
  | answered (request : Request) (reply : Reply) (source : Option Nat)
deriving DecidableEq

namespace LineProducer

def subject? (p : LineProducer) : Event → Option Request
  | .ask request _ => some request
  | _ => p.busy.map LineRequest.request

def freed? (p next : LineProducer) : Option Nat :=
  if next.line.inFlight = p.line.inFlight then none else p.line.inFlight

def noted (p : LineProducer) (subject : Option Request) :
    LineProducer × Option Reply → Option LineNote
  | (next, some reply) => subject.map fun request => .answered request reply (p.freed? next)
  | (next, none) => next.line.calls[p.line.calls.length]?.map fun call =>
    .issued p.line.calls.length call.operation

def note? (p : LineProducer) : Event → Option LineNote
  | .finish call outcome => match p.line.calls[call]? with
    | some ⟨_, none⟩ => some (.ended call outcome)
    | _ => none
  | e => p.noted (p.subject? e) (p.step e)

/-- What an event can do, and what is noted of it. -/
inductive Moves (p : LineProducer) : Option LineNote → LineProducer → Prop
  | idle : Moves p none p
  | refused (request : Request) (error : BrokerError) :
      Moves p (some (.answered request (.error error) none)) p
  | closed : Moves p (some (.answered .close (.ok ()) none)) p
  | waits {b : LineRequest} (idle : p.busy = none)
      (permitted : p.handle.status.permits b.request.operation = true)
      (wait : b.wait = if b.request.isCall then .turn b.request.operation else .settling) :
      Moves p none { p with busy := some b }
  | issued {b : LineRequest} (idle : p.busy = none)
      (permitted : p.handle.status.permits b.request.operation = true)
      (free : p.line.inFlight = none) (call : b.request.isCall = true) (own : b.wait = .own) :
      Moves p (some (.issued p.line.calls.length b.request.operation))
        { p with line := p.line.issue b.request.operation, busy := some b }
  | reissued {b : LineRequest} (busy : p.busy = some b) {operation parked : Operation} {j : Nat}
      {outcome : CallOutcome} (landed : p.line.Landed j parked outcome)
      (turn : b.wait = .turn operation) (other : parked = operation → outcome ≠ .replied (.ok ())) :
      Moves p (some (.issued p.line.calls.length operation))
        { p with line := p.line.issue operation, busy := some { b with wait := .own } }
  | answered {b : LineRequest} (busy : p.busy = some b) {parked : Operation} {j : Nat}
      {outcome : CallOutcome} (landed : p.line.Landed j parked outcome)
      (same : ∀ operation, b.wait = .turn operation →
        parked = operation ∧ outcome = .replied (.ok ())) :
      Moves p (some (.answered b.request (LineRequest.reply b outcome.reply) (some j)))
        ({ p with line := p.line.clear }.complete b.request (LineRequest.reply b outcome.reply)).1
  | completed (request : Request) (reply : Reply)
      (permitted : p.busy = none → p.handle.status.permits request.operation = true)
      (own : ∀ b, p.busy = some b → b.request = request)
      (failed : request.isCall = true → ∃ reason, reply = .error (.retriable reason)) :
      Moves p (some (.answered request reply none)) (p.complete request reply).1
  | ended {call : Nat} {operation : Operation}
      (running : p.line.calls[call]? = some ⟨operation, none⟩) (outcome : CallOutcome) :
      Moves p (some (.ended call outcome)) (p.finish call outcome)
  | givenUp (idle : p.busy = none) : Moves p none { p with handle := p.handle.markFatal }

variable {p : LineProducer}

theorem ask_moves (request : Request) (sendReply : Reply) :
    p.Moves (p.noted (some request) (p.ask request sendReply)) (p.ask request sendReply).1 := by
  have asked := p.asks request sendReply
  generalize p.noticed? (.ask request sendReply) = noticed at asked
  generalize p.ask request sendReply = next at asked
  cases asked with
  | ignored busy => simpa [noted] using .idle
  | refused error => simpa [noted, freed?] using .refused request error
  | closed close =>
    subst close
    simpa [noted, freed?] using .closed
  | settles idle direct permitted reply =>
    cases flying : p.line.inFlight with
    | none =>
      have settled : p.afterSettling request reply = p.complete request reply := by
        simp [afterSettling, CallLine.settle, flying]
      rw [settled]
      simpa [noted, freed?, complete] using
        .completed request reply (fun _ => permitted) (by simp [idle]) (by simp [direct])
    | some j =>
      have settled : p.afterSettling request reply =
          ({ p with busy := some ⟨request, .settling, reply⟩ }, none) := by
        simp [afterSettling, CallLine.settle, flying]
      have waits : p.Moves none { p with busy := some ⟨request, .settling, reply⟩ } :=
        .waits idle permitted (by simp [direct])
      simpa [settled, noted] using waits
  | calls idle call permitted =>
    cases flying : p.line.inFlight with
    | none =>
      have issued : p.throughLine request =
          ({ p with line := p.line.issue request.operation, busy := some ⟨request, .own, .ok ()⟩ },
            none) := by
        simp [throughLine, CallLine.request, flying]
      rw [issued]
      have issues := Moves.issued idle permitted flying call
        (rfl : (⟨request, .own, .ok ()⟩ : LineRequest).wait = .own)
      simpa [noted] using issues
    | some j =>
      have turned : p.throughLine request =
          ({ p with busy := some ⟨request, .turn request.operation, .ok ()⟩ }, none) := by
        simp [throughLine, CallLine.request, flying]
      have waits : p.Moves none
          { p with busy := some ⟨request, .turn request.operation, .ok ()⟩ } :=
        .waits idle permitted (by simp [call])
      simpa [turned, noted] using waits

theorem poll_moves : p.Moves (p.noted (p.busy.map LineRequest.request) p.poll) p.poll.1 := by
  cases busy : p.busy with
  | none => simpa [poll, busy, noted] using .idle
  | some b =>
    have looked := p.line.polls b.wait
    unfold poll
    rw [busy]
    dsimp only
    generalize p.line.poll b.wait = polled at looked
    obtain ⟨line, progress⟩ := polled
    cases looked with
    | pending =>
      have same : { p with line := p.line, busy := some { b with wait := b.wait } } = p := by
        simp [← busy]
      simpa [noted, same] using .idle
    | @issued j parked operation outcome landed turn other =>
      simpa [noted] using .reissued busy landed turn other
    | answered landed same =>
      simpa [noted, complete, freed?, landed.inFlight] using .answered busy landed same

theorem expire_moves : p.Moves (p.noted (p.busy.map LineRequest.request) p.expire) p.expire.1 := by
  cases busy : p.busy with
  | none => simpa [expire, busy, noted] using .idle
  | some b =>
    have own : ∀ b', p.busy = some b' → b'.request = b.request := by simp [busy]
    have idle : p.busy = none → p.handle.status.permits b.request.operation = true := by
      simp [busy]
    by_cases close : b.request = .close
    · have expired : p.expire = p.complete b.request (.ok ()) := by simp [expire, busy, close]
      rw [expired]
      simpa [noted, complete, freed?] using
        .completed b.request (.ok ()) idle own (by simp [close, Request.isCall])
    · have expired : p.expire = p.complete b.request (p.handle.verdict none) := by
        simp only [expire, busy]
      rw [expired]
      simpa [noted, complete, freed?] using
        .completed b.request (p.handle.verdict none) idle own fun _ => ⟨_, rfl⟩

theorem moves (p : LineProducer) (e : Event) : p.Moves (p.note? e) (p.step e).1 := by
  cases e with
  | ask request sendReply => exact ask_moves request sendReply
  | poll => exact poll_moves
  | expire => exact expire_moves
  | finish call outcome =>
    have same (ended : ∀ operation, p.line.calls[call]? ≠ some ⟨operation, none⟩) :
        p.finish call outcome = p := by
      rw [finish, CallLine.finish_of_ended ended]
    rcases hc : p.line.calls[call]? with _ | ⟨operation, _ | ended⟩
    · simpa [note?, step, hc, same] using .idle
    · simpa [note?, step, hc] using .ended hc outcome
    · simpa [note?, step, hc, same] using .idle
  | markFatal =>
    cases idle : p.busy with
    | none =>
      have given : p.Moves none { p with handle := p.handle.markFatal } := .givenUp idle
      simpa [note?, step, noted, idle] using given
    | some b => simpa [note?, step, noted, idle] using .idle

theorem noted_eq_answered {subject : Option Request}
    {next : LineProducer × Option Reply} {request : Request} {reply : Reply} {source : Option Nat}
    (h : p.noted subject next = some (.answered request reply source)) :
    subject = some request ∧ next.2 = some reply ∧ p.freed? next.1 = source := by
  obtain ⟨next, _ | answer⟩ := next
  · simp [noted] at h
  · obtain ⟨asked, rfl, same⟩ := Option.map_eq_some_iff.mp h
    cases same
    exact ⟨rfl, rfl, rfl⟩

theorem noted_of_answered {e : Event} {request : Request} {reply : Reply}
    {source : Option Nat} (h : p.note? e = some (.answered request reply source)) :
    p.subject? e = some request ∧ (p.step e).2 = some reply ∧ p.freed? (p.step e).1 = source := by
  cases e with
  | finish j outcome =>
    simp only [note?] at h
    split at h <;> cases h
  | _ => exact noted_eq_answered h

end LineProducer

abbrev LineNotes := List LineNote

namespace LineNotes

def line : LineNotes → CallLine
  | [] => {}
  | .issued _ operation :: past => (line past).issue operation
  | .ended call outcome :: past => (line past).finish call outcome
  | .answered _ _ (some _) :: past => (line past).clear
  | .answered _ _ none :: past => line past

def Begun (past : LineNotes) : Prop := ∃ source, .answered .begin (.ok ()) source ∈ past

/-- What may be noted after the notes that have been taken. -/
inductive Admits (past : LineNotes) : LineNote → Prop
  | issued {operation : Operation} (quiet : past.line.Quiet)
      (fresh : ∀ j, ¬ past.line.Landed j operation (.replied (.ok ()))) :
      Admits past (.issued past.line.calls.length operation)
  | ended {call : Nat} {operation : Operation} {outcome : CallOutcome}
      (running : past.line.calls[call]? = some ⟨operation, none⟩) :
      Admits past (.ended call outcome)
  | delivered {request : Request} {reply : Reply} {outcome : CallOutcome} {j : Nat}
      (landed : past.line.Landed j request.operation outcome) (call : request.isCall = true)
      (replied : reply = outcome.reply) (begun : request = .commit → past.Begun) :
      Admits past (.answered request reply (some j))
  | settled {request : Request} {reply : Reply} {operation : Operation} {outcome : CallOutcome}
      {j : Nat} (landed : past.line.Landed j operation outcome) (direct : request.isCall = false) :
      Admits past (.answered request reply (some j))
  | plain {request : Request} {reply : Reply} (failed : request.isCall = true → reply ≠ .ok ()) :
      Admits past (.answered request reply none)

inductive Faithful : LineNotes → Prop
  | nil : Faithful []
  | cons {past : LineNotes} {n : LineNote} (faithful : Faithful past) (admits : past.Admits n) :
      Faithful (n :: past)

variable {past : LineNotes}

theorem Begun.cons (h : past.Begun) (n : LineNote) : Begun (n :: past) :=
  h.imp fun _ => List.mem_cons_of_mem n

theorem Faithful.orderly (h : past.Faithful) : past.line.Orderly := by
  induction h with
  | nil => exact CallLine.orderly_empty
  | cons faithful admits ih =>
    cases admits with
    | issued quiet fresh => exact .issue quiet _
    | ended running => exact ih.finish _ _
    | delivered landed | settled landed => exact .clear (ih.quiet_of_landed landed)
    | plain failed => exact ih

end LineNotes

theorem Request.ne_close_of_isCall {request : Request} (call : request.isCall = true) :
    request ≠ .close := by
  rintro rfl
  cases call

theorem Request.eq_begin_of_operation {request : Request} (h : request.operation = .begin) :
    request = .begin := by
  cases request <;> simp_all [operation]

def Status.IsOpen (s : Status) : Prop := s = .inTransaction ∨ s = .abortable

theorem Handle.isOpen_of_markFatal {h : Handle} (isOpen : h.markFatal.status.IsOpen) :
    h.status.IsOpen := by
  unfold markFatal at isOpen
  split at isOpen
  · exact isOpen
  · simp [Status.IsOpen] at isOpen

theorem Status.isOpen_of_after {s : Status} {operation : Operation} {reply : Reply}
    (permitted : s.permits operation = true) (h : (s.after operation reply).IsOpen) :
    s.IsOpen ∨ operation = .begin ∧ reply = .ok () := by
  cases operation with
  | init => cases permitted
  | close => simp [after, IsOpen] at h
  | send | commit => exact .inl (.inl (by simpa [permits] using permitted))
  | abort => exact .inl (by simpa [permits, IsOpen] using permitted)
  | begin =>
    obtain rfl : s = .ready := by simpa [permits] using permitted
    rcases reply with error | -
    · cases error <;> simp [after, isTerminal, IsOpen] at h
    · exact .inr ⟨rfl, rfl⟩

namespace LineProducer

def Suits (b : LineRequest) (l : CallLine) : Prop :=
  match b.wait with
  | .settling => b.request.isCall = false
  | .turn operation => b.request.isCall = true ∧ operation = b.request.operation
  | .own => b.request.isCall = true ∧
    ∃ j outcome, l.inFlight = some j ∧ l.calls[j]? = some ⟨b.request.operation, outcome⟩

namespace Suits

variable {b : LineRequest} {l : CallLine}

theorem finish (h : Suits b l) (call : Nat) (outcome : CallOutcome) :
    Suits b (l.finish call outcome) := by
  unfold Suits at *
  split at h
  · exact h
  · exact h
  · obtain ⟨isCall, j, ended, flying, called⟩ := h
    obtain ⟨result, called⟩ := CallLine.finish_operation called call outcome
    exact ⟨isCall, j, result, flying, called⟩

theorem own (h : Suits b l) {j : Nat} {parked : Operation} {outcome : CallOutcome}
    (landed : l.Landed j parked outcome)
    (same : ∀ operation, b.wait = .turn operation →
      parked = operation ∧ outcome = .replied (.ok ())) (call : b.request.isCall = true) :
    parked = b.request.operation := by
  unfold Suits at h
  split at h
  · simp [call] at h
  · exact (same _ ‹_›).1.trans h.2
  · obtain ⟨-, k, ended, flying, called⟩ := h
    obtain rfl : k = j := Option.some.inj (flying.symm.trans landed.inFlight)
    exact (congrArg BlockingCall.operation
      (Option.some.inj (landed.call.symm.trans called)))

end Suits

theorem reply_of_isCall {b : LineRequest} (call : b.request.isCall = true) (outcome : Reply) :
    LineRequest.reply b outcome = outcome := by
  unfold LineRequest.reply
  split
  · simp_all [Request.isCall]
  · simp_all [Request.isCall]
  · rfl

structure Told (past : LineNotes) (p : LineProducer) : Prop where
  faithful : past.Faithful
  line : p.line = past.line
  suits : ∀ b, p.busy = some b → Suits b p.line
  permitted : ∀ b, p.busy = some b → p.handle.status.permits b.request.operation = true
  begun : p.handle.status.IsOpen → past.Begun

namespace Told

variable {past : LineNotes} {p next : LineProducer} {note : Option LineNote}

theorem orderly (h : Told past p) : p.line.Orderly := h.line ▸ h.faithful.orderly

theorem of_turn (h : Told past p) {b : LineRequest} (busy : p.busy = some b)
    {operation : Operation} (turn : b.wait = .turn operation) :
    b.request.isCall = true ∧ operation = b.request.operation := by
  simpa [Suits, turn] using h.suits b busy

theorem permits (h : Told past p) {request : Request}
    (idle : p.busy = none → p.handle.status.permits request.operation = true)
    (own : ∀ b, p.busy = some b → b.request = request) :
    p.handle.status.permits request.operation = true := by
  cases busy : p.busy with
  | none => exact idle busy
  | some b => exact own b busy ▸ h.permitted b busy

theorem begun_of_commit (h : Told past p)
    (permitted : p.handle.status.permits .commit = true) : past.Begun :=
  h.begun (.inl (by simpa [Status.permits] using permitted))

theorem plain (h : Told past p) {request : Request} {reply : Reply}
    (failed : request.isCall = true → reply ≠ .ok ()) :
    Told (.answered request reply none :: past) p :=
  { h with faithful := h.faithful.cons (.plain failed), begun := fun o => (h.begun o).cons _ }

theorem complete (h : Told past p) {l : CallLine} {request : Request} {reply : Reply}
    {source : Option Nat} (permitted : p.handle.status.permits request.operation = true)
    (admits : past.Admits (.answered request reply source))
    (line : l = LineNotes.line (.answered request reply source :: past)) :
    Told (.answered request reply source :: past)
      (LineProducer.complete { p with line := l } request reply).1 where
  faithful := h.faithful.cons admits
  line := line
  suits _ hb := nomatch hb
  permitted _ hb := nomatch hb
  begun isOpen := by
    rcases Status.isOpen_of_after permitted isOpen with before | ⟨begins, rfl⟩
    · exact (h.begun before).cons _
    · obtain rfl := Request.eq_begin_of_operation begins
      exact ⟨source, List.mem_cons_self⟩

theorem issue (h : Told past p) {b : LineRequest} {operation : Operation}
    (quiet : p.line.Quiet) (fresh : ∀ j, ¬ p.line.Landed j operation (.replied (.ok ())))
    (permitted : p.handle.status.permits b.request.operation = true)
    (call : b.request.isCall = true) (same : operation = b.request.operation)
    (own : b.wait = .own) :
    Told (.issued p.line.calls.length operation :: past)
      { p with line := p.line.issue operation, busy := some b } where
  faithful := by
    rw [h.line] at quiet fresh ⊢
    exact h.faithful.cons (.issued quiet fresh)
  line := by rw [h.line]; rfl
  suits b' hb := by
    obtain rfl : b = b' := Option.some.inj hb
    simp [Suits, own, call, same]
  permitted b' hb := by
    obtain rfl : b = b' := Option.some.inj hb
    exact permitted
  begun isOpen := (h.begun isOpen).cons _

theorem step (h : p.Told past) (moved : p.Moves note next) : next.Told (note.toList ++ past) := by
  cases moved with
  | idle => exact h
  | refused request error => exact h.plain (by simp)
  | closed => exact h.plain (by simp [Request.isCall])
  | @waits b idle permitted wait =>
    refine { h with suits := fun b' hb => ?_, permitted := fun b' hb => ?_ }
    · obtain rfl : b = b' := Option.some.inj hb
      rw [Suits, wait]
      cases b.request.isCall <;> simp
    · obtain rfl : b = b' := Option.some.inj hb
      exact permitted
  | issued idle permitted free call own =>
    have fresh (operation : Operation) (j : Nat) :
        ¬ p.line.Landed j operation (.replied (.ok ())) := fun landed => by
      simpa [free] using landed.inFlight
    exact h.issue (h.orderly.quiet_of_idle free) (fresh _) permitted call rfl own
  | @reissued b busy operation parked j outcome landed turn other =>
    obtain ⟨call, same⟩ := h.of_turn busy turn
    have fresh (k : Nat) : ¬ p.line.Landed k operation (.replied (.ok ())) := fun again => by
      obtain ⟨-, parked, succeeded⟩ := landed.unique again
      exact other parked succeeded
    have quiet := h.orderly.quiet_of_landed landed
    exact h.issue quiet fresh (h.permitted b busy) call same
      (rfl : { b with wait := .own }.wait = .own)
  | @answered b busy parked j outcome landed same =>
    have permitted := h.permitted b busy
    refine h.complete permitted ?_ (congrArg CallLine.clear h.line)
    -- Either the call was issued for this request, or the request had its turn after this call.
    have own := (h.suits b busy).own landed same
    rw [h.line] at landed
    cases call : b.request.isCall with
    | false => exact .settled landed call
    | true =>
      exact .delivered (own call ▸ landed) call (reply_of_isCall call _) fun commit =>
        h.begun_of_commit (by simpa [commit, Request.operation] using permitted)
  | completed request reply permitted own failed =>
    refine h.complete (h.permits permitted own) (.plain fun call => ?_) h.line
    obtain ⟨reason, rfl⟩ := failed call
    simp
  | ended running outcome =>
    exact {
      faithful := h.faithful.cons (.ended (h.line ▸ running))
      line := congrArg (CallLine.finish · _ outcome) h.line
      suits := fun b busy => (h.suits b busy).finish _ outcome
      permitted := h.permitted
      begun := fun isOpen => (h.begun isOpen).cons _ }
  | givenUp idle =>
    exact { h with
      suits := h.suits
      permitted := by simp [idle]
      begun := fun isOpen => h.begun (Handle.isOpen_of_markFatal isOpen) }

end Told

def notes (p : LineProducer) (past : LineNotes) : List Event → LineNotes
  | [] => past
  | e :: later => (p.step e).1.notes ((p.note? e).toList ++ past) later

theorem Told.after {past : LineNotes} {p : LineProducer} (h : p.Told past) (events : List Event) :
    (p.after events).Told (p.notes past events) := by
  induction events generalizing p past with
  | nil => exact h
  | cons e events ih => exact ih (h.step (p.moves e))

theorem notes_append (p : LineProducer) (past : LineNotes) (events later : List Event) :
    p.notes past (events ++ later) = (p.after events).notes (p.notes past events) later := by
  induction events generalizing p past with
  | nil => rfl
  | cons e events ih => exact ih _ _

end LineProducer

namespace LineRun

def notes (r : LineRun) : LineNotes := r.start.notes [] r.events

theorem told (r : LineRun) : r.producer.Told r.notes := by
  have fresh : r.start.Told [] := {
    faithful := .nil
    line := rfl
    suits := by simp [start]
    permitted := by simp [start]
    begun := by simp [start, Status.IsOpen] }
  exact fresh.after r.events

theorem extend_producer (r : LineRun) (later : List LineProducer.Event) :
    (r.extend later).producer = r.producer.after later := List.foldl_append

theorem extend_notes (r : LineRun) (later : List LineProducer.Event) :
    (r.extend later).notes = r.producer.notes r.notes later := LineProducer.notes_append _ _ _ _

@[elab_as_elim]
theorem by_events {P : LineRun → Prop} (r : LineRun) (idle : ∀ r : LineRun, r.events = [] → P r)
    (event : ∀ (r : LineRun) (e : LineProducer.Event), P r → P (r.extend [e])) : P r := by
  obtain ⟨session, brokers, id, limit, events⟩ := r
  induction events using List.reverseRecOn with
  | nil => exact idle _ rfl
  | append_singleton events e ih => exact event _ e ih

end LineRun

end OutcomeRelay
