import OutcomeRelay.Producer.LineProducer
import OutcomeRelay.Proofs.CallLine

set_option autoImplicit false

/-!
# Callers that come and go

A desk is a line of calls together with the caller who waits there. Callers come one at a time and
may give up at any moment, while the calls go on by themselves. The requests are numbered, and the
desk remembers which of them issued each call. Main statement: however callers come and go, and
whatever becomes of the calls, no two calls run at once, and a request whose caller has given up
issues nothing any more; and the same is true of a producer, whose line is that of a desk.
-/

namespace OutcomeRelay

structure Caller where
  number : Nat
  wait : CallLine.Wait
deriving DecidableEq

/-- The requests that were made so far are those below `arrived`; `issuers` are the requests that
issued the calls of the line. -/
structure Desk where
  line : CallLine := {}
  caller : Option Caller := none
  arrived : Nat := 0
  issuers : List Nat := []
deriving DecidableEq

namespace Desk

inductive Event where
  | request (operation : Operation)
  | settle
  | poll
  /-- The caller goes away, and a call in flight stays parked. -/
  | giveUp
  | finish (call : Nat) (outcome : CallOutcome)
deriving DecidableEq

/-- What request `number` makes of the line, and what its caller waits for from now on. Calls that
were added are calls of this request. -/
def serve (d : Desk) (number : Nat) (line : CallLine) (wait : Option CallLine.Wait) : Desk :=
  { d with
    line := line
    caller := wait.map fun wait => ⟨number, wait⟩
    issuers := d.issuers ++ List.replicate (line.calls.length - d.line.calls.length) number }

def count (d : Desk) : Desk := { d with arrived := d.arrived + 1 }

def arrive (d : Desk) (line : CallLine) (wait : Option CallLine.Wait) : Desk :=
  if d.caller.isSome then d else d.count.serve d.arrived line wait

def look (d : Desk) (c : Caller) : Desk :=
  match d.line.poll c.wait with
  | (line, .waiting wait) => d.serve c.number line (some wait)
  | (line, .answered _) => d.serve c.number line none

def step (d : Desk) : Event → Desk
  | .request operation =>
    match d.line.request operation with
    | (line, wait) => d.arrive line (some wait)
  | .settle => d.arrive d.line d.line.settle
  | .poll => d.caller.elim d d.look
  | .giveUp => { d with caller := none }
  | .finish call outcome => { d with line := d.line.finish call outcome }

def after (d : Desk) (events : List Event) : Desk := events.foldl step d

def await (d : Desk) (number : Nat) (wait : Option CallLine.Wait) : Desk :=
  { d with caller := wait.map fun wait => ⟨number, wait⟩ }

def issue (d : Desk) (number : Nat) (operation : Operation) : Desk :=
  { d with
    line := d.line.issue operation
    caller := some ⟨number, .own⟩
    issuers := d.issuers ++ [number] }

def release (d : Desk) : Desk := { d with line := d.line.clear, caller := none }

inductive Steps (d : Desk) : Desk → Prop
  | idle : Steps d d
  | arrived (free : d.caller = none) (wait : Option CallLine.Wait)
      (parked : wait.isSome → d.line.inFlight.isSome) : Steps d (d.count.await d.arrived wait)
  | issued (free : d.caller = none) (idle : d.line.inFlight = none) (operation : Operation) :
      Steps d (d.count.issue d.arrived operation)
  | reissued {c : Caller} (hc : d.caller = some c) {j : Nat} {parked : Operation}
      {outcome : CallOutcome} (landed : d.line.Landed j parked outcome) (operation : Operation) :
      Steps d (d.issue c.number operation)
  | answered {c : Caller} (hc : d.caller = some c) {j : Nat} {parked : Operation}
      {outcome : CallOutcome} (landed : d.line.Landed j parked outcome) : Steps d d.release
  | left : Steps d { d with caller := none }
  | finished (call : Nat) (outcome : CallOutcome) :
      Steps d { d with line := d.line.finish call outcome }

theorem serve_same (d : Desk) (number : Nat) (wait : Option CallLine.Wait) :
    d.serve number d.line wait = d.await number wait := by
  simp [serve, await]

theorem serve_issue (d : Desk) (number : Nat) (operation : Operation) :
    d.serve number (d.line.issue operation) (some .own) = d.issue number operation := by
  simp [serve, issue]

theorem serve_clear (d : Desk) (number : Nat) :
    d.serve number d.line.clear none = d.release := by
  simp [serve, release]

variable {d next : Desk}

theorem look_steps {c : Caller} (hc : d.caller = some c) : d.Steps (d.look c) := by
  have looked := d.line.polls c.wait
  unfold look
  generalize d.line.poll c.wait = polled at looked
  obtain ⟨line, progress⟩ := polled
  cases looked with
  | pending =>
    have same : d.await c.number (some c.wait) = d := by simp [await, ← hc]
    simpa only [serve_same, same] using .idle
  | @issued j parked operation outcome landed turn other =>
    change d.Steps (d.serve c.number (d.line.issue operation) (some .own))
    exact serve_issue d c.number operation ▸ .reissued hc landed operation
  | answered landed same =>
    change d.Steps (d.serve c.number d.line.clear none)
    exact serve_clear d c.number ▸ .answered hc landed

theorem arrive_steps (line : CallLine) (wait : Option CallLine.Wait)
    (steps : d.caller = none → d.Steps (d.count.serve d.arrived line wait)) :
    d.Steps (d.arrive line wait) := by
  unfold arrive
  cases hc : d.caller with
  | some c => exact .idle
  | none => exact steps hc

theorem steps (d : Desk) (e : Event) : d.Steps (d.step e) := by
  cases e with
  | request operation =>
    refine arrive_steps _ _ fun free => ?_
    cases flying : d.line.inFlight with
    | none => exact serve_issue d.count d.arrived operation ▸ .issued free flying operation
    | some j => exact serve_same d.count d.arrived _ ▸ .arrived free _ (by simp [flying])
  | settle =>
    refine arrive_steps _ _ fun free => ?_
    exact serve_same d.count d.arrived _ ▸ .arrived free _ (by simp [CallLine.settle])
  | poll =>
    cases hc : d.caller with
    | none => simpa [step, hc] using .idle
    | some c => simpa [step, hc] using look_steps hc
  | giveUp => exact .left
  | finish call outcome => exact .finished call outcome

structure Sound (d : Desk) : Prop where
  orderly : d.line.Orderly
  attended : ∀ c, d.caller = some c → d.line.inFlight.isSome ∧ c.number < d.arrived
  counted : d.issuers.length = d.line.calls.length
  made : ∀ k ∈ d.issuers, k < d.arrived

namespace Sound

theorem empty : Sound {} := ⟨CallLine.orderly_empty, by simp, rfl, by simp⟩

theorem count (h : d.Sound) : d.count.Sound where
  orderly := h.orderly
  attended c hc := ⟨(h.attended c hc).1, Nat.lt_succ_of_lt (h.attended c hc).2⟩
  counted := h.counted
  made k mem := Nat.lt_succ_of_lt (h.made k mem)

theorem await (h : d.Sound) {number : Nat} {wait : Option CallLine.Wait}
    (parked : wait.isSome → d.line.inFlight.isSome) (made : number < d.arrived) :
    (d.await number wait).Sound where
  orderly := h.orderly
  attended := by
    rintro c hc
    obtain ⟨w, rfl, rfl⟩ := Option.map_eq_some_iff.mp hc
    exact ⟨parked rfl, made⟩
  counted := h.counted
  made := h.made

theorem issue (h : d.Sound) (quiet : d.line.Quiet) {number : Nat} (made : number < d.arrived)
    (operation : Operation) : (d.issue number operation).Sound where
  orderly := .issue quiet operation
  attended := by simp [Desk.issue, made]
  counted := by simp [Desk.issue, h.counted]
  made := by simpa [Desk.issue, or_imp, forall_and, made] using h.made

theorem step (h : d.Sound) (stepped : d.Steps next) : next.Sound := by
  cases stepped with
  | idle => exact h
  | arrived free wait parked => exact h.count.await parked (Nat.lt_succ_self _)
  | issued free idle operation =>
    exact h.count.issue (h.orderly.quiet_of_idle idle) (Nat.lt_succ_self _) operation
  | reissued hc landed operation =>
    exact h.issue (h.orderly.quiet_of_landed landed) (h.attended _ hc).2 operation
  | answered hc landed =>
    exact ⟨.clear (h.orderly.quiet_of_landed landed), by simp [release], h.counted, h.made⟩
  | left => exact ⟨h.orderly, by simp, h.counted, h.made⟩
  | finished call outcome =>
    exact ⟨h.orderly.finish call outcome, h.attended, by simp [h.counted], h.made⟩

theorem quiet_of_longer (h : d.Sound) (stepped : d.Steps next)
    (longer : d.line.calls.length < next.line.calls.length) : d.line.Quiet := by
  cases stepped with
  | issued free idle operation => exact h.orderly.quiet_of_idle idle
  | reissued hc landed operation => exact h.orderly.quiet_of_landed landed
  | finished call outcome => simp at longer
  | _ => exact absurd longer (Nat.lt_irrefl _)

end Sound

structure Gone (d : Desk) (k : Nat) : Prop where
  made : k < d.arrived
  away : ∀ c, d.caller = some c → c.number ≠ k
  idle : k ∉ d.issuers

namespace Gone

variable {k : Nat}

theorem step (h : d.Gone k) (stepped : d.Steps next) : next.Gone k := by
  -- A request is numbered when it is made, and this one has been made.
  have later : k ≠ d.arrived := Nat.ne_of_lt h.made
  cases stepped with
  | idle => exact h
  | arrived free wait parked =>
    refine ⟨Nat.lt_succ_of_lt h.made, fun c hc => ?_, h.idle⟩
    obtain ⟨w, -, rfl⟩ := Option.map_eq_some_iff.mp hc
    exact later.symm
  | issued free idle operation =>
    have unissued : k ∉ (d.count.issue d.arrived operation).issuers := by
      simp [issue, count, h.idle, later]
    exact ⟨Nat.lt_succ_of_lt h.made, by simp [issue, later.symm], unissued⟩
  | reissued hc landed operation =>
    exact ⟨h.made, by simp [issue, h.away _ hc], by simp [issue, h.idle, (h.away _ hc).symm]⟩
  | answered hc landed => exact ⟨h.made, by simp [release], h.idle⟩
  | left => exact ⟨h.made, by simp, h.idle⟩
  | finished call outcome => exact ⟨h.made, h.away, h.idle⟩

end Gone

theorem Sound.gone (h : d.Sound) {c : Caller} (hc : d.caller = some c)
    (unissued : c.number ∉ d.issuers) : (d.step .giveUp).Gone c.number :=
  ⟨(h.attended c hc).2, by simp [Desk.step], unissued⟩

theorem after_keeps {P : Desk → Prop} (step : ∀ d next, P d → d.Steps next → P next) (h : P d)
    (events : List Event) : P (d.after events) := by
  induction events generalizing d with
  | nil => exact h
  | cons e events ih => exact ih (step _ _ h (d.steps e))

/-- Calls follow one another at the desk, and only those who wait issue them. -/
structure Exclusive (d : Desk) : Prop where
  running : d.line.running ≤ 1
  /-- A call that has not ended is the one that is awaited or parked. -/
  inFlight : ∀ j call, d.line.calls[j]? = some call → call.outcome = none →
    d.line.inFlight = some j
  attended : ∀ c, d.caller = some c → d.line.inFlight.isSome
  /-- When a call is issued, all calls before it have ended. -/
  successive : ∀ e, d.line.calls.length < (d.step e).line.calls.length →
    ∀ call ∈ d.line.calls, call.outcome ≠ none
  counted : d.issuers.length = d.line.calls.length
  /-- A request that has not issued its call when its caller gives up never issues it. -/
  abandoned : ∀ c, d.caller = some c → c.number ∉ d.issuers → ∀ later,
    c.number ∉ ((d.step .giveUp).after later).issuers

theorem Sound.exclusive (h : d.Sound) : d.Exclusive where
  running := h.orderly.running_le_one
  inFlight := h.orderly.unfinished
  attended c hc := (h.attended c hc).1
  successive e := h.quiet_of_longer (d.steps e)
  counted := h.counted
  abandoned _ hc unissued later :=
    (after_keeps (fun _ _ => Gone.step) (h.gone hc unissued) later).idle

end Desk

/-! ### The line of a producer -/

def Request.isCall : Request → Bool
  | send _ _ | close => false
  | _ => true

namespace LineProducer

inductive Event where
  | ask (request : Request) (sendReply : Reply)
  | poll
  | expire
  | finish (call : Nat) (outcome : CallOutcome)
  | markFatal
deriving DecidableEq

def step (p : LineProducer) : Event → LineProducer × Option Reply
  | .ask request sendReply => p.ask request sendReply
  | .poll => p.poll
  | .expire => p.expire
  | .finish call outcome => (p.finish call outcome, none)
  | .markFatal => (if p.busy.isSome then p else { p with handle := p.handle.markFatal }, none)

def after (p : LineProducer) (events : List Event) : LineProducer :=
  events.foldl (fun p e => (p.step e).1) p

/-- What the line of the producer notices of an event. -/
def noticed? (p : LineProducer) : Event → Option Desk.Event
  | .ask request _ =>
    if p.busy.isSome || (p.handle.refusal? request.operation).isSome then none
    else match request with
      | .close => if p.handle.status = .closed then none else some .settle
      | .send _ _ => some .settle
      | request => some (.request request.operation)
  | .poll => some .poll
  | .expire => some .giveUp
  | .finish call outcome => some (.finish call outcome)
  | .markFatal => none

inductive Asks (p : LineProducer) (request : Request) (sendReply : Reply) :
    Option Desk.Event → LineProducer × Option Reply → Prop
  | ignored {b : LineRequest} (busy : p.busy = some b) : Asks p request sendReply none (p, none)
  | refused (error : BrokerError) : Asks p request sendReply none (p, some (.error error))
  | closed (close : request = .close) : Asks p request sendReply none (p, some (.ok ()))
  | settles (idle : p.busy = none) (direct : request.isCall = false)
      (permitted : p.handle.status.permits request.operation = true) (reply : Reply) :
      Asks p request sendReply (some .settle) (p.afterSettling request reply)
  | calls (idle : p.busy = none) (call : request.isCall = true)
      (permitted : p.handle.status.permits request.operation = true) :
      Asks p request sendReply (some (.request request.operation)) (p.throughLine request)

theorem asks (p : LineProducer) (request : Request) (sendReply : Reply) :
    p.Asks request sendReply (p.noticed? (.ask request sendReply)) (p.ask request sendReply) := by
  cases busy : p.busy with
  | some b => simpa [noticed?, ask, busy] using .ignored busy
  | none =>
    cases refusal : p.handle.refusal? request.operation with
    | some error => simpa [noticed?, ask, busy, refusal] using .refused error
    | none =>
      have permitted : p.handle.status.permits request.operation = true := by
        simpa [Handle.refusal?] using refusal
      cases request with
      | close =>
        by_cases closed : p.handle.status = .closed
        · simpa [noticed?, ask, busy, refusal, closed] using .closed rfl
        · simpa [noticed?, ask, busy, refusal, closed] using .settles busy rfl permitted (.ok ())
      | send topic payload =>
        simpa [noticed?, ask, busy, refusal] using .settles busy rfl permitted sendReply
      | init | begin | commit | abort =>
        simpa [noticed?, ask, busy, refusal] using .calls busy rfl permitted

def follow (p : LineProducer) (d : Desk) (e : Event) : Desk := (p.noticed? e).elim d d.step

structure Matches (p : LineProducer) (d : Desk) : Prop where
  line : d.line = p.line
  wait : d.caller.map Caller.wait = p.busy.map LineRequest.wait

variable {p : LineProducer} {d : Desk}

namespace Matches

theorem caller (h : p.Matches d) (idle : p.busy = none) : d.caller = none := by
  simpa [idle] using h.wait

theorem ask (h : p.Matches d) (request : Request) (sendReply : Reply) :
    (p.ask request sendReply).1.Matches (p.follow d (.ask request sendReply)) := by
  have asked := p.asks request sendReply
  unfold follow
  generalize p.noticed? (.ask request sendReply) = noticed at asked
  generalize p.ask request sendReply = next at asked
  cases asked with
  | ignored | refused | closed => exact h
  | settles idle direct permitted reply =>
    have served : d.step .settle = d.count.await d.arrived d.line.settle := by
      simp [Desk.step, Desk.arrive, h.caller idle, ← Desk.serve_same, Desk.count]
    rw [Option.elim, served, h.line]
    unfold afterSettling
    cases p.line.settle with
    | none => exact ⟨h.line, rfl⟩
    | some wait => exact ⟨h.line, rfl⟩
  | calls idle =>
    simp only [Option.elim, Desk.step, Desk.arrive, h.caller idle, h.line]
    exact ⟨rfl, rfl⟩

theorem poll (h : p.Matches d) : p.poll.1.Matches (d.step .poll) := by
  unfold LineProducer.poll
  cases hb : p.busy with
  | none => simpa [Desk.step, h.caller hb] using h
  | some b =>
    obtain ⟨c, hc, same⟩ : ∃ c, d.caller = some c ∧ c.wait = b.wait := by
      simpa [hb] using h.wait
    simp only [Desk.step, hc, Option.elim, Desk.look, h.line, same]
    obtain ⟨line, wait | reply⟩ := p.line.poll b.wait
    · exact ⟨rfl, rfl⟩
    · exact ⟨rfl, rfl⟩

theorem expire (h : p.Matches d) : p.expire.1.Matches (d.step .giveUp) := by
  unfold LineProducer.expire
  cases hb : p.busy with
  | none => exact ⟨h.line, by simp [hb, Desk.step]⟩
  | some b =>
    dsimp only
    split
    · exact ⟨h.line, rfl⟩
    · exact ⟨h.line, rfl⟩

theorem step (h : p.Matches d) (e : Event) : (p.step e).1.Matches (p.follow d e) := by
  cases e with
  | ask request sendReply => exact h.ask request sendReply
  | poll => exact h.poll
  | expire => exact h.expire
  | finish call outcome => exact ⟨congrArg (·.finish call outcome) h.line, h.wait⟩
  | markFatal =>
    simp only [LineProducer.step, follow, noticed?, Option.elim]
    split
    · exact h
    · exact ⟨h.line, h.wait⟩

end Matches

def desk (p : LineProducer) (d : Desk) : List Event → Desk
  | [] => d
  | e :: later => (p.step e).1.desk (p.follow d e) later

theorem follow_steps (p : LineProducer) (d : Desk) (e : Event) : d.Steps (p.follow d e) := by
  unfold follow
  cases p.noticed? e with
  | none => exact .idle
  | some noticed => exact d.steps noticed

theorem desk_keeps {P : Desk → Prop} (step : ∀ d next, P d → d.Steps next → P next) (h : P d)
    (events : List Event) : P (p.desk d events) := by
  induction events generalizing p d with
  | nil => exact h
  | cons e events ih => exact ih (step _ _ h (p.follow_steps d e))

theorem desk_append (p : LineProducer) (d : Desk) (events later : List Event) :
    p.desk d (events ++ later) = (p.after events).desk (p.desk d events) later := by
  induction events generalizing p d with
  | nil => rfl
  | cons e events ih => exact ih _ _

theorem Matches.desk (h : p.Matches d) (events : List Event) :
    (p.after events).Matches (p.desk d events) := by
  induction events generalizing p d with
  | nil => exact h
  | cons e events ih => exact ih (h.step e)

end LineProducer

structure LineRun where
  session : SessionId
  brokers : List String
  id : String
  limit : Span
  events : List LineProducer.Event

namespace LineRun

def start (r : LineRun) : LineProducer :=
  { handle := { session := r.session, brokers := r.brokers, id := r.id, limit := r.limit } }

def producer (r : LineRun) : LineProducer := r.start.after r.events

def desk (r : LineRun) : Desk := r.start.desk {} r.events

def extend (r : LineRun) (later : List LineProducer.Event) : LineRun :=
  { r with events := r.events ++ later }

variable (r : LineRun)

theorem extend_desk (later : List LineProducer.Event) :
    (r.extend later).desk = r.producer.desk r.desk later := LineProducer.desk_append _ _ _ _

theorem sound : r.desk.Sound := LineProducer.desk_keeps (fun _ _ => Desk.Sound.step) .empty _

theorem followed : r.producer.Matches r.desk := LineProducer.Matches.desk ⟨rfl, rfl⟩ _

structure Exclusive : Prop where
  line : r.desk.line = r.producer.line
  wait : r.desk.caller.map Caller.wait = r.producer.busy.map LineRequest.wait
  running : r.producer.line.running ≤ 1
  inFlight : ∀ j call, r.producer.line.calls[j]? = some call → call.outcome = none →
    r.producer.line.inFlight = some j
  successive : ∀ e, r.producer.line.calls.length < (r.producer.step e).1.line.calls.length →
    ∀ call ∈ r.producer.line.calls, call.outcome ≠ none
  counted : r.desk.issuers.length = r.producer.line.calls.length
  abandoned : ∀ c, r.desk.caller = some c → c.number ∉ r.desk.issuers → ∀ later,
    c.number ∉ (r.extend (.expire :: later)).desk.issuers

theorem exclusive : r.Exclusive where
  line := r.followed.line
  wait := r.followed.wait
  running := r.followed.line ▸ r.sound.orderly.running_le_one
  inFlight := r.followed.line ▸ r.sound.orderly.unfinished
  successive e longer := by
    rw [← (r.followed.step e).line, ← r.followed.line] at longer
    rw [← r.followed.line]
    exact r.sound.quiet_of_longer (r.producer.follow_steps r.desk e) longer
  counted := r.followed.line ▸ r.sound.counted
  abandoned c hc unissued later := by
    rw [extend_desk]
    exact (LineProducer.desk_keeps (fun _ _ => Desk.Gone.step) (r.sound.gone hc unissued) _).idle

end LineRun

/-- However callers come and go and whatever becomes of their calls, calls do not overlap: neither
on a line of its own nor on that of a producer. -/
theorem calls_never_overlap :
    (∀ events, (Desk.after {} events).Exclusive) ∧ ∀ r : LineRun, r.Exclusive :=
  ⟨fun events => (Desk.after_keeps (fun _ _ => Desk.Sound.step) .empty events).exclusive,
    LineRun.exclusive⟩

/-- The second request waits for the call of the first, whose caller has gone away. -/
example : let d := Desk.after {} [.request .commit, .giveUp, .request .abort]
    d.caller = some ⟨1, .turn .abort⟩ ∧ d.issuers = [0] := by
  decide

end OutcomeRelay
