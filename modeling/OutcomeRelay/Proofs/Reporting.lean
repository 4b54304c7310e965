import OutcomeRelay.Proofs.EnvelopeText
import OutcomeRelay.Proofs.ExactlyOnce
import OutcomeRelay.Proofs.OwnRecords
import OutcomeRelay.Scenario.Steps

set_option autoImplicit false

namespace OutcomeRelay

namespace Report

/-- The saga, the step or the reason of a failure consists of blanks only. -/
def Blank (report : Report) : Prop :=
  Text.isBlank report.sagaId = true ∨ Text.isBlank report.step = true ∨
    ∃ reason, report.outcome = .failed reason ∧ Text.isBlank reason = true

theorem record?_of_not_blank {report : Report} (told : ¬ report.Blank) (topic : String)
    (stamp : Stamp) :
    report.record? topic stamp = .ok ⟨topic, stamp.eventId, (report.envelope stamp).encode⟩ := by
  obtain ⟨sagaId, step, outcome⟩ := report
  simp only [Blank, not_or, Bool.not_eq_true] at told
  obtain ⟨saga, step, reason⟩ := told
  cases outcome with
  | succeeded => simp [record?, Envelope.record?, Envelope.flaw?, envelope, saga, step]
  | failed text =>
    have cause : Text.isBlank text = false := by simpa using reason
    simp [record?, Envelope.record?, Envelope.flaw?, envelope, saga, step, cause]

theorem record?_of_blank {report : Report} (blank : report.Blank) (topic : String)
    (stamp : Stamp) : ∃ error, report.record? topic stamp = .error error := by
  have flawed : ∃ error, (report.envelope stamp).flaw? = some error := by
    unfold Envelope.flaw? envelope
    split
    · exact ⟨_, rfl⟩
    split
    · exact ⟨_, rfl⟩
    · rcases blank with saga | step | ⟨reason, failed, cause⟩
      · contradiction
      · contradiction
      · simp [failed, cause]
  obtain ⟨error, flawed⟩ := flawed
  exact ⟨error, by simp [record?, Envelope.record?, flawed]⟩

end Report

namespace World

variable {w next : World} {past : Chronicle} {note : Option Note} {i : Nat}

def reported? (w : World) (i : Nat) : Option (Except ReportError String) := do
  let task ← w.tasks[i]?
  let outcome ← task.activity.outcome?
  Scenario.State.reportResult task.eventId outcome

theorem eventId_of_step {task : Task} (ht : w.tasks[i]? = some task) (hstep : w.Step note next) :
    ∃ later, next.tasks[i]? = some later ∧ later.eventId = task.eventId := by
  cases hstep with
  | same | tick | adjusted | forgot | spoiled | joined | requested => exact ⟨task, ht, rfl⟩
  | @begun base new note hb =>
    have here := (List.getElem?_eq_some_iff.mp ht).1
    refine ⟨task, ?_, rfl⟩
    rw [addTask_tasks, hb.tasks, List.getElem?_append_left here, ht]
  | @told index old service signal note ho hs told =>
    rw [signal_tasks hs]
    exact kept_of_set ht rfl ho id
  | opened ho | refused ho | answered ho | crashed ho | flagged ho => exact kept_of_set ht rfl ho id

theorem order?_of_step (called : i < w.tasks.length) (hstep : w.Step note next)
    (past : Chronicle) :
    Chronicle.order? i (note.toList ++ past) = past.order? i := by
  cases hstep with
  | same | tick | adjusted | forgot | spoiled | joined => rfl
  | opened | refused | crashed | flagged | answered | requested => rfl
  | begun hb =>
    rcases hb.note_cases with rfl | ⟨topic, payload, rfl⟩
    · rfl
    · have other : w.tasks.length ≠ i := (Nat.ne_of_lt called).symm
      simp [Chronicle.order?, Note.order?, other]
  | told ho hs told =>
    rcases told.note_cases with rfl | ⟨request, reply, rfl⟩ <;> rfl

def Holds (w : World) (past : Chronicle) (i : Nat) (eventId : Option String)
    (order : Option (String × ByteArray)) : Prop :=
  (∃ task, w.tasks[i]? = some task ∧ task.eventId = eventId) ∧ past.order? i = order

theorem Holds.run {eventId : Option String} {order : Option (String × ByteArray)}
    (h : w.Holds past i eventId order) (later : List Event) :
    (w.run later).Holds (w.chronicle past later) i eventId order := by
  refine run_keeps (P := fun past w => w.Holds past i eventId order) ?_ later h
  rintro past w note next ⟨⟨task, ht, rfl⟩, ordered⟩ hstep
  obtain ⟨still, there, same⟩ := eventId_of_step ht hstep
  have called := (List.getElem?_eq_some_iff.mp ht).1
  exact ⟨⟨still, there, same⟩, (order?_of_step called hstep past).trans ordered⟩

theorem outcome?_run {outcome : Outcome} (h : w.outcome? i = some outcome) (later : List Event) :
    (w.run later).outcome? i = some outcome := by
  induction later generalizing w with
  | nil => exact h
  | cons e later ih =>
    obtain ⟨task, ht, he⟩ := outcome?_eq_some.mp h
    exact ih (outcome?_eq_some.mpr (ended_of_step ht he (w.step_apply e)).1)

variable {service : Nat} {s : Service} {report : Report}

theorem start_of_told (known : w.services[service]? = some s) (told : ¬ report.Blank)
    (stamp : Stamp) (cancelled : Bool) (past : Chronicle) :
    (w.apply (.start service (.report report stamp) cancelled)).Holds
      ((w.note? (.start service (.report report stamp) cancelled)).toList ++ past) w.tasks.length
      (some stamp.eventId) (some (s.topic, (report.envelope stamp).encode)) := by
  have record := Report.record?_of_not_blank told s.topic stamp
  have started : w.apply (.start service (.report report stamp) cancelled) = w.addTask {
      service := service, activity := .borrowing (.publish s.topic (report.envelope stamp).encode),
      cancelled := cancelled, eventId := some stamp.eventId } := by
    simp [apply, eventTask?, start, known, record]
  refine ⟨⟨_, by rw [started, addTask_tasks, List.getElem?_concat_length], rfl⟩, ?_⟩
  simp [note?, orderNote?, known, Job.record?, record, Chronicle.order?, Note.order?]

theorem addTask_of_ended {task : Task} {outcome : Outcome} (he : task.activity = .ended outcome) :
    w.addTask task = { w with tasks := w.tasks ++ [w.moved task task.activity] } := by
  have silent : World.entry? { w with tasks := w.tasks ++ [w.moved task task.activity] }
      w.tasks.length (w.moved task task.activity) = none := by
    have rests (after : World) : after.demand (w.moved task task.activity) = .rest :=
      demand_of_ended he
    unfold entry?
    rw [rests]
  simp [addTask, noteCall, silent]

theorem start_of_blank (known : w.services[service]? = some s) (blank : report.Blank)
    (stamp : Stamp) (cancelled : Bool) :
    ∃ task error, w.apply (.start service (.report report stamp) cancelled) =
      { w with tasks := w.tasks ++ [task] } ∧ task.activity = .ended (.rejected error) := by
  obtain ⟨error, record⟩ := Report.record?_of_blank blank s.topic stamp
  have started : w.apply (.start service (.report report stamp) cancelled) = w.addTask {
      service := service, activity := .ended (.rejected error), cancelled := cancelled } := by
    simp [apply, eventTask?, start, known, record]
  exact ⟨_, error, started.trans (addTask_of_ended rfl), moved_activity _ _ _⟩

theorem reported?_eq {task : Task} (ht : w.tasks[i]? = some task) :
    w.reported? i = (w.outcome? i).bind (Scenario.State.reportResult task.eventId) := by
  simp [reported?, outcome?, ht]

theorem reported?_eq_ok_iff {task : Task} {own id : String} (ht : w.tasks[i]? = some task)
    (he : task.eventId = some own) :
    w.reported? i = some (.ok id) ↔ w.result? i = some (.ok ()) ∧ id = own := by
  rw [reported?_eq ht, he]
  unfold result?
  cases w.outcome? i with
  | none => simp
  | some outcome =>
    cases outcome with
    | published result =>
      cases result <;>
        simp [Scenario.State.reportResult, Scenario.State.publishResult, Report.conclude, eq_comm]
    | _ => simp [Scenario.State.reportResult, Scenario.State.publishResult, Report.conclude]

theorem reported?_of_rejected {error : OutcomeError} (h : w.outcome? i = some (.rejected error)) :
    w.reported? i = some (.error (.outcome error)) := by
  obtain ⟨task, ht, he⟩ := outcome?_eq_some.mp h
  simp [reported?, ht, he, Activity.outcome?, Scenario.State.reportResult]

end World

namespace Run

variable (r : Run) {i : Nat} {service : Nat} {s : Service} {report : Report}

/-- An outcome is reported to a service, and then anything may happen. -/
def reporting (service : Nat) (report : Report) (stamp : Stamp) (cancelled : Bool)
    (later : List Event) : Run :=
  r.extend (.start service (.report report stamp) cancelled :: later)

theorem reporting_holds (known : r.world.services[service]? = some s) (told : ¬ report.Blank)
    (stamp : Stamp) (cancelled : Bool) (later : List Event) :
    (r.reporting service report stamp cancelled later).world.Holds
      (r.reporting service report stamp cancelled later).chronicle r.world.tasks.length
      (some stamp.eventId) (some (s.topic, (report.envelope stamp).encode)) := by
  rw [reporting, extend_world, extend_chronicle]
  exact (World.start_of_told known told stamp cancelled r.chronicle).run later

theorem reporting_rejected (known : r.world.services[service]? = some s) (blank : report.Blank)
    (stamp : Stamp) (cancelled : Bool) :
    ∃ task error,
      (r.reporting service report stamp cancelled []).world =
        { r.world with tasks := r.world.tasks ++ [task] } ∧
      ∀ later, (r.reporting service report stamp cancelled later).world.outcome?
        r.world.tasks.length = some (.rejected error) := by
  obtain ⟨task, error, started, ended⟩ := World.start_of_blank known blank stamp cancelled
  refine ⟨task, error, (r.extend_world _).trans started, fun later => ?_⟩
  rw [reporting, extend_world]
  refine World.outcome?_run (World.outcome?_eq_some.mpr ⟨task, ?_, ended⟩) later
  rw [started]
  exact List.getElem?_concat_length

theorem log_of_one_posting {p : Posting} (one : r.chronicle.postingsOf i = [p]) :
    ((r.world.cluster.broker.topics.records p.topic).map StoredRecord.content).Perm
      (p.content :: ((r.chronicle.postings.filter
        fun q => q.topic = p.topic ∧ q.committer ≠ some i).map Posting.content)) := by
  have own : (r.chronicle.postings.filter fun q => q.topic = p.topic).filter
      (fun q => q.committer = some i) = [p] := by
    have posted : r.chronicle.postings.filter (fun q => q.committer = some i) = [p] := one
    rw [List.filter_comm, posted]
    simp
  have others : (r.chronicle.postings.filter fun q => q.topic = p.topic).filter
      (fun q => !decide (q.committer = some i)) =
      r.chronicle.postings.filter fun q => q.topic = p.topic ∧ q.committer ≠ some i := by
    rw [List.filter_filter]
    exact List.filter_congr fun q _ => by simp [Bool.and_comm]
  have parts := List.filter_append_perm (fun q => decide (q.committer = some i))
    (r.chronicle.postings.filter fun q => q.topic = p.topic)
  rw [own, others] at parts
  exact (r.shows p.topic).trans (parts.symm.map Posting.content)

/-- A report that is told an event id has put one record on the topic of its service, and from this
record an envelope can be read with the id and all that was reported. What consists of blanks
only is rejected at once, and nothing is touched by it. -/
theorem reported_readable (known : r.world.services[service]? = some s) (report : Report)
    {stamp : Stamp} (timely : (report.envelope stamp).Timely) (cancelled : Bool)
    (later : List Event)
    (prompt : (r.reporting service report stamp cancelled later).chronicle.Prompt) :
    let q := r.reporting service report stamp cancelled later
    let i := r.world.tasks.length
    (∀ id, q.world.reported? i = some (.ok id) ↔
      ¬ report.Blank ∧ q.world.result? i = some (.ok ()) ∧ id = stamp.eventId) ∧
    (q.world.result? i = some (.ok ()) → r.chronicle.postingsOf i = [] ∧
      ∃ producer payload,
        q.chronicle.postingsOf i = [⟨some i, some i, producer, s.topic, payload⟩] ∧
        ((q.world.cluster.broker.topics.records s.topic).map StoredRecord.content).Perm
          ((producer, payload) :: ((q.chronicle.postings.filter
            fun p => p.topic = s.topic ∧ p.committer ≠ some i).map Posting.content)) ∧
        Envelope.decode? payload = some
          ⟨stamp.eventId, report.sagaId, report.step, report.outcome, stamp.occurredAt⟩) ∧
    (report.Blank → ∃ task error, q.world.reported? i = some (.error (.outcome error)) ∧
      (r.reporting service report stamp cancelled []).world =
        { r.world with tasks := r.world.tasks ++ [task] }) := by
  intro q i
  by_cases blank : report.Blank
  · obtain ⟨task, error, started, ended⟩ := r.reporting_rejected known blank stamp cancelled
    have told : q.world.reported? i = some (.error (.outcome error)) :=
      World.reported?_of_rejected (ended later)
    have unpublished : q.world.result? i ≠ some (.ok ()) := fun published => by
      have outcome := World.outcome?_eq_some.mpr (World.result?_eq_some.mp published)
      cases (ended later).symm.trans outcome
    exact ⟨fun id => by simp [told, blank], fun published => absurd published unpublished,
      fun _ => ⟨task, error, told, started⟩⟩
  · obtain ⟨⟨task, ht, he⟩, order⟩ := r.reporting_holds known blank stamp cancelled later
    refine ⟨fun id => ?_, fun published => ?_, fun h => absurd h blank⟩
    · rw [World.reported?_eq_ok_iff ht he]
      simp [blank, q, i]
    · obtain ⟨producer, topic, payload, ordered, one⟩ := q.one_posting prompt published
      obtain ⟨rfl, rfl⟩ : topic = s.topic ∧ payload = (report.envelope stamp).encode := by
        simpa using ordered.symm.trans order
      have fresh := (r.sound.later i (by simp) (Nat.le_refl _)).untouched.posted
      have read := Envelope.decode?_encode timely
      generalize (report.envelope stamp).encode = payload at read one
      exact ⟨fresh, producer, payload, one, q.log_of_one_posting one, read⟩

/-- The payment of a saga has failed. -/
def refusedPayment : Report := ⟨"saga-1", "pay", .failed "no \"funds\"\n"⟩

def paymentReported : Run :=
  (hasty 0 []).reporting 0 refusedPayment ⟨"evt-1", 1700000000000⟩ false
    [.proceed 0, .effect 0, .deliver 0, .effect 0, .deliver 0, .effect 0, .deliver 0, .effect 0,
      .deliver 0, .effect 0, .deliver 0, .proceed 0]

theorem paymentReported_readable :
    paymentReported.chronicle.Prompt ∧ paymentReported.world.reported? 0 = some (.ok "evt-1") ∧
    ∃ producer payload,
      paymentReported.chronicle.postingsOf 0 =
        [⟨some 0, some 0, producer, "results", payload⟩] ∧
      Envelope.decode? payload =
        some ⟨"evt-1", "saga-1", "pay", .failed "no \"funds\"\n", 1700000000000⟩ := by
  have prompt : paymentReported.chronicle.Prompt := by decide +kernel
  have published : paymentReported.world.result? 0 = some (.ok ()) := by decide +kernel
  have told : ¬ refusedPayment.Blank := by
    rintro (saga | step | ⟨reason, failed, cause⟩)
    · exact absurd saga (by decide)
    · exact absurd step (by decide)
    · obtain rfl : "no \"funds\"\n" = reason := StepOutcome.failed.inj failed
      exact absurd cause (by decide)
  have timely : (refusedPayment.envelope ⟨"evt-1", 1700000000000⟩).Timely := by decide
  obtain ⟨answer, recorded, -⟩ :=
    (hasty 0 []).reported_readable rfl refusedPayment timely false _ prompt
  obtain ⟨-, producer, payload, one, -, read⟩ := recorded published
  exact ⟨prompt, (answer "evt-1").mpr ⟨told, published, rfl⟩, producer, payload, one, read⟩

end Run

end OutcomeRelay
