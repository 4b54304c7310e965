import OutcomeRelay.Proofs.Resumption
import OutcomeRelay.Proofs.Ending
import OutcomeRelay.Proofs.OpenSessions
import OutcomeRelay.Proofs.Reporting

set_option autoImplicit false

namespace OutcomeRelay

namespace Web

/-- No report can be read from the body, or one that lacks its saga, its step or its reason. -/
def Unusable (body : ByteArray) : Prop :=
  ∀ report, Report.decode? body = some report → report.Blank

structure Posts (request : HttpRequest) : Prop where
  path : path request = "/step-outcomes"
  method : request.method = "POST"
  contentType : (request.contentType.bind MediaType.parse?).any MediaType.isJson = true
  size : request.body.size ≤ maxBodySize

variable {request : HttpRequest} {report : Report}

theorem Posts.readReport? (h : Posts request) :
    readReport? request = Report.decode? request.body := by
  obtain ⟨type, parsed, json⟩ := (Option.any_eq_true _ _).mp h.contentType
  simp [Web.readReport?, parsed, json, h.size]

theorem Posts.route_of_none (h : Posts request) (unread : Report.decode? request.body = none) :
    route request = .response .unprocessable := by
  simp [route, h.path, h.method, h.readReport?, unread]

theorem Posts.route_of_some (h : Posts request)
    (read : Report.decode? request.body = some report) : route request = .report report := by
  simp [route, h.path, h.method, h.readReport?, read]

theorem accepted_body (eventId : String) :
    Json.parseBytes? (HttpResponse.accepted eventId).body =
      some (.object [("event_id", .string eventId)]) := by
  have readable : ∀ part ∈ [Envelope.textPart "event_id" eventId], part.Readable := by
    simp [Envelope.textPart_readable]
  have object := Json.parse?_object (by simp) readable
  have written : [','].intercalate ([Envelope.textPart "event_id" eventId].map Json.Part.written) =
      Envelope.field "event_id" (Json.quote eventId) := List.append_nil _
  rw [written] at object
  simp only [Json.parseBytes?, HttpResponse.accepted, Json.fromUTF8?_toUTF8, String.toList_ofList,
    object]
  rfl

def events (service : Nat) (request : HttpRequest) (stamp : Stamp) : List Event :=
  match route request with
  | .response _ => []
  | .report report => [.start service (.report report stamp) false]

end Web

open Web (HttpRequest HttpResponse Posts Unusable)

namespace World

variable {w : World} {i : Nat} {request : HttpRequest}

/-- What the publish of a task has returned. One that panicked was interrupted. -/
def returned? (w : World) (i : Nat) : Option PublishResult :=
  (w.outcome? i).bind Scenario.State.publishResult

/-- How a request is answered whose report, if it brings one, is that of the task. -/
def answer? (w : World) (i : Nat) (request : HttpRequest) : Option HttpResponse :=
  match Web.route request with
  | .response response => some response
  | .report _ => (w.reported? i).map Web.respond

end World

theorem Simulation.runTo_events (goal : Goal) (s : Simulation) :
    ∃ events, (s.runTo goal).1.world = s.world.run events := by
  unfold runTo
  split
  · exact ⟨[], rfl⟩
  · exact run_events goal s.fuel { s with line := goal.foremost?.toList ++ s.line }

namespace Scenario.State

variable {s after : State} {service : Nat} {report : Report} {eventId : String}

theorem start_world (s : State) (service : Nat) (job : Job) :
    (s.start service job 0 .never).1 = s.world.tasks.length ∧
      (s.start service job 0 .never).2.world = s.world.apply (.start service job false) := by
  refine ⟨rfl, ?_⟩
  simp [start, Cancellation.time?, Cancellation.isBeforehand, Simulation.start,
    Simulation.setCancellation, world]

theorem runTo_events {goal : Simulation.Goal} (h : s.runTo goal = .ok after) :
    ∃ events, after.world = s.world.run events := by
  obtain ⟨events, he⟩ := s.simulation.runTo_events goal
  simp only [runTo] at h
  split at h
  · obtain rfl := Except.ok.inj h
    exact ⟨events, he⟩
  · cases h

theorem require_eq_ok {α : Type} {x : Option α} {y : α} (h : s.require x = .ok y) :
    x = some y := by
  cases x with
  | none => cases h
  | some z => exact congrArg some (Except.ok.inj h)

theorem bind_eq_ok {ε α β : Type} {x : Except ε α} {f : α → Except ε β} {y : β}
    (h : x.bind f = .ok y) : ∃ z, x = .ok z ∧ f z = .ok y := by
  cases x with
  | error error => cases h
  | ok z => exact ⟨z, rfl, h⟩

theorem reportAs_events {result : Except ReportError String}
    (h : s.reportAs service report eventId = .ok (result, after)) :
    ∃ later, after.world =
        s.world.run (.start service (.report report ⟨eventId, 0⟩) false :: later) ∧
      after.world.reported? s.world.tasks.length = some result := by
  obtain ⟨index, started⟩ := s.start_world service (.report report ⟨eventId, 0⟩)
  unfold reportAs at h
  generalize s.start service (.report report ⟨eventId, 0⟩) 0 .never = begun at *
  obtain ⟨i, begun⟩ := begun
  obtain rfl : i = s.world.tasks.length := index
  obtain ⟨there, reached, h⟩ := bind_eq_ok h
  obtain ⟨task, ht, h⟩ := bind_eq_ok h
  obtain ⟨outcome, ho, h⟩ := bind_eq_ok h
  obtain ⟨told, hr, h⟩ := bind_eq_ok h
  cases h
  obtain ⟨later, he⟩ := runTo_events reached
  refine ⟨later, by rw [he, started]; rfl, ?_⟩
  have here : after.world.tasks[s.world.tasks.length]? = some task := require_eq_ok ht
  simp [World.reported?, here, require_eq_ok ho, require_eq_ok hr]

theorem report_events {result : Except ReportError String}
    (h : s.report service report = .ok (result, after)) :
    ∃ stamp later, after.world =
        s.world.run (.start service (.report report stamp) false :: later) ∧
      after.world.reported? s.world.tasks.length = some result := by
  unfold State.report at h
  split at h
  · rename_i performed
    obtain ⟨later, events, told⟩ := reportAs_events performed
    cases h
    exact ⟨_, later, events, told⟩
  · obtain ⟨later, events, told⟩ := reportAs_events h
    exact ⟨_, later, events, told⟩

/-- A request is performed by what it makes happen at once and by what happens then. -/
theorem http_events {request : HttpRequest} {response : HttpResponse} {id : Option String}
    (h : s.http service request = .ok (.responded response id, after)) :
    ∃ stamp later, after.world = s.world.run (Web.events service request stamp ++ later) ∧
      after.world.answer? s.world.tasks.length request = some response := by
  unfold State.http at h
  split at h
  · rename_i routed
    cases h
    exact ⟨⟨"", 0⟩, [], by simp [Web.events, routed]; rfl, by simp [World.answer?, routed]⟩
  · rename_i report routed
    obtain ⟨⟨result, there⟩, performed, h⟩ := bind_eq_ok h
    cases h
    obtain ⟨stamp, later, events, told⟩ := report_events performed
    exact ⟨stamp, later, by simp [Web.events, routed, events],
      by simp [World.answer?, routed, told]⟩

end Scenario.State

namespace World

variable {w : World} {i : Nat} {request : HttpRequest}

theorem Regular.publishes (h : w.Regular) {task : Task} (ht : w.tasks[i]? = some task)
    (publishes : task.activity.Publishes) {later : List Event}
    (calm : ∀ event ∈ later, event.isCrash = false) :
    ∃ new, (w.run later).tasks[i]? = some new ∧ new.activity.Publishes := by
  induction later generalizing w task with
  | nil => exact ⟨task, ht, publishes⟩
  | cons event later ih =>
    have quiet := calm event List.mem_cons_self
    obtain ⟨new, hn, goes_on⟩ := h.undergo_activity ht publishes (.event event)
      (fun service signal _ => publishes.resume service task.cancelled signal)
      fun index text panics _ => by
        obtain rfl := Occurrence.event.inj panics
        simp [Event.isCrash] at quiet
    exact ih (h.undergo (.event event)) hn goes_on
      fun other mem => calm other (List.mem_cons_of_mem _ mem)

theorem answer?_of_told {report : Report} (routed : Web.route request = .report report)
    {task : Task} (ht : w.tasks[i]? = some task) {eventId : String}
    (own : task.eventId = some eventId)
    (publishes : ∀ outcome, w.outcome? i = some outcome →
      (Scenario.State.publishResult outcome).isSome = true) :
    w.answer? i request = (w.returned? i).map fun result =>
      Web.respond (Report.conclude eventId result) := by
  simp only [answer?, routed, reported?_eq ht, own, returned?]
  cases ended : w.outcome? i with
  | none => rfl
  | some outcome =>
    have published := publishes outcome ended
    cases outcome with
    | published | crashed => rfl
    | rejected | lent | returned | drained | replied | dropped =>
      simp [Scenario.State.publishResult] at published

theorem returned?_eq_ok_iff : w.returned? i = some (.ok ()) ↔ w.result? i = some (.ok ()) := by
  unfold returned? result?
  rcases w.outcome? i with - | (_ | _ | _ | _ | _ | _ | _ | _) <;>
    simp [Scenario.State.publishResult]

theorem result?_of_publishes {task : Task} (ht : w.tasks[i]? = some task)
    (publishes : task.activity.Publishes) : w.returned? i = w.result? i := by
  have outcome : w.outcome? i = task.activity.outcome? := by simp [outcome?, ht]
  unfold returned? result?
  rw [outcome]
  rcases publishes with going | ⟨result, ended⟩
  · cases ha : task.activity with
    | ended => simp [ha, Activity.isPublish] at going
    | _ => rfl
  · rw [ended]
    rfl

end World

namespace Run

variable (r : Run) {i service : Nat} {s : Service} {request : HttpRequest} {report : Report}

def receiving (service : Nat) (request : HttpRequest) (stamp : Stamp) (later : List Event) : Run :=
  r.extend (Web.events service request stamp ++ later)

theorem receiving_eq (routed : Web.route request = .report report) (stamp : Stamp)
    (later : List Event) :
    r.receiving service request stamp later = r.reporting service report stamp false later := by
  simp [receiving, reporting, Web.events, routed]

theorem receiving_unusable (known : r.world.services[service]? = some s) (posts : Posts request)
    (unusable : Unusable request.body) (stamp : Stamp) :
    (∃ tasks, (r.receiving service request stamp []).world =
        { r.world with tasks := r.world.tasks ++ tasks } ∧
      ∀ task ∈ tasks, ∃ error, task.activity = .ended (.rejected error)) ∧
    ∀ later, (r.receiving service request stamp later).world.answer? r.world.tasks.length request =
      some .unprocessable := by
  cases read : Report.decode? request.body with
  | none =>
    have routed := posts.route_of_none read
    refine ⟨⟨[], ?_, by simp⟩, fun later => by simp [World.answer?, routed]⟩
    simp [receiving, Web.events, routed, extend_world, World.run]
  | some report =>
    have routed := posts.route_of_some read
    obtain ⟨task, error, started, ended⟩ :=
      r.reporting_rejected known (unusable report read) stamp false
    refine ⟨⟨[task], ?_, ?_⟩, fun later => ?_⟩
    · rw [r.receiving_eq routed, started]
    · have here := ended []
      rw [started] at here
      obtain ⟨other, ht, rejected⟩ := World.outcome?_eq_some.mp here
      obtain rfl : task = other := Option.some.inj (List.getElem?_concat_length.symm.trans ht)
      simpa using ⟨error, rejected⟩
    · rw [r.receiving_eq routed]
      simp [World.answer?, routed, World.reported?_of_rejected (ended later), Web.respond]

theorem regular : r.world.Regular := r.free_world ▸ r.free.regular

theorem reporting_publishes (known : r.world.services[service]? = some s)
    (told : ¬ report.Blank) (stamp : Stamp) (cancelled : Bool) {later : List Event}
    (calm : ∀ event ∈ later, event.isCrash = false) :
    ∃ task, (r.reporting service report stamp cancelled later).world.tasks[r.world.tasks.length]? =
      some task ∧ task.activity.Publishes := by
  have record := Report.record?_of_not_blank told s.topic stamp
  have started : ∃ task, (r.world.apply (.start service (.report report stamp)
      cancelled)).tasks[r.world.tasks.length]? = some task ∧ task.activity.Publishes := by
    simp only [World.apply, World.eventTask?, World.start, known, record, World.addTask_tasks]
    exact ⟨_, List.getElem?_concat_length, .inl rfl⟩
  obtain ⟨task, ht, publishes⟩ := started
  rw [reporting, extend_world]
  exact (r.regular.undergo (.event _)).publishes ht publishes calm

theorem publishResult_of_ordered {record : String × ByteArray}
    (ordered : r.chronicle.order? i = some record) {outcome : Outcome}
    (ended : r.world.outcome? i = some outcome) :
    (Scenario.State.publishResult outcome).isSome = true := by
  obtain ⟨task, ht, ha⟩ := World.outcome?_eq_some.mp ended
  have sound := r.sound.tasks i task (by simp) ht
  rw [ha] at sound
  cases outcome with
  | published | crashed => rfl
  | rejected | lent | returned | drained | replied | dropped =>
    exact absurd (ordered.symm.trans sound.order) (by simp)

theorem postings_of_ok (h : r.world.result? i = some (.ok ())) {topic : String}
    {payload : ByteArray} (ordered : r.chronicle.order? i = some (topic, payload)) :
    ∃ producer, r.chronicle.postingsOf i =
        List.replicate (r.chronicle.late i .send + 1) ⟨some i, some i, producer, topic, payload⟩ ∧
      (producer, payload) ∈
        (r.world.cluster.broker.topics.records topic).map StoredRecord.content := by
  obtain ⟨_, _, producer, order, shown, commits⟩ := r.returned h
  cases ordered.symm.trans order
  have committed : (r.chronicle.account i).commits ≠ 0 := by simp [commits, confirmed]
  have posted : r.chronicle.postingsOf i =
      List.replicate (r.chronicle.late i .send + 1) ⟨some i, some i, producer, topic, payload⟩ :=
    shown.trans (if_neg committed)
  have own : ⟨some i, some i, producer, topic, payload⟩ ∈ r.chronicle.postingsOf i := by
    rw [posted]
    exact List.mem_replicate.mpr ⟨by simp, rfl⟩
  have visible : ⟨some i, some i, producer, topic, payload⟩ ∈
      r.chronicle.postings.filter (·.topic = topic) :=
    List.mem_filter.mpr ⟨(List.mem_filter.mp own).1, by simp⟩
  exact ⟨producer, posted, (r.shows topic).symm.mem_iff.mp (List.mem_map.mpr ⟨_, visible, rfl⟩)⟩

theorem unseen_of_error (prompt : r.chronicle.Prompt) {error : PublishError}
    (h : r.world.result? i = some (.error error)) (more : List Event) :
    (r.extend more).world.Shows (r.extend more).chronicle.postings ∧
      ∀ p ∈ (r.extend more).chronicle.postings, p.committer ≠ some i ∧ p.sender ≠ some i := by
  obtain ⟨task, ht, ha⟩ := World.result?_eq_some.mp h
  have ended : r.world.HasEnded i :=
    Option.isSome_iff_exists.mpr ⟨_, World.outcome?_eq_some.mpr ⟨task, ht, ha⟩⟩
  have nothing : (r.extend more).chronicle.postingsOf i = [] :=
    (congrArg Account.posted (r.account_extend ended more)).trans (r.no_posting prompt h)
  have uncommitted (p : Posting) (hp : p ∈ (r.extend more).chronicle.postings) :
      p.committer ≠ some i := fun committed => by
    have own : p ∈ (r.extend more).chronicle.postingsOf i :=
      List.mem_filter.mpr ⟨hp, by simpa using committed⟩
    simp [nothing] at own
  exact ⟨(r.extend more).shows, fun p hp => ⟨uncommitted p hp, fun sent =>
    uncommitted p hp ((r.extend more).own_posting hp (.inr sent)).2.1⟩⟩

/-- What the answer to a request tells. It is 422 exactly when the body cannot be processed, and
then nothing but the list of tasks has changed. Otherwise it is 202 exactly when the publish has
succeeded, and an envelope with the id in the answer can be read from the record that has been
committed; it is 503 exactly when the publish has failed, and then nothing of the request is
visible or becomes so later, if no answer came too late and nothing has panicked. -/
theorem answer_tells (known : r.world.services[service]? = some s) (posts : Posts request)
    (stamp : Stamp) (timely : -(Json.signBit : Int) ≤ stamp.occurredAt ∧
      stamp.occurredAt < Json.signBit) (later : List Event) :
    let q := r.receiving service request stamp later
    let i := r.world.tasks.length
    let status := (q.world.answer? i request).map HttpResponse.status
    (status = some 422 ↔ Unusable request.body) ∧
    (status = some 202 ↔ ¬ Unusable request.body ∧ q.world.returned? i = some (.ok ())) ∧
    (status = some 503 ↔
      ¬ Unusable request.body ∧ ∃ error, q.world.returned? i = some (.error error)) ∧
    (status = some 422 → ∃ tasks, (r.receiving service request stamp []).world =
        { r.world with tasks := r.world.tasks ++ tasks } ∧
      ∀ task ∈ tasks, ∃ error, task.activity = .ended (.rejected error)) ∧
    (status = some 202 → ∃ response report producer payload,
      q.world.answer? i request = some response ∧
      Json.parseBytes? response.body = some (.object [("event_id", .string stamp.eventId)]) ∧
      Report.decode? request.body = some report ∧
      Envelope.decode? payload = some (report.envelope stamp) ∧
      r.chronicle.postingsOf i = [] ∧
      q.chronicle.postingsOf i = List.replicate (q.chronicle.late i .send + 1)
        ⟨some i, some i, producer, s.topic, payload⟩ ∧
      (producer, payload) ∈
        (q.world.cluster.broker.topics.records s.topic).map StoredRecord.content) ∧
    (status = some 503 → q.chronicle.Prompt → (∀ event ∈ later, event.isCrash = false) →
      ∀ more, (q.extend more).world.Shows (q.extend more).chronicle.postings ∧
        ∀ p ∈ (q.extend more).chronicle.postings, p.committer ≠ some i ∧ p.sender ≠ some i) := by
  intro q i status
  by_cases unusable : Unusable request.body
  · obtain ⟨untouched, answered⟩ := r.receiving_unusable known posts unusable stamp
    have told : status = some 422 := congrArg (Option.map HttpResponse.status) (answered later)
    simp [told, unusable, untouched]
  · obtain ⟨report, read, whole⟩ :
        ∃ report, Report.decode? request.body = some report ∧ ¬ report.Blank := by
      simpa [Unusable] using unusable
    have routed := posts.route_of_some read
    have same : q = r.reporting service report stamp false later :=
      r.receiving_eq routed stamp later
    obtain ⟨⟨task, ht, own⟩, order⟩ := r.reporting_holds known whole stamp false later
    rw [← same] at ht order
    have answered := World.answer?_of_told routed ht own fun outcome =>
      q.publishResult_of_ordered order
    have statuses : status = (q.world.returned? i).map fun result =>
        (Web.respond (Report.conclude stamp.eventId result)).status := by
      simp [status, q, i, answered, Function.comp_def]
    obtain ⟨on_ok, on_error, processed⟩ :
        (status = some 202 ↔ q.world.returned? i = some (.ok ())) ∧
        (status = some 503 ↔ ∃ error, q.world.returned? i = some (.error error)) ∧
        status ≠ some 422 := by
      rw [statuses]
      rcases q.world.returned? i with - | (_ | _) <;>
        simp [Report.conclude, Web.respond, HttpResponse.accepted, HttpResponse.unavailable]
    refine ⟨by simp [processed, unusable], by simp [on_ok, unusable],
      by simp [on_error, unusable], fun h => absurd h processed, fun h => ?_,
      fun h prompt calm more => ?_⟩
    · have returned := on_ok.mp h
      obtain ⟨producer, posted, visible⟩ :=
        q.postings_of_ok (World.returned?_eq_ok_iff.mp returned) order
      have fresh := (r.sound.later i (by simp) (Nat.le_refl _)).untouched.posted
      have readable := Envelope.decode?_encode (e := report.envelope stamp) timely
      exact ⟨_, report, producer, _, by simp [q, i, answered, returned]; rfl,
        Web.accepted_body stamp.eventId, read, readable, fresh, posted, visible⟩
    · obtain ⟨error, returned⟩ := on_error.mp h
      obtain ⟨publisher, hp, publishes⟩ :=
        r.reporting_publishes known whole stamp false calm
      rw [← same] at hp
      rw [World.result?_of_publishes hp publishes] at returned
      exact q.unseen_of_error prompt returned more

/-- A request that reports a payment, with the number of the status in place of its name. -/
def paymentPost : HttpRequest where
  method := "POST"
  target := "/step-outcomes"
  contentType := some "application/json"
  body := "\x7b\"saga_id\":\"saga-1\",\"step\":\"pay\",\"status\":0\x7d".toUTF8

def paymentPosted : Run :=
  (hasty 0 []).receiving 0 paymentPost ⟨"evt-1", 1700000000000⟩
    [.proceed 0, .effect 0, .deliver 0, .effect 0, .deliver 0, .effect 0, .deliver 0, .effect 0,
      .deliver 0, .effect 0, .deliver 0, .proceed 0]

theorem paymentPosted_answered :
    (paymentPosted.world.answer? 0 paymentPost).map HttpResponse.status = some 202 ∧
    ∃ producer payload,
      Envelope.decode? payload =
        some ⟨"evt-1", "saga-1", "pay", .succeeded, 1700000000000⟩ ∧
      (producer, payload) ∈ (paymentPosted.world.cluster.broker.topics.records "results").map
        StoredRecord.content := by
  have read : Report.decode? paymentPost.body = some ⟨"saga-1", "pay", .succeeded⟩ := by
    decide +kernel
  have posts : Posts paymentPost := ⟨by decide +kernel, rfl, by decide +kernel, by decide +kernel⟩
  have known : (hasty 0 []).world.services[0]? = some _ := rfl
  have published : paymentPosted.world.returned? 0 = some (.ok ()) := by decide +kernel
  have usable : ¬ Unusable paymentPost.body := fun unusable => by
    rcases unusable _ read with saga | step | ⟨reason, failed, -⟩
    · exact absurd saga (by decide)
    · exact absurd step (by decide)
    · cases failed
  obtain ⟨-, accepted, -, -, visible, -⟩ :=
    (hasty 0 []).answer_tells known posts ⟨"evt-1", 1700000000000⟩ (by decide) _
  have answered := accepted.mpr ⟨usable, published⟩
  obtain ⟨-, report, producer, payload, -, -, own, readable, -, -, here⟩ := visible answered
  obtain rfl : ⟨"saga-1", "pay", .succeeded⟩ = report := Option.some.inj (read.symm.trans own)
  exact ⟨answered, producer, payload, readable, here⟩

end Run

end OutcomeRelay
