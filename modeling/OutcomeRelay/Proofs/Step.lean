import OutcomeRelay.Proofs.Chronicle

set_option autoImplicit false

namespace OutcomeRelay

def Cluster.adjust (c : Cluster) (offline : Bool) (refusals : Nat)
    (faults : List (Operation × BrokerError)) : Cluster :=
  { c with broker := { c.broker with offline := offline, refusals := refusals, faults := faults } }

def Cluster.join (c : Cluster) (id : String) : Cluster :=
  { c with sessions := c.sessions ++ [{ id := id }] }

theorem Cluster.join_older {c : Cluster} {s : SessionId} {session : Session}
    (hs : c.sessions[s]? = some session) (id : String) :
    (c.join id).sessions[s]? = some session := by
  rw [join, List.getElem?_append_left (List.getElem?_eq_some_iff.mp hs).1, hs]

namespace World

def putCluster (w : World) (c : Cluster) : World := { w with cluster := c }

section Fields

variable (w : World) (index : Nat)

@[simp] theorem noteCall_cluster : (w.noteCall index).cluster = w.cluster := by
  unfold noteCall
  split <;> rfl

@[simp] theorem noteCall_services : (w.noteCall index).services = w.services := by
  unfold noteCall
  split <;> rfl

@[simp] theorem noteCall_tasks : (w.noteCall index).tasks = w.tasks := by
  unfold noteCall
  split <;> rfl

@[simp] theorem noteCall_handles : (w.noteCall index).handles = w.handles := by
  unfold noteCall
  split <;> rfl

@[simp] theorem noteCall_sessions : (w.noteCall index).sessions = w.sessions := by
  unfold noteCall
  split <;> rfl

variable (lent : Option (String × Handle))

@[simp] theorem putLent_cluster : (w.putLent lent).cluster = w.cluster := by
  cases lent <;> rfl

@[simp] theorem putLent_services : (w.putLent lent).services = w.services := by
  cases lent <;> rfl

@[simp] theorem putLent_tasks : (w.putLent lent).tasks = w.tasks := by
  cases lent <;> rfl

@[simp] theorem putLent_sessions : (w.putLent lent).sessions = w.sessions := by
  cases lent <;> rfl

variable (pool : Pool) (task : Task)

@[simp] theorem setPool_cluster : (w.setPool index pool).cluster = w.cluster := rfl

@[simp] theorem setPool_tasks : (w.setPool index pool).tasks = w.tasks := rfl

@[simp] theorem setPool_sessions : (w.setPool index pool).sessions = w.sessions := rfl

@[simp] theorem setTask_cluster : (w.setTask index task).cluster = w.cluster := rfl

@[simp] theorem setTask_services : (w.setTask index task).services = w.services := rfl

@[simp] theorem setTask_tasks : (w.setTask index task).tasks = w.tasks.set index task := rfl

@[simp] theorem setTask_handles : (w.setTask index task).handles = w.handles := rfl

@[simp] theorem setTask_sessions : (w.setTask index task).sessions = w.sessions := rfl

@[simp] theorem addTask_cluster : (w.addTask task).cluster = w.cluster := by
  simp [addTask]

@[simp] theorem addTask_services : (w.addTask task).services = w.services := by
  simp [addTask]

@[simp] theorem addTask_tasks :
    (w.addTask task).tasks = w.tasks ++ [w.moved task task.activity] := by
  simp [addTask]

@[simp] theorem addTask_handles : (w.addTask task).handles = w.handles := by
  simp [addTask]

@[simp] theorem addTask_sessions : (w.addTask task).sessions = w.sessions := by
  simp [addTask]

variable (activity : Activity)

@[simp] theorem moved_activity : (w.moved task activity).activity = activity := rfl

@[simp] theorem moved_answer : (w.moved task activity).answer = none := rfl

end Fields

def move (service : Service) (task : Task) (signal : Signal) : Move :=
  task.activity.resume service task.cancelled signal

section Signal

variable {w : World} {index : Nat} {task : Task} {service : Service} {s : Signal}
  (hs : w.service? task = some service)

include hs

theorem signal_eq : w.signal index task s =
    (((w.setPool task.service (move service task s).pool).putLent
      (move service task s).lent).setTask index
        (w.moved task (move service task s).activity)).noteCall index := by
  unfold signal
  rw [hs]
  rfl

theorem signal_cluster : (w.signal index task s).cluster = w.cluster := by
  simp [signal_eq hs]

theorem signal_services : (w.signal index task s).services =
    w.services.modify task.service fun old => { old with pool := (move service task s).pool } := by
  simp [signal_eq hs, setPool]

theorem signal_tasks : (w.signal index task s).tasks =
    w.tasks.set index (w.moved task (move service task s).activity) := by
  simp [signal_eq hs]

theorem signal_sessions : (w.signal index task s).sessions = w.sessions := by
  simp [signal_eq hs]

theorem signal_handles : (w.signal index task s).handles =
    match (move service task s).lent with
    | none => w.handles
    | some (slot, handle) => w.handles.put slot handle := by
  simp only [signal_eq hs, noteCall_handles, setTask_handles]
  cases (move service task s).lent <;> rfl

end Signal

theorem signal_of_no_service {w : World} {task : Task} (hs : w.service? task = none) (index : Nat)
    (s : Signal) : w.signal index task s = w := by
  unfold signal
  rw [hs]

theorem caller_ne {index i : Nat} (h : index ≠ i) (task : Task) : caller index task ≠ some i := by
  unfold caller
  split <;> simp [h]

theorem connecting_of_demand {w : World} {task : Task} {id : String} {limit : Span}
    (h : w.demand task = .connection id limit) :
    (∃ purpose failures,
      task.activity = .creating purpose id (.trying failures .connecting)) ∨
    ∃ slot, task.activity = .making slot id .connecting := by
  unfold demand at h
  split at h
  · simp at h
  · cases ha : task.activity with
    | creating purpose name creation =>
      cases creation with
      | pausing failures => simp [ha, Activity.demand, Creation.demand] at h
      | trying failures attempt =>
        cases attempt with
        | connecting =>
          obtain ⟨rfl, -⟩ : name = id ∧ _ := by
            simpa [ha, Activity.demand, Creation.demand, Attempt.demand] using h
          exact .inl ⟨purpose, failures, rfl⟩
        | _ => simp [ha, Activity.demand, Creation.demand, Attempt.demand] at h
    | making slot name attempt =>
      cases attempt with
      | connecting =>
        obtain ⟨rfl, -⟩ : name = id ∧ _ := by
          simpa [ha, Activity.demand, Attempt.demand] using h
        exact .inr ⟨slot, rfl⟩
      | _ => simp [ha, Activity.demand, Attempt.demand] at h
    | transacting transaction =>
      simp only [ha, Activity.demand, Transaction.demand] at h
      split at h <;> try simp at h
      split at h <;> try simp at h
      split at h <;> simp at h
    | retiring handle discarded outcome =>
      simp only [ha, Activity.demand, Activity.closeDemand] at h
      split at h <;> simp at h
    | draining handles closed =>
      cases handles with
      | nil => simp [ha, Activity.demand] at h
      | cons handle handles =>
        simp only [ha, Activity.demand, Activity.closeDemand] at h
        split at h <;> simp at h
    | operating slot handle request =>
      simp only [ha, Activity.demand, Activity.closeDemand] at h
      split at h
      · split at h <;> simp at h
      · split at h <;> simp at h
    | waiting | borrowing | returning | ended => simp [ha, Activity.demand] at h

/-- The request that an activity makes of a session, and the transactional id it makes it under. -/
inductive Asks : Activity → SessionId → String → Request → Prop where
  | register (purpose : Purpose) (id : String) (failures : UInt32) (session : SessionId) :
      Asks (.creating purpose id (.trying failures (.registering session))) session id .init
  | dismiss (purpose : Purpose) (id : String) (failures : UInt32) (session : SessionId)
      (error : BrokerError) :
      Asks (.creating purpose id (.trying failures (.closing session error))) session id .close
  | transact {transaction : Transaction} {request : Request}
      (h : transaction.request? = some request) :
      Asks (.transacting transaction) transaction.handle.session transaction.handle.id request
  | retire (handle : Handle) (discarded : Bool) (outcome : Outcome) :
      Asks (.retiring handle discarded outcome) handle.session handle.id .close
  | drain (handle : Handle) (handles : List Handle) (closed : Nat) :
      Asks (.draining (handle :: handles) closed) handle.session handle.id .close
  | operate (slot : String) {handle : Handle} {request : Request}
      (h : handle.status.permits request.operation = true) :
      Asks (.operating slot handle request) handle.session handle.id request
  | registerLent (slot id : String) (session : SessionId) :
      Asks (.making slot id (.registering session)) session id .init
  | dismissLent (slot id : String) (session : SessionId) (error : BrokerError) :
      Asks (.making slot id (.closing session error)) session id .close

theorem asks_of_closeDemand {handle : Handle} {session : SessionId} {id : String}
    {request : Request} {limit : Option Span}
    (h : Activity.closeDemand handle = .answer session id request limit) :
    handle.session = session ∧ handle.id = id ∧ request = .close := by
  unfold Activity.closeDemand at h
  split at h
  · simp at h
  · cases h
    exact ⟨rfl, rfl, rfl⟩

theorem asks_of_demand {w : World} {task : Task} {session : SessionId} {id : String}
    {request : Request} {limit : Option Span}
    (h : w.demand task = .answer session id request limit) :
    Asks task.activity session id request := by
  unfold demand at h
  split at h
  · simp at h
  · cases ha : task.activity with
    | waiting | borrowing | returning | ended => simp [ha, Activity.demand] at h
    | creating purpose name creation =>
      rw [ha] at h
      cases creation with
      | pausing failures => simp [Activity.demand, Creation.demand] at h
      | trying failures attempt =>
        cases attempt with
        | connecting => simp [Activity.demand, Creation.demand, Attempt.demand] at h
        | registering s =>
          cases h
          exact .register purpose _ failures _
        | closing s error =>
          cases h
          exact .dismiss purpose _ failures _ error
    | transacting transaction =>
      simp only [ha, Activity.demand, Transaction.demand] at h
      split at h
      · simp at h
      · simp at h
      · simp at h
      · split at h
        · simp at h
        · rename_i hr
          split at h
          · cases h
            exact .transact hr
          · simp at h
    | retiring handle discarded outcome =>
      rw [ha] at h
      obtain ⟨rfl, rfl, rfl⟩ := asks_of_closeDemand h
      exact .retire handle discarded outcome
    | draining handles closed =>
      rw [ha] at h
      cases handles with
      | nil => simp [Activity.demand] at h
      | cons handle handles =>
        obtain ⟨rfl, rfl, rfl⟩ := asks_of_closeDemand h
        exact .drain handle handles closed
    | operating slot handle wanted =>
      simp only [ha, Activity.demand] at h
      split at h
      · obtain ⟨rfl, rfl, rfl⟩ := asks_of_closeDemand h
        subst wanted
        exact .operate slot rfl
      · split at h
        · rename_i hp
          cases h
          exact .operate slot hp
        · simp at h
    | making slot name attempt =>
      rw [ha] at h
      cases attempt with
      | connecting => simp [Activity.demand, Attempt.demand] at h
      | registering s =>
        cases h
        exact .registerLent slot _ _
      | closing s error =>
        cases h
        exact .dismissLent slot _ _ error

/-- What a task that waits can be told, and the note about it. -/
inductive Told (w : World) (index : Nat) (task : Task) : Signal → Option Note → Prop where
  | turn (h : w.demand task = .turn) : Told w index task .resumed none
  | answer {signal : Signal} (h : task.answer = some signal) : Told w index task signal none
  | silence (h : (w.demand task).limit?.isSome) :
      Told w index task .silence (w.miss? index task)
  | awake {length : Span} {cancellable : Bool} (h : w.demand task = .pause length cancellable) :
      Told w index task .resumed none

inductive Begins (w : World) : World → Activity → Option Note → Prop where
  | publish (millis : Nat) (topic : String) (payload : ByteArray) :
      Begins w w (Activity.begin millis (.publish topic payload))
        (some (.ordered w.tasks.length topic payload))
  | reject (error : OutcomeError) : Begins w w (.ended (.rejected error)) none
  | borrow (slot : String) : Begins w w (.borrowing (.lend slot)) none
  | release {slot : String} {handle : Handle} (h : w.handles.lookup slot = some handle) :
      Begins w ({ w with handles := w.handles.clear slot } : World)
        (.returning handle .returned) none
  | operate {slot : String} {handle : Handle} (h : w.handles.lookup slot = some handle)
      (request : Request) :
      Begins w ({ w with handles := w.handles.clear slot } : World)
        (.operating slot handle request) none
  | shutdown {service : Nat} {s : Service} (h : w.services[service]? = some s) :
      Begins w (w.setPool service s.pool.drain.2)
        (.draining s.pool.drain.1 s.pool.drain.1.length) none
  | create (slot id : String) : Begins w w (.making slot id .connecting) none
  | createNext {service : Nat} {s : Service} (h : w.services[service]? = some s)
      (slot : String) (ids : IdSource) (id : String) :
      Begins w (w.setPool service { s.pool with ids := ids }) (.making slot id .connecting) none

theorem Begins.cluster {w base : World} {activity : Activity} {note : Option Note}
    (h : w.Begins base activity note) : base.cluster = w.cluster := by
  cases h <;> rfl

theorem Begins.tasks {w base : World} {activity : Activity} {note : Option Note}
    (h : w.Begins base activity note) : base.tasks = w.tasks := by
  cases h <;> rfl

theorem Begins.note_cases {w base : World} {activity : Activity} {note : Option Note}
    (h : w.Begins base activity note) :
    note = none ∨ ∃ topic payload, note = some (.ordered w.tasks.length topic payload) := by
  cases h with
  | publish millis topic payload => exact .inr ⟨topic, payload, rfl⟩
  | _ => exact .inl rfl

theorem Told.note_cases {w : World} {index : Nat} {task : Task} {signal : Signal}
    {note : Option Note} (h : w.Told index task signal note) :
    note = none ∨ ∃ request reply, note = some (.missed (caller index task) request reply) := by
  cases h with
  | turn | answer | awake => exact .inl rfl
  | silence =>
    unfold miss?
    split
    · exact .inr ⟨_, _, rfl⟩
    · exact .inl rfl

/-- One step of a world, with the note that is written down about it. -/
inductive Step (w : World) : Option Note → World → Prop where
  | same : Step w none w
  | tick (time : Nat) : Step w none ({ w with now := max w.now time } : World)
  | begun {base : World} {task : Task} {note : Option Note}
      (h : w.Begins base task.activity note) : Step w note (base.addTask task)
  | told {index : Nat} {task : Task} {service : Service} {signal : Signal} {note : Option Note}
      (ht : w.tasks[index]? = some task) (hs : w.service? task = some service)
      (h : w.Told index task signal note) : Step w note (w.signal index task signal)
  | opened {index : Nat} {task : Task} {id : String} {limit : Span}
      (ht : w.tasks[index]? = some task) (hd : w.demand task = .connection id limit)
      (ha : task.answer = none) :
      Step w none ((w.putCluster (w.cluster.join id)).setTask index
        { task with answer := some (.opened w.cluster.sessions.length) })
  | refused {index : Nat} {task : Task} {id : String} {limit : Span}
      (ht : w.tasks[index]? = some task) (hd : w.demand task = .connection id limit)
      (ha : task.answer = none) (refusals : Nat) (error : BrokerError) :
      Step w none ((w.putCluster (w.cluster.adjust w.cluster.broker.offline refusals
          w.cluster.broker.faults)).setTask index
        { task with answer := some (.answered (.error error)) })
  | answered {index : Nat} {task : Task} {session : SessionId} {id : String} {request : Request}
      {limit : Option Span} (ht : w.tasks[index]? = some task)
      (hd : w.demand task = .answer session id request limit) (ha : task.answer = none) :
      Step w (some (w.noteOf ⟨caller index task, session, request⟩))
        ((w.putCluster (w.cluster.perform session request).2).setTask index
          { task with answer := some (.answered (w.cluster.perform session request).1) })
  | crashed {index : Nat} {task : Task} (ht : w.tasks[index]? = some task)
      (hd : (w.demand task).isCall) (text : String) :
      Step w none (w.setTask index (w.moved task (.ended (.crashed text))))
  | flagged {index : Nat} {task : Task} (ht : w.tasks[index]? = some task) :
      Step w none (w.setTask index { task with cancelled := true })
  | adjusted (offline : Bool) (refusals : Nat) (faults : List (Operation × BrokerError)) :
      Step w none (w.putCluster (w.cluster.adjust offline refusals faults))
  | forgot (slot : String) : Step w none ({ w with handles := w.handles.clear slot } : World)
  | spoiled {slot : String} {handle : Handle} (h : w.handles.lookup slot = some handle) :
      Step w none ({ w with handles := w.handles.put slot handle.markFatal } : World)
  | joined (slot id : String) :
      Step w none ({ w.putCluster (w.cluster.join id) with
        sessions := w.sessions.put slot w.cluster.sessions.length } : World)
  | requested {slot : String} {session : SessionId} (h : w.sessions.lookup slot = some session)
      (request : Request) :
      Step w (some (w.noteOf ⟨none, session, request⟩))
        (w.putCluster (w.cluster.perform session request).2)

theorem connect_cases (c : Cluster) (settings : Settings) :
    (∃ error refusals, c.connect settings =
      (.error error, c.adjust c.broker.offline refusals c.broker.faults)) ∨
    c.connect settings = (.ok c.sessions.length, c.join settings.id) := by
  unfold Cluster.connect
  split
  · exact .inl ⟨_, c.broker.refusals, rfl⟩
  · split
    · exact .inl ⟨_, c.broker.refusals, rfl⟩
    · split
      · exact .inl ⟨_, c.broker.refusals - 1, rfl⟩
      · exact .inr rfl

variable (w : World)

theorem step_start (service : Nat) (job : Job) (cancelled : Bool) :
    w.Step (w.orderNote? service job) (w.start service job cancelled) := by
  unfold start orderNote?
  cases hs : w.services[service]? with
  | none => exact .same
  | some s =>
    cases job with
    | publish after topic payload => exact .begun (.publish after topic payload)
    | report message stamp =>
      simp only [Job.record?]
      cases message.record? s.topic stamp with
      | error error => exact .begun (.reject error)
      | ok record => exact .begun (.publish 0 record.topic record.payload)
    | borrow slot => exact .begun (.borrow slot)
    | release slot =>
      cases h : w.handles.lookup slot with
      | none => simpa [h, Job.record?] using Step.same
      | some handle => simpa [h, Job.record?] using Step.begun (.release h)
    | shutdown => exact .begun (.shutdown hs)
    | create slot id =>
      cases id with
      | none => exact .begun (.createNext hs slot _ _)
      | some id => exact .begun (.create slot id)
    | operate slot request =>
      cases h : w.handles.lookup slot with
      | none => simpa [h, Job.record?] using Step.same
      | some handle => simpa [h, Job.record?] using Step.begun (.operate h request)

theorem demand_of_service {w : World} {task : Task} {service : Service}
    (hs : w.service? task = some service) : w.demand task = task.activity.demand service := by
  simp only [demand, hs]

theorem exists_service {task : Task} (h : w.demand task ≠ .rest) :
    ∃ service, w.service? task = some service := by
  unfold demand at h
  cases hs : w.service? task with
  | none => simp [hs] at h
  | some service => exact ⟨service, rfl⟩

theorem step_told {index : Nat} {task : Task} {signal : Signal} {note : Option Note}
    (ht : w.tasks[index]? = some task) (h : w.Told index task signal note) :
    w.Step note (w.signal index task signal) := by
  have busy (hd : w.demand task ≠ .rest) : w.Step note (w.signal index task signal) := by
    obtain ⟨service, hs⟩ := w.exists_service hd
    exact .told ht hs h
  cases h with
  | turn hd => exact busy (by simp [hd])
  | silence hd => exact busy (by intro hr; simp [hr, Demand.limit?] at hd)
  | awake hd => exact busy (by simp [hd])
  | answer ha =>
    cases hs : w.service? task with
    | some service => exact .told ht hs (.answer ha)
    | none =>
      rw [signal_of_no_service hs]
      exact .same

inductive CallEffect (w : World) (task : Task) : Option (Signal × Cluster) → Prop
  | refused {id : String} {limit : Span} (hd : w.demand task = .connection id limit)
      (refusals : Nat) (error : BrokerError) :
      CallEffect w task (some (.answered (.error error),
        w.cluster.adjust w.cluster.broker.offline refusals w.cluster.broker.faults))
  | opened {id : String} {limit : Span} (hd : w.demand task = .connection id limit) :
      CallEffect w task (some (.opened w.cluster.sessions.length, w.cluster.join id))
  | answered {session : SessionId} {id : String} {request : Request} {limit : Option Span}
      (hd : w.demand task = .answer session id request limit) :
      CallEffect w task (some (.answered (w.cluster.perform session request).1,
        (w.cluster.perform session request).2))
  | nothing (hd : (w.demand task).isCall = false) : CallEffect w task none

theorem callEffect_cases (task : Task) : w.CallEffect task (w.callEffect task) := by
  cases hd : w.demand task with
  | connection id limit =>
    obtain ⟨service, hs⟩ := w.exists_service (show w.demand task ≠ .rest by simp [hd])
    simp only [callEffect, hs, hd]
    rcases connect_cases w.cluster (service.options.settingsFor id) with ⟨error, refusals, hc⟩ | hc
    · rw [hc]
      exact .refused hd refusals error
    · rw [hc]
      exact .opened hd
  | answer session id request limit =>
    have effect : w.callEffect task = some (.answered (w.cluster.perform session request).1,
        (w.cluster.perform session request).2) := by
      unfold callEffect
      rw [hd]
      cases w.service? task <;> rfl
    rw [effect]
    exact .answered hd
  | pause | turn | rest =>
    have effect : w.callEffect task = none := by
      unfold callEffect
      rw [hd]
      cases w.service? task <;> rfl
    rw [effect]
    exact .nothing (by simp [hd, Demand.isCall])

theorem step_effect {index : Nat} {task : Task} (ht : w.tasks[index]? = some task) :
    w.Step (w.note? (.effect index)) (w.applyTask index task (.effect index)) := by
  simp only [note?, call?, ht, applyTask]
  cases ha : task.answer with
  | some answer => cases w.demand task <;> exact .same
  | none =>
    have effect := w.callEffect_cases task
    generalize w.callEffect task = given at effect
    cases effect with
    | refused hd refusals error =>
      rw [hd]
      exact .refused ht hd ha refusals error
    | opened hd =>
      rw [hd]
      exact .opened ht hd ha
    | answered hd =>
      rw [hd]
      exact .answered ht hd ha
    | nothing hd =>
      cases called : w.demand task with
      | connection | answer => simp [called, Demand.isCall] at hd
      | pause | turn | rest => exact .same

theorem step_task {index : Nat} {task : Task} {event : Event}
    (he : eventTask? event = some index) (ht : w.tasks[index]? = some task) :
    w.Step (w.note? event) (w.applyTask index task event) := by
  cases event with
  | proceed i =>
    simp only [note?, call?, Option.map_none, applyTask]
    split
    · exact w.step_told ht (.turn ‹_›)
    · exact .same
  | effect i =>
    cases he
    exact w.step_effect ht
  | deliver i =>
    simp only [note?, call?, Option.map_none, applyTask]
    cases ha : task.answer with
    | none => exact .same
    | some answer => exact w.step_told ht (.answer ha)
  | expire i =>
    cases he
    simp only [note?, ht, applyTask]
    split
    · exact w.step_told ht (.silence ‹_›)
    · exact .same
  | wake i =>
    simp only [note?, call?, Option.map_none, applyTask]
    cases hd : w.demand task with
    | pause length cancellable => exact w.step_told ht (.awake hd)
    | connection | answer | turn | rest => exact .same
  | crash i text =>
    cases he
    simp only [note?, call?, Option.map_none, applyTask]
    split
    · exact .crashed ht ‹_› text
    · exact .same
  | cancel i =>
    cases he
    exact .flagged ht
  | _ => simp [eventTask?] at he

/-- Every event is one of the steps, and its note is the note of that step. -/
theorem step_apply (event : Event) : w.Step (w.note? event) (w.apply event) := by
  unfold apply
  cases he : eventTask? event with
  | some index =>
    cases ht : w.tasks[index]? with
    | none =>
      -- What is addressed to no task changes nothing and is not written down.
      have silent : w.note? event = none := by
        cases event <;> simp_all [eventTask?, note?, call?]
      simpa [ht, silent] using Step.same
    | some task => simpa [ht] using w.step_task he ht
  | none =>
    cases event with
    | tick time => exact .tick time
    | start service job cancelled => exact w.step_start service job cancelled
    | toggleOffline => exact .adjusted _ _ _
    | refuse count => exact .adjusted _ _ _
    | inject operation error => exact .adjusted _ _ _
    | forget slot => exact .forgot slot
    | markFatal slot =>
      change w.Step none (w.markFatal slot)
      unfold markFatal
      cases h : w.handles.lookup slot with
      | none => exact .same
      | some handle => exact .spoiled h
    | openSession slot settings =>
      change w.Step none (w.openSession slot settings).2
      unfold openSession
      rcases connect_cases w.cluster settings with ⟨error, refusals, hc⟩ | hc
      · rw [hc]
        exact .adjusted _ refusals _
      · rw [hc]
        exact .joined slot settings.id
    | request slot request =>
      simp only [note?, call?, World.request]
      cases h : w.sessions.lookup slot with
      | none => exact .same
      | some session => exact .requested h request
    | _ => simp [eventTask?] at he

theorem run_append (before after : List Event) :
    w.run (before ++ after) = (w.run before).run after := by
  unfold run
  exact List.foldl_append

theorem chronicle_append (past : Chronicle) (before after : List Event) :
    w.chronicle past (before ++ after) =
      (w.run before).chronicle (w.chronicle past before) after := by
  induction before generalizing w past with
  | nil => rfl
  | cons event before ih => exact ih (w.apply event) _

theorem run_keeps {P : Chronicle → World → Prop}
    (step : ∀ {past w note next}, P past w → Step w note next → P (note.toList ++ past) next)
    (events : List Event) {past : Chronicle} {w : World} (h : P past w) :
    P (w.chronicle past events) (w.run events) := by
  induction events generalizing w past with
  | nil => exact h
  | cons event events ih => exact ih (step h (w.step_apply event))

end World

end OutcomeRelay
