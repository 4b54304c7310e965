import OutcomeRelay.Proofs.Publishing

set_option autoImplicit false

/-!
# Sessions that answer as they like

Much of what a publish does follows from the answers it gets, whoever gives them. Here every call
may be answered in any way and at any time, next to the answers of the broker itself, so that the
runs are those of every session one could think of. Main statement: what becomes of one task when
something happens.
-/

namespace OutcomeRelay

/-- An event, or an answer to the call that a task waits for, of which nothing is said but that it
is given. -/
inductive Occurrence where
  | event (event : Event)
  | answer (task : Nat) (reply : Reply)
deriving DecidableEq

inductive Demand.EndsWith : Demand → Signal → Prop where
  | opened (id : String) (limit : Span) (session : SessionId) :
      EndsWith (.connection id limit) (.opened session)
  | refused (id : String) (limit : Span) (error : BrokerError) :
      EndsWith (.connection id limit) (.answered (.error error))
  | unconnected (id : String) (limit : Span) : EndsWith (.connection id limit) .silence
  | answered (session : SessionId) (id : String) (request : Request) (limit : Option Span)
      (reply : Reply) : EndsWith (.answer session id request limit) (.answered reply)
  | unanswered (session : SessionId) (id : String) (request : Request) (limit : Span) :
      EndsWith (.answer session id request (some limit)) .silence
  | rested (length : Span) (cancellable : Bool) : EndsWith (.pause length cancellable) .resumed
  | turned : EndsWith .turn .resumed

theorem Demand.EndsWith.silence {demand : Demand} (h : demand.limit?.isSome = true) :
    demand.EndsWith .silence := by
  cases demand with
  | connection id limit => exact .unconnected id limit
  | answer session id request limit =>
    obtain ⟨span, rfl⟩ := Option.isSome_iff_exists.mp h
    exact .unanswered session id request span
  | pause | turn | rest => simp [limit?] at h

def Demand.endsByItself : Demand → Bool
  | .turn => true
  | .pause _ _ => true
  | demand => demand.limit?.isSome

def Task.hears? (task : Task) (demand : Demand) : Event → Option Signal
  | .proceed _ => if demand = .turn then some .resumed else none
  | .deliver _ => task.answer
  | .expire _ => if demand.limit?.isSome then some .silence else none
  | .wake _ =>
    match demand with
    | .pause _ _ => some .resumed
    | _ => none
  | _ => none

namespace World

def answerTask (w : World) (index : Nat) (task : Task) (reply : Reply) : World :=
  if task.answer.isSome then w
  else match w.demand task, reply with
    | .connection id _, .ok () =>
      (w.putCluster (w.cluster.join id)).setTask index
        { task with answer := some (.opened w.cluster.sessions.length) }
    | .connection _ _, .error error =>
      w.setTask index { task with answer := some (.answered (.error error)) }
    | .answer _ _ _ _, reply => w.setTask index { task with answer := some (.answered reply) }
    | _, _ => w

def undergo (w : World) : Occurrence → World
  | .event event => w.apply event
  | .answer index reply =>
    match w.tasks[index]? with
    | none => w
    | some task => w.answerTask index task reply

def follow (w : World) (happenings : List Occurrence) : World := happenings.foldl undergo w

def hears? (w : World) (o : Occurrence) (i : Nat) : Option Signal :=
  match o with
  | .answer _ _ => none
  | .event event =>
    if eventTask? event = some i then
      w.tasks[i]?.bind fun task => task.hears? (w.demand task) event
    else none

/-- An answer is on its way only to a task that waits for it, and every task has its service. -/
structure Regular (w : World) : Prop where
  answers : ∀ task ∈ w.tasks, ∀ s, task.answer = some s → (w.demand task).EndsWith s
  services : ∀ task ∈ w.tasks, (w.service? task).isSome = true

/-- What becomes of a task when something happens, given what it is told. -/
inductive Becomes (w : World) (o : Occurrence) (task : Task) : Option Signal → Task → Prop where
  | waits {new : Task} (activity : new.activity = task.activity)
      (service : new.service = task.service)
      (cancelled : task.cancelled = true → new.cancelled = true)
      (answer : ∀ s, new.answer = some s → (w.demand task).EndsWith s) :
      Becomes w o task none new
  | told {service : Service} {s : Signal} (hs : w.service? task = some service)
      (ends : (w.demand task).EndsWith s) :
      Becomes w o task (some s) (w.moved task (move service task s).activity)
  | crashed (hd : (w.demand task).isCall = true) {index : Nat} (text : String)
      (panics : o = .event (.crash index text)) :
      Becomes w o task none (w.moved task (.ended (.crashed text)))

variable {w : World} {index i : Nat} {task : Task} {o : Occurrence}

/-! ### The task that an event is about -/

theorem Becomes.same (ends : ∀ s, task.answer = some s → (w.demand task).EndsWith s) :
    w.Becomes o task none task :=
  .waits rfl rfl id ends

theorem exists_told {s : Signal} (ends : (w.demand task).EndsWith s) (i : Nat) :
    ∃ new, (w.signal i task s).tasks = w.tasks.set i new ∧ w.Becomes o task (some s) new := by
  have busy : w.demand task ≠ .rest := by
    intro rests
    rw [rests] at ends
    cases ends
  obtain ⟨service, hs⟩ := w.exists_service busy
  exact ⟨_, signal_tasks hs, .told hs ends⟩

theorem callEffect_ends {answer : Signal} {cluster : Cluster}
    (h : w.callEffect task = some (answer, cluster)) : (w.demand task).EndsWith answer := by
  have effect := w.callEffect_cases task
  rw [h] at effect
  cases effect with
  | refused hd refusals error => exact hd ▸ .refused _ _ error
  | opened hd => exact hd ▸ .opened _ _ _
  | answered hd => exact hd ▸ .answered _ _ _ _ _

theorem told_of_hears {event : Event} {s : Signal} (i : Nat)
    (h : task.hears? (w.demand task) event = some s) : ∃ note, w.Told i task s note := by
  cases event with
  | proceed j =>
    obtain ⟨turn, rfl⟩ : w.demand task = .turn ∧ Signal.resumed = s := by
      simpa [Task.hears?] using h
    exact ⟨_, .turn turn⟩
  | deliver j => exact ⟨_, .answer h⟩
  | expire j =>
    obtain ⟨limited, rfl⟩ : (w.demand task).limit?.isSome = true ∧ Signal.silence = s := by
      simpa [Task.hears?] using h
    exact ⟨_, .silence limited⟩
  | wake j =>
    cases hd : w.demand task with
    | pause length cancellable =>
      obtain rfl : Signal.resumed = s := by simpa [Task.hears?, hd] using h
      exact ⟨_, .awake hd⟩
    | connection | answer | turn | rest => simp [Task.hears?, hd] at h
  | _ => simp [Task.hears?] at h

theorem Told.ends {s : Signal} {note : Option Note} (h : w.Told i task s note)
    (answers : ∀ s, task.answer = some s → (w.demand task).EndsWith s) :
    (w.demand task).EndsWith s := by
  cases h with
  | turn hd => exact hd ▸ .turned
  | answer ha => exact answers s ha
  | silence limited => exact .silence limited
  | awake hd => exact hd ▸ .rested _ _

/-- What an event about a task does: the task is told what it hears, it is given an answer or a
flag, or its call crashes. -/
inductive Touches (w : World) (i : Nat) (task : Task) (event : Event) : World → Prop where
  | told {s : Signal} (heard : task.hears? (w.demand task) event = some s) :
      Touches w i task event (w.signal i task s)
  | flagged (new : Task) (cluster : Cluster)
      (same : (new.service, new.activity) = (task.service, task.activity))
      (cancelled : task.cancelled = true → new.cancelled = true)
      (answer : new.answer = task.answer ∨ ∀ s, new.answer = some s → (w.demand task).EndsWith s)
      (unheard : task.hears? (w.demand task) event = none)
      (calm : ∀ j text, event = .crash j text → (w.demand task).isCall = false) :
      Touches w i task event ((w.putCluster cluster).setTask i new)
  | crashed (hd : (w.demand task).isCall = true) {j : Nat} {text : String}
      (panics : event = .crash j text) :
      Touches w i task event (w.setTask i (w.moved task (.ended (.crashed text))))

theorem applyTask_touches (ht : w.tasks[i]? = some task) {event : Event}
    (he : eventTask? event = some i) : w.Touches i task event (w.applyTask i task event) := by
  -- Where nothing happens, the task is replaced by itself.
  have idle (unheard : task.hears? (w.demand task) event = none)
      (calm : ∀ j text, event = .crash j text → (w.demand task).isCall = false) :
      w.Touches i task event w := by
    have same : (w.putCluster w.cluster).setTask i task = w :=
      congrArg (fun tasks => { w with tasks := tasks }) (set_getElem?_self ht)
    have touches : w.Touches i task event ((w.putCluster w.cluster).setTask i task) :=
      .flagged task w.cluster rfl id (.inl rfl) unheard calm
    rwa [same] at touches
  cases event with
  | proceed j =>
    simp only [applyTask]
    split
    · exact .told (if_pos ‹_›)
    · exact idle (if_neg ‹_›) (by simp)
  | effect j =>
    simp only [applyTask]
    split
    · exact idle rfl (by simp)
    · split
      · exact idle rfl (by simp)
      · rename_i answer cluster effect
        refine .flagged { task with answer := some answer } cluster rfl id (.inr ?_) rfl (by simp)
        intro s hs
        obtain rfl : answer = s := Option.some.inj hs
        exact callEffect_ends effect
  | deliver j =>
    simp only [applyTask]
    split
    · exact idle ‹_› (by simp)
    · exact .told ‹_›
  | expire j =>
    simp only [applyTask]
    split
    · exact .told (if_pos ‹_›)
    · exact idle (if_neg ‹_›) (by simp)
  | wake j =>
    cases hd : w.demand task with
    | pause length cancellable =>
      have told : w.applyTask i task (.wake j) = w.signal i task .resumed := by
        simp [applyTask, hd]
      rw [told]
      exact .told (by simp [Task.hears?, hd])
    | connection | answer | turn | rest =>
      have same : w.applyTask i task (.wake j) = w := by simp [applyTask, hd]
      rw [same]
      exact idle (by simp [Task.hears?, hd]) (by simp)
  | crash j text =>
    simp only [applyTask]
    split
    · exact .crashed ‹_› rfl
    · refine idle rfl fun _ _ _ => ?_
      simpa using ‹¬(w.demand task).isCall = true›
  | cancel j =>
    exact .flagged { task with cancelled := true } w.cluster rfl (fun _ => rfl) (.inl rfl) rfl
      (by simp)
  | _ => simp [eventTask?] at he

theorem apply_touches {event : Event} (he : eventTask? event = some i) :
    w.apply event = w ∨
      ∃ task, w.tasks[i]? = some task ∧ w.Touches i task event (w.apply event) := by
  simp only [apply, he]
  cases ht : w.tasks[i]? with
  | none => exact .inl rfl
  | some task => exact .inr ⟨task, rfl, applyTask_touches ht he⟩

theorem applyTask_tasks (ends : ∀ s, task.answer = some s → (w.demand task).EndsWith s)
    (ht : w.tasks[i]? = some task) {event : Event} (he : eventTask? event = some i) :
    ∃ new, (w.applyTask i task event).tasks = w.tasks.set i new ∧
      w.Becomes (.event event) task (task.hears? (w.demand task) event) new := by
  have touches := applyTask_touches ht he
  generalize w.applyTask i task event = next at touches
  cases touches with
  | told heard =>
    obtain ⟨note, told⟩ := told_of_hears i heard
    rw [heard]
    exact exists_told (told.ends ends) i
  | flagged new cluster same cancelled answer unheard calm =>
    obtain ⟨service, activity⟩ := Prod.mk.inj same
    rw [unheard]
    refine ⟨new, rfl, .waits activity service cancelled ?_⟩
    rcases answer with kept | given
    · exact kept ▸ ends
    · exact given
  | crashed hd panics =>
    subst panics
    exact ⟨_, rfl, .crashed hd _ rfl⟩

theorem answerTask_tasks (ends : ∀ s, task.answer = some s → (w.demand task).EndsWith s)
    (ht : w.tasks[i]? = some task) (reply : Reply) :
    ∃ new, (w.answerTask i task reply).tasks = w.tasks.set i new ∧
      w.Becomes (.answer i reply) task none new := by
  have set (answer : Signal) (h : (w.demand task).EndsWith answer) :
      w.Becomes (.answer i reply) task none { task with answer := some answer } := by
    refine .waits rfl rfl id ?_
    intro s hs
    obtain rfl : answer = s := Option.some.inj hs
    exact h
  unfold answerTask
  split
  · exact ⟨task, (set_getElem?_self ht).symm, .same ends⟩
  · split
    · rename_i id limit hd
      exact ⟨_, rfl, set _ (hd ▸ .opened id limit _)⟩
    · rename_i id limit error hd
      exact ⟨_, rfl, set _ (hd ▸ .refused id limit error)⟩
    · rename_i session id request limit hd
      exact ⟨_, rfl, set _ (hd ▸ .answered session id request limit _)⟩
    · exact ⟨task, (set_getElem?_self ht).symm, .same ends⟩

/-! ### New tasks -/

def Drains (w base : World) (task : Task) : Prop :=
  ∀ handles closed, task.activity = .draining handles closed →
    ∃ s, w.services[task.service]? = some s ∧ base = w.setPool task.service s.pool.drain.2 ∧
      handles = s.pool.drain.1

theorem start_cases (w : World) (service : Nat) (job : Job) (cancelled : Bool) :
    w.start service job cancelled = w ∨
    ∃ base task note, w.start service job cancelled = base.addTask task ∧
      w.Begins base task.activity note ∧ w.Drains base task ∧
      (w.services[task.service]?).isSome = true := by
  unfold start
  cases hs : w.services[service]? with
  | none => exact .inl rfl
  | some s =>
    have staffed : (w.services[service]?).isSome = true := by simp [hs]
    cases job with
    | publish after topic payload =>
      refine .inr ⟨_, _, _, rfl, .publish after topic payload, ?_, staffed⟩
      simp only [Drains, Activity.begin]
      split <;> simp
    | report message stamp =>
      simp only
      split
      · exact .inr ⟨_, _, _, rfl, .reject _, by simp [Drains], staffed⟩
      · rename_i record _
        exact .inr ⟨_, _, _, rfl, .publish 0 record.topic record.payload, by simp [Drains], staffed⟩
    | borrow slot => exact .inr ⟨_, _, _, rfl, .borrow slot, by simp [Drains], staffed⟩
    | release slot =>
      cases h : w.handles.lookup slot with
      | none => exact .inl (by simp [h])
      | some handle =>
        refine .inr ⟨_, { service := service, cancelled := cancelled, activity := _ }, _, ?_,
          .release h, by simp [Drains], staffed⟩
        simp only [h]
    | shutdown =>
      refine .inr ⟨_, _, _, rfl, .shutdown hs, ?_, staffed⟩
      intro handles closed same
      cases same
      exact ⟨s, hs, rfl, rfl⟩
    | create slot id =>
      cases id with
      | none => exact .inr ⟨_, _, _, rfl, .createNext hs slot _ _, by simp [Drains], staffed⟩
      | some id => exact .inr ⟨_, _, _, rfl, .create slot id, by simp [Drains], staffed⟩
    | operate slot request =>
      cases h : w.handles.lookup slot with
      | none => exact .inl (by simp [h])
      | some handle =>
        refine .inr ⟨_, { service := service, cancelled := cancelled, activity := _ }, _, ?_,
          .operate h request, by simp [Drains], staffed⟩
        simp only [h]

theorem apply_tasks_cases (w : World) {event : Event} (he : eventTask? event = none) :
    ((w.apply event).tasks = w.tasks ∧ (w.apply event).journal = w.journal) ∨
    ∃ base task note, w.apply event = base.addTask task ∧ w.Begins base task.activity note ∧
      (w.services[task.service]?).isSome = true := by
  unfold apply
  cases event with
  | start service job cancelled =>
    rcases w.start_cases service job cancelled with same | ⟨base, task, note, h, hb, -, hs⟩
    · exact .inl ⟨congrArg World.tasks same, congrArg World.journal same⟩
    · exact .inr ⟨base, task, note, h, hb, hs⟩
  | markFatal slot =>
    refine .inl (?_ : (w.markFatal slot).tasks = _ ∧ (w.markFatal slot).journal = _)
    unfold markFatal
    split <;> exact ⟨rfl, rfl⟩
  | openSession slot settings =>
    refine .inl (?_ : (w.openSession slot settings).2.tasks = _ ∧
      (w.openSession slot settings).2.journal = _)
    unfold openSession
    split <;> exact ⟨rfl, rfl⟩
  | request slot request =>
    refine .inl (?_ : (w.request slot request).2.tasks = _ ∧
      (w.request slot request).2.journal = _)
    unfold World.request
    split <;> exact ⟨rfl, rfl⟩
  | tick | toggleOffline | refuse | inject | forget => exact .inl ⟨rfl, rfl⟩
  | _ => simp [eventTask?] at he

/-! ### All tasks -/

theorem answers_of_getElem? (h : w.Regular) (ht : w.tasks[i]? = some task) :
    ∀ s, task.answer = some s → (w.demand task).EndsWith s :=
  h.answers task (List.mem_of_getElem? ht)

theorem becomes_of_set {new other : Task} (h : w.Regular) (ht : w.tasks[i]? = some task)
    (ho : w.tasks[index]? = some other) {signal : Option Signal}
    (hn : w.Becomes o other signal new) :
    ∃ next, (w.tasks.set index new)[i]? = some next ∧
      w.Becomes o task (if index = i then signal else none) next := by
  rcases eq_or_ne index i with rfl | different
  · obtain rfl : task = other := Option.some.inj (ht.symm.trans ho)
    refine ⟨new, List.getElem?_set_self (List.getElem?_eq_some_iff.mp ht).1, ?_⟩
    simpa using hn
  · refine ⟨task, by rw [List.getElem?_set_ne different, ht], ?_⟩
    simpa [different] using Becomes.same (answers_of_getElem? h ht)

/-- When something happens, each task goes on waiting, is told something or has its call crash. -/
theorem undergo_task (h : w.Regular) (ht : w.tasks[i]? = some task) (o : Occurrence) :
    ∃ new, (w.undergo o).tasks[i]? = some new ∧ w.Becomes o task (w.hears? o i) new := by
  have still : ∃ new, w.tasks[i]? = some new ∧ w.Becomes o task none new :=
    ⟨task, ht, .same (answers_of_getElem? h ht)⟩
  cases o with
  | answer index reply =>
    simp only [undergo, hears?]
    cases ho : w.tasks[index]? with
    | none => exact still
    | some other =>
      obtain ⟨new, tasks, becomes⟩ := answerTask_tasks (answers_of_getElem? h ho) ho reply
      simp only [tasks]
      simpa using becomes_of_set h ht ho becomes
  | event event =>
    simp only [undergo, hears?]
    cases he : eventTask? event with
    | some index =>
      simp only [apply, he]
      cases ho : w.tasks[index]? with
      | none =>
        have other : index ≠ i := by
          rintro rfl
          simp [ho] at ht
        simpa [other] using still
      | some other =>
        obtain ⟨new, tasks, becomes⟩ := applyTask_tasks (answers_of_getElem? h ho) ho he
        simp only [tasks, Option.some.injEq]
        rcases eq_or_ne index i with rfl | different
        · simpa [ho] using becomes_of_set h ht ho becomes
        · simpa [different] using becomes_of_set h ht ho becomes
    | none =>
      simp only [reduceCtorEq, ↓reduceIte]
      rcases w.apply_tasks_cases he with ⟨same, -⟩ | ⟨base, new, note, hn, hb, -⟩
      · rw [same]
        exact still
      · rw [hn, addTask_tasks, hb.tasks,
          List.getElem?_append_left (List.getElem?_eq_some_iff.mp ht).1]
        exact still

/-- What is true of what a task does stays so if whatever the task is told, and a panic, leaves it
true. -/
theorem Regular.undergo_activity {P : Activity → Prop} (h : w.Regular)
    (ht : w.tasks[i]? = some task) (hP : P task.activity) (o : Occurrence)
    (resumes : ∀ service signal, (task.activity.demand service).EndsWith signal →
      P (task.activity.resume service task.cancelled signal).activity)
    (crashes : ∀ index text, o = .event (.crash index text) → (w.demand task).isCall = true →
      P (.ended (.crashed text))) :
    ∃ new, (w.undergo o).tasks[i]? = some new ∧ P new.activity := by
  obtain ⟨new, hn, becomes⟩ := undergo_task h ht o
  refine ⟨new, hn, ?_⟩
  generalize w.hears? o i = signal at becomes
  cases becomes with
  | waits activity => exact activity ▸ hP
  | told served ends =>
    rw [demand_of_service served] at ends
    exact resumes _ _ ends
  | crashed called text panics => exact crashes _ text panics called

theorem undergo_new (h : w.Regular) (o : Occurrence) {new : Task} (beyond : w.tasks.length ≤ i)
    (hn : (w.undergo o).tasks[i]? = some new) :
    i = w.tasks.length ∧ new.answer = none ∧ (w.services[new.service]?).isSome = true ∧
      ∃ base note, w.Begins base new.activity note := by
  have absent : w.tasks[i]? = none := List.getElem?_eq_none beyond
  cases o with
  | answer index reply =>
    simp only [undergo] at hn
    cases ho : w.tasks[index]? with
    | none => simp [ho, absent] at hn
    | some other =>
      obtain ⟨_, tasks, -⟩ := answerTask_tasks (answers_of_getElem? h ho) ho reply
      simp [ho, tasks, List.getElem?_eq_none (show (w.tasks.set index _).length ≤ i by simpa)] at hn
  | event event =>
    simp only [undergo] at hn
    cases he : eventTask? event with
    | some index =>
      simp only [apply, he] at hn
      cases ho : w.tasks[index]? with
      | none => simp [ho, absent] at hn
      | some other =>
        obtain ⟨_, tasks, -⟩ := applyTask_tasks (answers_of_getElem? h ho) ho he
        simp [ho, tasks, List.getElem?_eq_none (show (w.tasks.set index _).length ≤ i by simpa)]
          at hn
    | none =>
      rcases w.apply_tasks_cases he with ⟨same, -⟩ | ⟨base, added, note, ha, hb, hs⟩
      · simp [same, absent] at hn
      · rw [ha, addTask_tasks, hb.tasks, List.getElem?_append_right beyond] at hn
        obtain ⟨here, rfl⟩ : i - w.tasks.length = 0 ∧ base.moved added added.activity = new := by
          simpa [List.getElem?_singleton] using hn
        exact ⟨by omega, rfl, hs, base, note, hb⟩

theorem undergo_origin (h : w.Regular) (o : Occurrence) {new : Task}
    (hn : (w.undergo o).tasks[i]? = some new) :
    (∃ task, w.tasks[i]? = some task ∧ w.Becomes o task (w.hears? o i) new) ∨
    (i = w.tasks.length ∧ new.answer = none ∧ (w.services[new.service]?).isSome = true ∧
      ∃ base note, w.Begins base new.activity note) := by
  rcases Nat.lt_or_ge i w.tasks.length with old | beyond
  · have ht := List.getElem?_eq_getElem old
    obtain ⟨next, hnext, becomes⟩ := undergo_task h ht o
    obtain rfl : next = new := Option.some.inj (hnext.symm.trans hn)
    exact .inl ⟨_, ht, becomes⟩
  · exact .inr (undergo_new h o beyond hn)

theorem length_le_undergo (h : w.Regular) (o : Occurrence) :
    w.tasks.length ≤ (w.undergo o).tasks.length := by
  refine le_of_forall_lt fun i called => ?_
  obtain ⟨new, hn, -⟩ := undergo_task h (List.getElem?_eq_getElem called) o
  exact (List.getElem?_eq_some_iff.mp hn).1

/-! ### Services -/

end World

theorem Activity.demand_pool (service : Service) (pool : Pool) (activity : Activity) :
    activity.demand { service with pool := pool } = activity.demand service := by
  cases activity with
  | draining handles closed => cases handles <;> rfl
  | _ => rfl

namespace World

variable {w next : World} {i : Nat} {task : Task}

theorem setPool_service {k : Nat} {s : Service} (hs : w.services[k]? = some s) (j : Nat)
    (pool : Pool) : ∃ pool', (w.setPool j pool).services[k]? = some { s with pool := pool' } := by
  simp only [setPool, List.getElem?_modify, hs]
  by_cases same : j = k
  · exact ⟨pool, by simp [same]⟩
  · exact ⟨s.pool, by simp [same]⟩

theorem setPool_services_cases {j k : Nat} {pool : Pool} {later : Service}
    (h : (w.setPool j pool).services[k]? = some later) :
    (j = k ∧ ∃ service, w.services[k]? = some service ∧ later = { service with pool := pool }) ∨
      (j ≠ k ∧ w.services[k]? = some later) := by
  simp only [setPool, List.getElem?_modify] at h
  cases hs : w.services[k]? with
  | none => simp [hs] at h
  | some service =>
    by_cases same : j = k
    · obtain rfl : { service with pool := pool } = later := by simpa [hs, same] using h
      exact .inl ⟨same, service, rfl, rfl⟩
    · obtain rfl : service = later := by simpa [hs, same] using h
      exact .inr ⟨same, rfl⟩

theorem Step.service {note : Option Note} (hstep : w.Step note next) {k : Nat} {s : Service}
    (hs : w.services[k]? = some s) : ∃ pool, next.services[k]? = some { s with pool := pool } := by
  have kept : ∃ pool, w.services[k]? = some { s with pool := pool } := ⟨s.pool, hs⟩
  cases hstep with
  | @begun base task note hb =>
    rw [addTask_services]
    generalize task.activity = activity at hb
    cases hb with
    | shutdown h => exact setPool_service hs _ _
    | createNext h slot ids id => exact setPool_service hs _ _
    | publish | reject | borrow | release | operate | create => exact kept
  | @told index task service signal note ht hs' told =>
    rw [signal_services hs']
    exact setPool_service hs _ _
  | same | tick | opened | refused | answered | crashed | flagged | adjusted | forgot | spoiled
  | joined | requested => exact kept

/-- A step of a world whose sessions answer as they like. -/
inductive FreeStep (w : World) : World → Prop where
  | step {note : Option Note} {next : World} (h : w.Step note next) : FreeStep w next
  | replied {index : Nat} {task : Task} {session : SessionId} {id : String} {request : Request}
      {limit : Option Span} (ht : w.tasks[index]? = some task)
      (hd : w.demand task = .answer session id request limit) (ha : task.answer = none)
      (reply : Reply) :
      FreeStep w (w.setTask index { task with answer := some (.answered reply) })

theorem undergo_step (w : World) (o : Occurrence) : w.FreeStep (w.undergo o) := by
  cases o with
  | event event => exact .step (w.step_apply event)
  | answer index reply =>
    simp only [undergo]
    cases ht : w.tasks[index]? with
    | none => exact .step .same
    | some task =>
      simp only [answerTask]
      split
      · exact .step .same
      · rename_i waiting
        have ha : task.answer = none := by simpa using waiting
        split
        · exact .step (.opened ht ‹_› ha)
        · exact .step (.refused ht ‹_› ha w.cluster.broker.refusals _)
        · exact .replied ht ‹_› ha _
        · exact .step .same

theorem FreeStep.service (hstep : w.FreeStep next) {k : Nat} {s : Service}
    (hs : w.services[k]? = some s) : ∃ pool, next.services[k]? = some { s with pool := pool } := by
  cases hstep with
  | step h => exact h.service hs
  | replied ht hd ha reply => exact ⟨s.pool, hs⟩

theorem Owned.freeStep (h : w.Owned) (hstep : w.FreeStep next) : next.Owned := by
  cases hstep with
  | step hs => exact h.step hs
  | @replied index task session id request limit ht hd ha reply =>
    exact h.of_le (setTask_held_le ht (task.answered_held reply)) fun _ _ hp => hp

theorem FreeStep.demand_eq (hstep : w.FreeStep next) {service : Service}
    (hs : w.service? task = some service) {new : Task} (same : new.service = task.service)
    (activity : new.activity = task.activity) : next.demand new = w.demand task := by
  obtain ⟨pool, hs'⟩ := hstep.service hs
  have staffed : next.service? new = some { service with pool := pool } := by
    rw [service?, same]
    exact hs'
  simp only [demand, staffed, hs, activity, Activity.demand_pool]

theorem Becomes.service_eq {o : Occurrence} {signal : Option Signal} {new : Task}
    (h : w.Becomes o task signal new) : new.service = task.service := by
  cases h with
  | waits activity service cancelled answer => exact service
  | told | crashed => rfl

theorem Becomes.keeps_cancelled {o : Occurrence} {signal : Option Signal} {new : Task}
    (h : w.Becomes o task signal new) (hc : task.cancelled = true) : new.cancelled = true := by
  cases h with
  | waits activity service cancelled answer => exact cancelled hc
  | told | crashed => exact hc

theorem Regular.service (h : w.Regular) (ht : w.tasks[i]? = some task) :
    ∃ service, w.service? task = some service :=
  Option.isSome_iff_exists.mp (h.services task (List.mem_of_getElem? ht))

theorem Regular.service_before (h : w.Regular) (ht : w.tasks[i]? = some task) {o : Occurrence}
    {signal : Option Signal} {new : Task} (becomes : w.Becomes o task signal new)
    {service : Service} (hs : (w.undergo o).service? new = some service) :
    ∃ own pool, w.service? task = some own ∧ service = { own with pool := pool } := by
  obtain ⟨own, ho⟩ := h.service ht
  obtain ⟨pool, hp⟩ := (w.undergo_step o).service ho
  rw [service?, becomes.service_eq, hp] at hs
  exact ⟨own, pool, ho, (Option.some.inj hs).symm⟩

theorem Regular.undergo (h : w.Regular) (o : Occurrence) : (w.undergo o).Regular := by
  have step := w.undergo_step o
  constructor
  · intro new hn s hs
    obtain ⟨i, hi⟩ := List.mem_iff_getElem?.mp hn
    rcases undergo_origin h o hi with ⟨task, ht, becomes⟩ | ⟨-, unanswered, -, -⟩
    · generalize w.hears? o i = signal at becomes
      cases becomes with
      | waits activity service cancelled answer =>
        obtain ⟨own, ho⟩ := h.service ht
        rw [step.demand_eq ho service activity]
        exact answer s hs
      | told | crashed => simp at hs
    · simp [unanswered] at hs
  · intro new hn
    obtain ⟨i, hi⟩ := List.mem_iff_getElem?.mp hn
    rcases undergo_origin h o hi with ⟨task, ht, becomes⟩ | ⟨-, -, staffed, -⟩
    · obtain ⟨service, hs⟩ := h.service ht
      obtain ⟨pool, hs'⟩ := step.service hs
      rw [service?, becomes.service_eq, hs']
      rfl
    · obtain ⟨service, hs⟩ := Option.isSome_iff_exists.mp staffed
      obtain ⟨pool, hs'⟩ := step.service hs
      rw [service?, hs']
      rfl

theorem follow_append (w : World) (before after : List Occurrence) :
    w.follow (before ++ after) = (w.follow before).follow after :=
  List.foldl_append

/-- What every occurrence keeps is kept by all that follows. -/
theorem follow_keeps {P : World → Prop} (h : P w) (keeps : ∀ w o, P w → P (w.undergo o))
    (later : List Occurrence) : P (w.follow later) := by
  induction later generalizing w with
  | nil => exact h
  | cons o later ih => exact ih (keeps w o h)

theorem Regular.follow (h : w.Regular) (later : List Occurrence) : (w.follow later).Regular :=
  follow_keeps h (fun _ o h => h.undergo o) later

theorem Owned.follow (h : w.Owned) (later : List Occurrence) : (w.follow later).Owned :=
  follow_keeps h (fun w o h => h.freeStep (w.undergo_step o)) later

end World

/-! ### Whole runs -/

/-- A run of services with empty pools, on sessions that answer as they like. -/
structure FreeRun where
  partitions : Nat
  services : List Service
  happenings : List Occurrence
  fresh : ∀ service ∈ services, service.pool.idle = []

namespace FreeRun

def start (r : FreeRun) : World := World.initial r.partitions r.services

def world (r : FreeRun) : World := r.start.follow r.happenings

def extend (r : FreeRun) (later : List Occurrence) : FreeRun :=
  { r with happenings := r.happenings ++ later }

variable (r : FreeRun)

theorem extend_world (later : List Occurrence) : (r.extend later).world = r.world.follow later :=
  World.follow_append _ _ _

theorem extend_one (o : Occurrence) : (r.extend [o]).world = r.world.undergo o :=
  r.extend_world [o]

theorem extend_extend (before after : List Occurrence) :
    (r.extend before).extend after = r.extend (before ++ after) := by
  simp [extend]

@[elab_as_elim]
theorem by_happenings {P : FreeRun → Prop} (r : FreeRun)
    (idle : ∀ r : FreeRun, r.happenings = [] → P r)
    (happening : ∀ (r : FreeRun) (o : Occurrence), P r → P (r.extend [o])) : P r := by
  obtain ⟨partitions, services, happenings, fresh⟩ := r
  induction happenings using List.reverseRecOn with
  | nil => exact idle _ rfl
  | append_singleton happenings o ih => exact happening _ o ih

theorem by_extension {P : FreeRun → Prop} (here : P r)
    (happening : ∀ (r : FreeRun) (o : Occurrence), P r → P (r.extend [o]))
    (later : List Occurrence) : P (r.extend later) := by
  induction later using List.reverseRecOn with
  | nil => simpa [extend] using here
  | append_singleton later o ih => simpa [extend_extend] using happening _ o ih

theorem regular : r.world.Regular := by
  have idle : r.start.Regular := by
    constructor <;> simp [start, World.initial]
  exact idle.follow r.happenings

theorem owned : r.world.Owned :=
  (World.Owned.initial r.partitions r.fresh).follow r.happenings

end FreeRun

def Run.free (r : Run) : FreeRun where
  partitions := r.partitions
  services := r.services
  happenings := r.events.map .event
  fresh := r.fresh

theorem Run.free_extend (r : Run) (later : List Event) :
    (r.extend later).free = r.free.extend (later.map .event) := by
  simp [free, extend, FreeRun.extend]

theorem Run.free_world (r : Run) : r.free.world = r.world := by
  simp only [FreeRun.world, FreeRun.start, Run.free, World.follow, List.foldl_map]
  rfl

end OutcomeRelay
