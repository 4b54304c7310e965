import OutcomeRelay.Proofs.SessionsInUse

set_option autoImplicit false

namespace OutcomeRelay

namespace World

def idle (w : World) : Multiset SessionId :=
  (w.services.map fun service => sessionsOf service.pool.idle).sum

def inUse (w : World) : Multiset SessionId :=
  (w.tasks.map fun task => task.activity.inUse task.answer).sum

def opens (w : World) : Event → Multiset (Nat × SessionId)
  | .effect i =>
    match w.tasks[i]? with
    | none => 0
    | some task =>
      match task.answer, w.callEffect task with
      | none, some (.opened session, _) => {(task.service, session)}
      | _, _ => 0
  | _ => 0

def closes (w : World) : Event → Multiset SessionId
  | .effect i =>
    match w.tasks[i]? with
    | none => 0
    | some task =>
      match task.answer, w.demand task with
      | none, .answer session _ .close _ => {session}
      | _, _ => 0
  | _ => 0

/-- The sessions that nobody has any more when a call panics. -/
def strands (w : World) : Event → Multiset SessionId
  | .crash i _ =>
    match w.tasks[i]? with
    | none => 0
    | some task => if (w.demand task).isCall then task.activity.inUse task.answer else 0
  | _ => 0

def givesUp (w : World) : Event → Multiset Nat
  | .expire i =>
    match w.tasks[i]? with
    | none => 0
    | some task => if (w.demand task).mustBeMet then {i} else 0
  | _ => 0

/-- What is written down about the events, each in the world in which it happens. -/
def gather {α : Type} (f : World → Event → Multiset α) (w : World) : List Event → Multiset α
  | [] => 0
  | event :: events => f w event + (w.apply event).gather f events

theorem gather_append {α : Type} (f : World → Event → Multiset α) (w : World)
    (before after : List Event) :
    w.gather f (before ++ after) = w.gather f before + (w.run before).gather f after := by
  induction before generalizing w with
  | nil => exact (zero_add _).symm
  | cons event before ih =>
    simp only [List.cons_append, gather, ih, add_assoc]
    rfl

/-- Nobody has a handle or a session but the pools and the tasks that publish or close a pool. -/
structure Devoted (w : World) : Prop where
  handles : w.handles = []
  sessions : w.sessions = []
  serves : ∀ task ∈ w.tasks,
    task.activity.serves = true ∨ ∃ text, task.activity = .ended (.crashed text)

namespace Devoted

variable {w : World} {i : Nat} {task : Task}

theorem withTasks (h : w.Devoted) (new : Task)
    (hn : new.activity.serves = true ∨ ∃ text, new.activity = .ended (.crashed text))
    {next : World} (handles : next.handles = w.handles) (sessions : next.sessions = w.sessions)
    (tasks : ∀ task ∈ next.tasks, task ∈ w.tasks ∨ task = new) : next.Devoted where
  handles := handles.trans h.handles
  sessions := sessions.trans h.sessions
  serves task ht := by
    rcases tasks task ht with old | rfl
    · exact h.serves task old
    · exact hn

theorem started (h : w.Devoted) (k : Nat) {job : Job} {cancelled : Bool}
    (hj : (Event.start k job cancelled).isPublishing = true) :
    (w.start k job cancelled).Devoted := by
  have added (base : World) {new : Task} (handles : base.handles = w.handles)
      (sessions : base.sessions = w.sessions) (tasks : base.tasks = w.tasks)
      (hn : new.activity.serves = true) : (base.addTask new).Devoted := by
    refine h.withTasks (base.moved new new.activity) (.inl hn) (by simpa) (by simpa) ?_
    intro task ht
    rw [addTask_tasks, tasks] at ht
    simpa using ht
  unfold World.start
  cases w.services[k]? with
  | none => exact h
  | some s =>
    cases job with
    | publish after topic payload =>
      refine added w rfl rfl rfl ?_
      simp only [Activity.begin]
      split <;> rfl
    | report message stamp =>
      dsimp only
      split <;> exact added w rfl rfl rfl rfl
    | shutdown => exact added (w.setPool k s.pool.drain.2) rfl rfl rfl rfl
    | _ => simp [Event.isPublishing] at hj

theorem told (h : w.Devoted) (regular : w.Regular) (ht : w.tasks[i]? = some task) {s : Signal}
    (ends : (w.demand task).EndsWith s) : task.activity.serves = true := by
  refine (h.serves task (List.mem_of_getElem? ht)).resolve_right ?_
  rintro ⟨text, crashed⟩
  obtain ⟨service, hs⟩ := regular.service ht
  have rests : w.demand task = .rest := by simp [demand, hs, crashed, Activity.demand]
  rw [rests] at ends
  cases ends

theorem apply (h : w.Devoted) (regular : w.Regular) {event : Event}
    (he : event.isPublishing = true ∨ event.isCrash = true) : (w.apply event).Devoted := by
  cases hi : eventTask? event with
  | some i =>
    rcases apply_touches hi with same | ⟨task, ht, touches⟩
    · exact same ▸ h
    · have among {new : Task} {next : World} (tasks : next.tasks = w.tasks.set i new) :
          ∀ other ∈ next.tasks, other ∈ w.tasks ∨ other = new :=
        fun _ ho => List.mem_or_eq_of_mem_set (tasks ▸ ho)
      generalize w.apply event = next at touches
      cases touches with
      | @told s heard =>
        obtain ⟨note, told⟩ := told_of_hears i heard
        have ends := told.ends (regular.answers task (List.mem_of_getElem? ht))
        obtain ⟨service, hs⟩ := regular.service ht
        obtain ⟨serves, lent⟩ := Activity.resume_serves service task.cancelled
          (h.told regular ht ends) s
        refine h.withTasks _ (.inl serves) ?_ (signal_sessions hs) (among (signal_tasks hs))
        rw [signal_handles hs, move, lent]
      | flagged new cluster same cancelled answer unheard calm =>
        have activity := congrArg Prod.snd same
        refine h.withTasks new ?_ rfl rfl (among rfl)
        rw [show new.activity = task.activity from activity]
        exact h.serves task (List.mem_of_getElem? ht)
      | crashed hd panics => exact h.withTasks _ (.inr ⟨_, rfl⟩) rfl rfl (among rfl)
  | none =>
    simp only [World.apply, hi]
    cases event with
    | start k job cancelled => exact h.started k (by simpa [Event.isCrash] using he)
    | tick | toggleOffline | refuse | inject => exact ⟨h.handles, h.sessions, h.serves⟩
    | forget | markFatal | openSession | request =>
      simp [Event.isPublishing, Event.isCrash] at he
    | _ => simp [eventTask?] at hi

end Devoted

variable {w next : World} {i : Nat} {task : Task}

/-- How an event bears on sessions: which one is opened for which pool, which one is asked to close
and which ones are left behind. -/
inductive Turnover (w : World) :
    Multiset (Nat × SessionId) → Multiset SessionId → Multiset SessionId → World → Prop
  | still {next : World} (services : next.services = w.services)
      (sessions : next.cluster.sessions = w.cluster.sessions)
      (tasks : next.tasks.map (fun t => (t.service, t.activity, t.activity.inUse t.answer)) =
        w.tasks.map fun t => (t.service, t.activity, t.activity.inUse t.answer)) :
      Turnover w 0 0 0 next
  | begun {next : World} {new : Task} (services : next.services = w.services)
      (sessions : next.cluster.sessions = w.cluster.sessions)
      (tasks : next.tasks = w.tasks ++ [new]) (handles : new.activity.handles = [])
      (unused : new.activity.inUse new.answer = 0) : Turnover w 0 0 0 next
  | shut {k count : Nat} {s : Service} {next : World} {new : Task}
      (hs : w.services[k]? = some s)
      (services : next.services = (w.setPool k s.pool.drain.2).services)
      (sessions : next.cluster.sessions = w.cluster.sessions)
      (tasks : next.tasks = w.tasks ++ [new])
      (drains : (new.service, new.activity, new.answer) =
        (k, .draining s.pool.drain.1 count, none)) :
      Turnover w 0 0 0 next
  | told {i : Nat} {task : Task} {service : Service} {signal : Signal}
      (ht : w.tasks[i]? = some task) (hs : w.service? task = some service)
      (serving : task.activity.serves = true) (ends : (w.demand task).EndsWith signal)
      (news : signal.IsNews task.answer)
      (met : (w.demand task).mustBeMet = true → signal ≠ .silence) :
      Turnover w 0 0 0 (w.signal i task signal)
  | opened {i : Nat} {task : Task} {id : String} {limit : Span} (ht : w.tasks[i]? = some task)
      (hd : w.demand task = .connection id limit) (ha : task.answer = none) :
      Turnover w {(task.service, w.cluster.sessions.length)} 0 0
        ((w.putCluster (w.cluster.join id)).setTask i
          { task with answer := some (.opened w.cluster.sessions.length) })
  | asked {i : Nat} {task : Task} {session : SessionId} {id : String} {request : Request}
      {limit : Option Span} (ht : w.tasks[i]? = some task)
      (hd : w.demand task = .answer session id request limit) (ha : task.answer = none) :
      Turnover w 0 (if request = .close then {session} else 0) 0
        ((w.putCluster (w.cluster.perform session request).2).setTask i
          { task with answer := some (.answered (w.cluster.perform session request).1) })
  | crashed {i : Nat} {task : Task} (ht : w.tasks[i]? = some task) (text : String) :
      Turnover w 0 0 (task.activity.inUse task.answer)
        (w.setTask i (w.moved task (.ended (.crashed text))))

theorem Turnover.flagged (ht : w.tasks[i]? = some task) (new : Task)
    (same : (new.service, new.activity, new.activity.inUse new.answer) =
      (task.service, task.activity, task.activity.inUse task.answer)) (cluster : Cluster)
    (sessions : cluster.sessions = w.cluster.sessions) :
    w.Turnover 0 0 0 ((w.putCluster cluster).setTask i new) := by
  refine .still rfl sessions ?_
  have tasks := congrArg
    (List.map fun t => (t.service, t.activity, t.activity.inUse t.answer)) (set_getElem?_self ht)
  rw [List.map_set, ← same, ← List.map_set] at tasks
  exact tasks

theorem Turnover.refl (w : World) : w.Turnover 0 0 0 w := .still rfl rfl rfl

theorem effect_turns (ht : w.tasks[i]? = some task) :
    w.Turnover (w.opens (.effect i)) (w.closes (.effect i)) 0
      (w.applyTask i task (.effect i)) := by
  cases ha : task.answer with
  | some answer =>
    simpa [opens, closes, ht, ha, applyTask] using Turnover.refl w
  | none =>
    have effect := w.callEffect_cases task
    simp only [opens, closes, ht, ha, applyTask, Option.isSome_none]
    generalize w.callEffect task = given at effect
    cases effect with
    | refused hd refusals error =>
      rw [hd]
      exact .flagged ht { task with answer := some (.answered (.error error)) }
        (by simp [inUse_of_connection hd, Attempt.inUse, ha]) _ rfl
    | opened hd =>
      rw [hd]
      exact .opened ht hd ha
    | @answered session id request limit hd =>
      rw [hd]
      have asked := Turnover.asked ht hd ha
      cases request <;> exact asked
    | nothing hd =>
      cases called : w.demand task with
      | connection | answer => simp [called, Demand.isCall] at hd
      | pause | turn | rest => exact .refl w

def Loud (w : World) : Prop := ∀ task ∈ w.tasks, task.answer ≠ some .silence

theorem Loud.withTask (h : w.Loud) (new : Task) (loud : new.answer ≠ some .silence)
    (tasks : ∀ task ∈ next.tasks, task ∈ w.tasks ∨ task = new) : next.Loud := by
  intro task ht
  rcases tasks task ht with old | rfl
  · exact h task old
  · exact loud

theorem Loud.step (h : w.Loud) {note : Option Note} (hstep : w.Step note next) : next.Loud := by
  cases hstep with
  | same | tick | adjusted | forgot | spoiled | joined | requested => exact h
  | @begun base task note hb =>
    refine h.withTask (base.moved task task.activity) (by simp) fun other ho => ?_
    rw [addTask_tasks, hb.tasks] at ho
    simpa using ho
  | @told i task service signal note ht hs told =>
    refine h.withTask (w.moved task (move service task signal).activity) (by simp)
      fun other ho => ?_
    rw [signal_tasks hs] at ho
    exact List.mem_or_eq_of_mem_set ho
  | opened | refused | answered =>
    exact h.withTask _ (by simp) fun other ho => List.mem_or_eq_of_mem_set ho
  | crashed => exact h.withTask _ (by simp) fun other ho => List.mem_or_eq_of_mem_set ho
  | @flagged i task ht =>
    exact h.withTask { task with cancelled := true } (h task (List.mem_of_getElem? ht))
      fun other ho => List.mem_or_eq_of_mem_set ho

theorem start_turns (w : World) (k : Nat) {job : Job} {cancelled : Bool}
    (hj : (Event.start k job cancelled).isPublishing = true) :
    w.Turnover 0 0 0 (w.start k job cancelled) := by
  have added {new : Task} (handles : new.activity.handles = [])
      (unused : new.activity.inUse none = 0) : w.Turnover 0 0 0 (w.addTask new) :=
    .begun (addTask_services _ _) (by simp) (addTask_tasks _ _) handles unused
  unfold World.start
  cases hs : w.services[k]? with
  | none => exact .refl w
  | some s =>
    cases job with
    | publish after topic payload =>
      refine added ?_ ?_ <;> simp only [Activity.begin] <;> split <;> rfl
    | report message stamp =>
      dsimp only
      split <;> exact added rfl rfl
    | shutdown =>
      exact .shut hs (addTask_services _ _) (by simp) (addTask_tasks _ _) rfl
    | _ => simp [Event.isPublishing] at hj

/-- Whatever publishes and panics do, sessions are turned over in one of these ways. -/
theorem apply_turns (devoted : w.Devoted) (regular : w.Regular) (loud : w.Loud) {event : Event}
    (he : event.isPublishing = true ∨ event.isCrash = true) (met : w.givesUp event = 0) :
    w.Turnover (w.opens event) (w.closes event) (w.strands event) (w.apply event) := by
  have hears {i : Nat} {task : Task} {s : Signal} (ht : w.tasks[i]? = some task)
      (heard : task.hears? (w.demand task) event = some s)
      (met : (w.demand task).mustBeMet = true → s ≠ .silence) :
      w.Turnover 0 0 0 (w.signal i task s) := by
    obtain ⟨service, hs⟩ := regular.service ht
    obtain ⟨note, told⟩ := told_of_hears i heard
    have ends := told.ends (regular.answers task (List.mem_of_getElem? ht))
    exact .told ht hs (devoted.told regular ht ends) ends told.isNews met
  have calm {i : Nat} (hi : eventTask? event = some i)
      (told : ∀ task, w.tasks[i]? = some task → w.Turnover 0 0 0 (w.applyTask i task event)) :
      w.Turnover 0 0 0 (w.apply event) := by
    simp only [World.apply, hi]
    cases ht : w.tasks[i]? with
    | none => exact .refl w
    | some task => exact told task ht
  cases event with
  | effect i =>
    cases ht : w.tasks[i]? with
    | none => simpa [World.apply, eventTask?, opens, closes, strands, ht] using Turnover.refl w
    | some task =>
      simp only [World.apply, eventTask?, ht]
      exact effect_turns ht
  | proceed i =>
    refine calm rfl fun task ht => ?_
    simp only [applyTask]
    split
    · exact hears ht (if_pos ‹_›) (by simp)
    · exact .refl w
  | deliver i =>
    refine calm rfl fun task ht => ?_
    simp only [applyTask]
    split
    · exact .refl w
    · rename_i answer ha
      refine hears ht ha fun _ silent => ?_
      exact loud task (List.mem_of_getElem? ht) (silent ▸ ha)
  | expire i =>
    refine calm rfl fun task ht => ?_
    simp only [applyTask]
    split
    · refine hears ht (if_pos ‹_›) fun must => ?_
      simp [givesUp, ht, must] at met
    · exact .refl w
  | wake i =>
    refine calm rfl fun task ht => ?_
    cases hd : w.demand task with
    | pause length cancellable =>
      have told : w.applyTask i task (.wake i) = w.signal i task .resumed := by
        simp [applyTask, hd]
      rw [told]
      exact hears ht (by simp [Task.hears?, hd]) (by simp)
    | connection | answer | turn | rest => simpa [applyTask, hd] using Turnover.refl w
  | crash i text =>
    cases ht : w.tasks[i]? with
    | none => simpa [World.apply, eventTask?, opens, closes, strands, ht] using Turnover.refl w
    | some task =>
      simp only [World.apply, eventTask?, ht, applyTask, opens, closes, strands]
      split
      · exact .crashed ht text
      · exact .refl w
  | cancel i =>
    exact calm rfl fun task ht => .flagged ht { task with cancelled := true } rfl w.cluster rfl
  | start k job cancelled => exact w.start_turns k (by simpa [Event.isCrash] using he)
  | tick | toggleOffline | refuse | inject => exact .still rfl rfl rfl
  | forget | markFatal | openSession | request => simp [Event.isPublishing, Event.isCrash] at he

end World

end OutcomeRelay
