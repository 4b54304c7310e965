import OutcomeRelay.Proofs.Calls
import OutcomeRelay.Proofs.OpenSessions

set_option autoImplicit false

namespace OutcomeRelay

def Purpose.refusal : Purpose → Outcome
  | publish _ _ => .published (.error (.pool .closed))
  | lend _ => .lent (.error .closed)

def Job.purpose? (service : Service) : Job → Option Purpose
  | borrow slot => some (.lend slot)
  | job => (job.record? service).map fun record => .publish record.1 record.2

namespace Activity

variable {service : Service} {purpose : Purpose} {activity : Activity}

theorem borrow_closed (closed : service.pool.isClosed = true) (cancelled : Bool)
    (purpose : Purpose) :
    borrow service cancelled purpose =
      { activity := ended purpose.refusal, pool := service.pool } := by
  have found : service.pool.lookup service.options.baseId = (.closed, service.pool) := by
    simp [Pool.lookup, closed]
  rw [borrow, found]
  cases purpose <;> rfl

theorem resume_empty (closed : service.pool.isClosed = true) (empty : service.pool.idle = [])
    (cancelled : Bool) (activity : Activity) (signal : Signal) :
    (activity.resume service cancelled signal).pool.idle = [] := by
  cases activity with
  | borrowing purpose =>
    simp only [resume, borrow_closed closed]
    exact empty
  | creating purpose id creation =>
    simp only [resume]
    cases creation.resume _ _ _ signal with
    | ongoing creation => exact empty
    | made session =>
      simp only [afterCreation, serve_pool]
      exact empty
    | failed error => cases purpose <;> exact empty
  | transacting t =>
    simp only [resume, afterTransaction]
    split <;> exact empty
  | returning handle outcome =>
    by_cases reusable : handle.status.isReusable = true <;>
      simpa [resume, giveBack, Pool.giveBack, reusable, closed] using empty
  | retiring handle discarded outcome => cases discarded <;> exact empty
  | draining handles count => cases handles <;> exact empty
  | making slot id attempt =>
    simp only [resume]
    cases attempt.resume _ signal <;> exact empty
  | waiting | operating | ended => exact empty

def Seeks (purpose : Purpose) : Activity → Prop
  | waiting _ own => own = purpose
  | borrowing own => own = purpose
  | _ => False

theorem Seeks.resume (h : activity.Seeks purpose) (closed : service.pool.isClosed = true)
    (cancelled : Bool) (signal : Signal) :
    ∃ next, activity.resume service cancelled signal = { activity := next, pool := service.pool } ∧
      (next.Seeks purpose ∨ next = ended purpose.refusal) := by
  cases activity with
  | waiting millis own => exact ⟨_, rfl, .inl h⟩
  | borrowing own =>
    obtain rfl : own = purpose := h
    exact ⟨_, borrow_closed closed cancelled own, .inr rfl⟩
  | _ => exact h.elim

theorem Seeks.demand (h : activity.Seeks purpose) (service : Service) :
    (activity.demand service).isCall = false := by
  cases activity with
  | waiting | borrowing => rfl
  | _ => exact h.elim

def Outside : Activity → Prop
  | waiting _ _ => True
  | borrowing _ => True
  | draining _ _ => True
  | ended _ => True
  | _ => False

theorem Outside.resume (h : activity.Outside) (closed : service.pool.isClosed = true)
    (cancelled : Bool) (signal : Signal) :
    (activity.resume service cancelled signal).activity.Outside := by
  cases activity with
  | waiting | ended => exact h
  | borrowing purpose =>
    simp only [Activity.resume, borrow_closed closed]
    trivial
  | draining handles count => cases handles <;> trivial
  | _ => exact h.elim

end Activity

namespace World

variable {w next : World} {i k : Nat} {task : Task} {service : Service}

def Emptied (w : World) : Prop :=
  ∀ service ∈ w.services, service.pool.isClosed = true → service.pool.idle = []

structure Keeps (old new : Pool) : Prop where
  closed : old.isClosed = true → new.isClosed = true
  empty : (old.isClosed = true → old.idle = []) → new.isClosed = true → new.idle = []

theorem Keeps.refl (pool : Pool) : Keeps pool pool := ⟨id, id⟩

theorem Begins.keeps {base : World} {activity : Activity} {note : Option Note}
    (hb : w.Begins base activity note) {later : Service} (hl : base.services[k]? = some later) :
    ∃ service, w.services[k]? = some service ∧ Keeps service.pool later.pool := by
  cases hb with
  | shutdown hs =>
    rcases setPool_services_cases hl with ⟨rfl, old, ho, rfl⟩ | ⟨-, ho⟩
    · exact ⟨old, ho, fun _ => rfl, fun _ _ => rfl⟩
    · exact ⟨later, ho, .refl _⟩
  | createNext hs slot ids id =>
    rcases setPool_services_cases hl with ⟨rfl, old, ho, rfl⟩ | ⟨-, ho⟩
    · obtain rfl := Option.some.inj (hs.symm.trans ho)
      exact ⟨_, ho, fun closed => closed, fun empty => empty⟩
    · exact ⟨later, ho, .refl _⟩
  | publish | reject | borrow | release | operate | create => exact ⟨later, hl, .refl _⟩

theorem told_keeps (service : Service) {signal : Signal} (news : signal.IsNews task.answer) :
    Keeps service.pool (move service task signal).pool := by
  have moves : task.activity.Moves service task.answer (move service task signal) :=
    task.activity.resume_moves service task.cancelled news
  refine ⟨moves.isClosed_eq.trans, fun empty closed => ?_⟩
  have already := moves.isClosed_eq.symm.trans closed
  exact Activity.resume_empty already (empty already) task.cancelled task.activity signal

theorem FreeStep.keeps (hstep : w.FreeStep next) {later : Service}
    (hl : next.services[k]? = some later) :
    ∃ service, w.services[k]? = some service ∧ Keeps service.pool later.pool := by
  have same (hs : w.services[k]? = some later) :
      ∃ service, w.services[k]? = some service ∧ Keeps service.pool later.pool :=
    ⟨later, hs, .refl _⟩
  cases hstep with
  | replied ht hd ha reply => exact same hl
  | step h =>
    cases h with
    | begun hb =>
      rw [addTask_services] at hl
      exact hb.keeps hl
    | @told index task service signal note ht hs told =>
      rcases signal_services_cases hs hl with ⟨rfl, rfl⟩ | ⟨-, ho⟩
      · exact ⟨service, hs, told_keeps service told.isNews⟩
      · exact same ho
    | same | tick | opened | refused | answered | crashed | flagged | adjusted | forgot | spoiled
    | joined | requested => exact same hl

theorem Emptied.step (h : w.Emptied) (hstep : w.FreeStep next) : next.Emptied := by
  intro later hl
  obtain ⟨k, hk⟩ := List.mem_iff_getElem?.mp hl
  obtain ⟨service, hs, keeps⟩ := hstep.keeps hk
  exact keeps.empty (h service (List.mem_of_getElem? hs))

def IsClosed (w : World) (k : Nat) : Prop :=
  ∃ service, w.services[k]? = some service ∧ service.pool.isClosed = true

theorem IsClosed.step (h : w.IsClosed k) (hstep : w.FreeStep next) : next.IsClosed k := by
  obtain ⟨service, hs, closed⟩ := h
  obtain ⟨pool, hl⟩ := hstep.service hs
  obtain ⟨old, ho, keeps⟩ := hstep.keeps hl
  obtain rfl := Option.some.inj (hs.symm.trans ho)
  exact ⟨_, hl, keeps.closed closed⟩

theorem outcome?_undergo (regular : w.Regular) {outcome : Outcome}
    (h : w.outcome? i = some outcome) (o : Occurrence) :
    (w.undergo o).outcome? i = some outcome := by
  obtain ⟨task, ht, he⟩ := outcome?_eq_some.mp h
  refine outcome?_eq_some.mpr
    (regular.undergo_activity (P := (· = .ended outcome)) ht he o ?_ ?_)
  · intro service signal _
    rw [he]
    rfl
  · intro index text panics called
    simp [demand_of_ended he, Demand.isCall] at called

def Seeks (w : World) (k i : Nat) (purpose : Purpose) : Prop :=
  ∃ task, w.tasks[i]? = some task ∧ task.service = k ∧ task.activity.Seeks purpose

/-- No pool, no number for an id, no session and no record is touched, and no call is made. -/
structure Untouched (w next : World) : Prop where
  services : next.services = w.services
  cluster : next.cluster = w.cluster
  journal : next.journal = w.journal

theorem Untouched.rfl (w : World) : w.Untouched w := ⟨Eq.refl _, Eq.refl _, Eq.refl _⟩

theorem demand_isCall {activity : Activity} (w : World) (task : Task)
    (same : task.activity = activity) (h : ∀ service, (activity.demand service).isCall = false) :
    (w.demand task).isCall = false := by
  unfold demand
  split
  · rfl
  · exact same ▸ h _

theorem entry_of_isCall {w : World} {task : Task} (h : (w.demand task).isCall = false) (i : Nat) :
    w.entry? i task = none := by
  unfold entry?
  split <;> simp_all [Demand.isCall]

theorem callEffect_of_isCall {w : World} {task : Task} (h : (w.demand task).isCall = false) :
    w.callEffect task = none := by
  have effect := w.callEffect_cases task
  generalize w.callEffect task = given at effect
  cases effect with
  | nothing hd => rfl
  | refused hd | opened hd | answered hd => simp [hd, Demand.isCall] at h

theorem seeks_untouched {purpose : Purpose} (seeks : w.Seeks k i purpose) (shut : w.IsClosed k)
    {event : Event} (he : eventTask? event = some i) : w.Untouched (w.apply event) := by
  obtain ⟨service, hs, closed⟩ := shut
  obtain ⟨task, ht, rfl, seeking⟩ := seeks
  have idle : (w.demand task).isCall = false := w.demand_isCall task rfl seeking.demand
  have told (signal : Signal) : w.Untouched (w.signal i task signal) := by
    obtain ⟨activity, resumed, becomes⟩ := seeking.resume closed task.cancelled signal
    have moved :
        move service task signal = { activity := activity, pool := service.pool } := resumed
    have silent : ((w.signal i task signal).demand (w.moved task activity)).isCall = false := by
      refine demand_isCall _ _ rfl fun service => ?_
      rcases becomes with again | rfl
      · exact again.demand service
      · rfl
    refine ⟨?_, signal_cluster hs, ?_⟩
    · rw [signal_services hs, moved, modify_eq_set _ hs]
      obtain ⟨hk, rfl⟩ := List.getElem?_eq_some_iff.mp hs
      exact List.set_getElem_self hk
    · rw [signal_journal ht hs, moved, entry_of_isCall silent]
      rfl
  have applied : w.apply event = w.applyTask i task event := by simp [apply, he, ht]
  rw [applied]
  cases event with
  | proceed j =>
    simp only [applyTask]
    split
    · exact told _
    · exact .rfl w
  | effect j =>
    simp only [applyTask, callEffect_of_isCall idle]
    split <;> exact .rfl w
  | deliver j =>
    simp only [applyTask]
    split
    · exact .rfl w
    · exact told _
  | expire j =>
    simp only [applyTask]
    split
    · exact told _
    · exact .rfl w
  | wake j =>
    simp only [applyTask]
    split
    · exact told _
    · exact .rfl w
  | crash j text => simpa [applyTask, idle] using Untouched.rfl w
  | cancel => exact ⟨rfl, rfl, rfl⟩
  | _ => simp [eventTask?] at he

/-- Whoever is to borrow from a closed pool is still to do so, or is turned away. -/
theorem seeks_undergo {purpose : Purpose} (regular : w.Regular) (shut : w.IsClosed k)
    (h : w.Seeks k i purpose ∨ w.outcome? i = some purpose.refusal) (o : Occurrence) :
    (w.undergo o).Seeks k i purpose ∨ (w.undergo o).outcome? i = some purpose.refusal := by
  obtain ⟨service, hs, closed⟩ := shut
  rcases h with ⟨task, ht, rfl, seeking⟩ | returned
  · obtain ⟨new, hn, becomes⟩ := undergo_task regular ht o
    generalize w.hears? o i = heard at becomes
    cases becomes with
    | waits activity service cancelled answer =>
      exact .inl ⟨new, hn, service, activity ▸ seeking⟩
    | told hs' ends =>
      obtain rfl := Option.some.inj (hs.symm.trans hs')
      obtain ⟨next, resumed, again | rfl⟩ := seeking.resume closed task.cancelled _
      · refine .inl ⟨_, hn, rfl, ?_⟩
        rw [moved_activity, move, resumed]
        exact again
      · refine .inr ?_
        simp only [outcome?, hn, Option.bind_some, moved_activity, move, resumed]
        rfl
    | crashed hd => simp [w.demand_isCall task rfl seeking.demand] at hd
  · exact .inr (outcome?_undergo regular returned o)

theorem start_seeks (w : World) (hs : w.services[k]? = some service) {job : Job}
    {purpose : Purpose} (hj : job.purpose? service = some purpose) (cancelled : Bool) :
    (w.start k job cancelled).Seeks k w.tasks.length purpose ∧
      w.Untouched (w.start k job cancelled) := by
  have added {new : Task} (own : new.service = k) (seeking : new.activity.Seeks purpose) :
      (w.addTask new).Seeks k w.tasks.length purpose ∧ w.Untouched (w.addTask new) := by
    refine ⟨⟨w.moved new new.activity, by simp, own, seeking⟩, addTask_services _ _,
      addTask_cluster _ _, ?_⟩
    have silent : ((w.addTask new).demand (w.moved new new.activity)).isCall = false :=
      demand_isCall _ _ rfl seeking.demand
    rw [addTask_journal, entry_of_isCall silent]
    rfl
  cases job with
  | publish after topic payload =>
    obtain rfl : Purpose.publish topic payload = purpose := by
      simpa [Job.purpose?, Job.record?] using hj
    simp only [start, hs]
    refine added rfl ?_
    simp only [Activity.begin]
    split <;> rfl
  | report message stamp =>
    cases hr : message.record? service.topic stamp with
    | error error => simp [Job.purpose?, Job.record?, hr] at hj
    | ok record =>
      obtain rfl : Purpose.publish record.topic record.payload = purpose := by
        simpa [Job.purpose?, Job.record?, hr] using hj
      simp only [start, hs, hr]
      exact added rfl rfl
  | borrow slot =>
    obtain rfl : Purpose.lend slot = purpose := by simpa [Job.purpose?] using hj
    simp only [start, hs]
    exact added rfl rfl
  | _ => simp [Job.purpose?, Job.record?] at hj

theorem hears?_of_event {task : Task} (ht : w.tasks[i]? = some task) {event : Event}
    (he : eventTask? event = some i) :
    w.hears? (.event event) i = task.hears? (w.demand task) event := by
  simp [hears?, he, ht]

theorem seeks_returns {purpose : Purpose} (regular : w.Regular) (shut : w.IsClosed k)
    (h : w.Seeks k i purpose) :
    ((w.apply (.wake i)).apply (.proceed i)).outcome? i = some purpose.refusal := by
  have borrows {w : World} (regular : w.Regular) (shut : w.IsClosed k) {task : Task}
      (ht : w.tasks[i]? = some task) (own : task.service = k)
      (ha : task.activity = .borrowing purpose) :
      (w.apply (.proceed i)).outcome? i = some purpose.refusal := by
    obtain ⟨service, hs, closed⟩ := shut
    have hs' : w.service? task = some service := by rw [service?, own, hs]
    have turn : w.demand task = .turn := by simp [demand, hs', ha, Activity.demand]
    obtain ⟨new, hn, becomes⟩ := undergo_task regular ht (.event (.proceed i))
    rw [hears?_of_event ht rfl] at becomes
    simp only [Task.hears?, turn, if_true] at becomes
    cases becomes with
    | told hs'' ends =>
      obtain rfl := Option.some.inj (hs'.symm.trans hs'')
      refine outcome?_eq_some.mpr ⟨_, hn, ?_⟩
      simp only [moved_activity, move, ha, Activity.resume, Activity.borrow_closed closed]
  obtain ⟨service, hs, -⟩ := id shut
  obtain ⟨task, ht, own, seeking⟩ := h
  have hs' : w.service? task = some service := by rw [service?, own, hs]
  have shut' : (w.undergo (.event (.wake i))).IsClosed k := shut.step (w.undergo_step _)
  obtain ⟨new, hn, becomes⟩ := undergo_task regular ht (.event (.wake i))
  refine borrows (regular.undergo (.event (.wake i))) shut' hn (becomes.service_eq.trans own) ?_
  rw [hears?_of_event ht rfl] at becomes
  cases ha : task.activity with
  | waiting millis before =>
    obtain rfl : before = purpose := by simpa [ha, Activity.Seeks] using seeking
    have pause : w.demand task = .pause (.ofMillis millis) false := by
      simp [demand, hs', ha, Activity.demand]
    simp only [Task.hears?, pause] at becomes
    cases becomes with
    | told hs'' ends => simp only [moved_activity, move, ha, Activity.resume]
  | borrowing before =>
    obtain rfl : before = purpose := by simpa [ha, Activity.Seeks] using seeking
    have turn : w.demand task = .turn := by simp [demand, hs', ha, Activity.demand]
    simp only [Task.hears?, turn] at becomes
    cases becomes with
    | waits activity => exact activity.trans ha
    | crashed hd text panics => simp at panics
  | _ => simp [ha, Activity.Seeks] at seeking

/-- Whoever is to borrow from the pool is turned away, and nothing else comes of it. -/
structure TurnsAway (w : World) (k : Nat) : Prop where
  starts : ∀ (service : Service) (job : Job) (purpose : Purpose) (cancelled : Bool),
    w.services[k]? = some service → job.purpose? service = some purpose →
      (w.start k job cancelled).Seeks k w.tasks.length purpose ∧
        w.Untouched (w.start k job cancelled)
  untouched : ∀ (i : Nat) (purpose : Purpose) (event : Event), w.Seeks k i purpose →
    eventTask? event = some i → w.Untouched (w.apply event)
  returns : ∀ (i : Nat) (purpose : Purpose), w.Seeks k i purpose →
    ((w.apply (.wake i)).apply (.proceed i)).outcome? i = some purpose.refusal

theorem IsClosed.turnsAway (shut : w.IsClosed k) (regular : w.Regular) : w.TurnsAway k where
  starts _ _ _ cancelled hs hj := w.start_seeks hs hj cancelled
  untouched _ _ _ seeks he := seeks_untouched seeks shut he
  returns _ _ seeks := seeks_returns regular shut seeks

theorem outside_undergo (regular : w.Regular) (shut : w.IsClosed k) {n : Nat}
    (h : ∀ (i : Nat) (task : Task), n ≤ i → w.tasks[i]? = some task → task.service = k →
      task.activity.Outside) {o : Occurrence}
    (serves : ∀ task ∈ (w.undergo o).tasks, task.activity.serves = true) {new : Task} (late : n ≤ i)
    (hn : (w.undergo o).tasks[i]? = some new) (own : new.service = k) : new.activity.Outside := by
  rcases undergo_origin regular o hn with ⟨task, ht, becomes⟩ | ⟨-, -, -, base, note, begins⟩
  · have before := h i _ late ht (becomes.service_eq.symm.trans own)
    have same := becomes.service_eq
    generalize w.hears? o i = heard at becomes
    cases becomes with
    | waits activity => exact activity ▸ before
    | told hs ends =>
      obtain ⟨service, hk, closed⟩ := shut
      have hk' : w.service? task = some service := by
        rw [service?, ← same, own, hk]
      obtain rfl := Option.some.inj (hs.symm.trans hk')
      exact before.resume closed _ _
    | crashed => trivial
  · have serving := serves new (List.mem_of_getElem? hn)
    generalize new.activity = activity at begins serving
    cases begins with
    | publish millis topic payload =>
      simp only [Activity.begin]
      split <;> trivial
    | reject | borrow | shutdown => trivial
    | release | operate | create | createNext =>
      simp [Activity.serves, Activity.isPublish, Outcome.isPublished] at serving

end World

namespace FreeRun

variable (r : FreeRun) {k : Nat}

theorem emptied : r.world.Emptied := by
  induction r using by_happenings with
  | idle r nothing =>
    intro service hs _
    exact r.fresh service (by simpa [world, nothing, start, World.follow, World.initial] using hs)
  | happening r o ih =>
    rw [extend_one]
    exact ih.step (r.world.undergo_step o)

theorem closed_extend (shut : r.world.IsClosed k) (later : List Occurrence) :
    (r.extend later).world.IsClosed k := by
  refine r.by_extension (P := fun r => r.world.IsClosed k) shut (fun r o h => ?_) later
  rw [extend_one]
  exact h.step (r.world.undergo_step o)

theorem seeks_extend (shut : r.world.IsClosed k) {i : Nat} {purpose : Purpose}
    (h : r.world.Seeks k i purpose) (later : List Occurrence) :
    (r.extend later).world.Seeks k i purpose ∨
      (r.extend later).world.outcome? i = some purpose.refusal := by
  have kept : (r.extend later).world.IsClosed k ∧ ((r.extend later).world.Seeks k i purpose ∨
      (r.extend later).world.outcome? i = some purpose.refusal) := by
    refine r.by_extension (P := fun r => r.world.IsClosed k ∧ (r.world.Seeks k i purpose ∨
      r.world.outcome? i = some purpose.refusal)) ⟨shut, .inl h⟩ ?_ later
    rintro r o ⟨shut, waits⟩
    rw [extend_one]
    exact ⟨shut.step (r.world.undergo_step o), World.seeks_undergo r.regular shut waits o⟩
  exact kept.2

end FreeRun

namespace World

variable {w : World} {opened : Multiset (Nat × SessionId)} {closed stranded : Multiset SessionId}

def stillOpen (w : World) (opened : Multiset (Nat × SessionId)) : Multiset (Nat × SessionId) :=
  opened.filter fun session => w.cluster.sessions[session.2]?.any (!·.closed) = true

namespace Settled

theorem openSessions_eq_card (h : w.Settled opened closed stranded) :
    w.cluster.openSessions = (w.stillOpen opened).card := by
  have parts : ((opened.map Prod.snd).filter fun s =>
      w.cluster.sessions[s]?.any (!·.closed) = true).card = (w.stillOpen opened).card := by
    rw [Multiset.filter_map, Multiset.card_map]
    rfl
  rw [← parts, h.numbered, ← Multiset.countP_eq_card_filter, Multiset.range, Multiset.coe_countP,
    Cluster.openSessions, ← countP_range]
  simp

theorem not_mem_stillOpen (h : w.Settled opened closed stranded) {k : Nat} {s : SessionId}
    (gone : s ∈ closed) : (k, s) ∉ w.stillOpen opened := by
  intro mem
  obtain ⟨session, hs, unclosed⟩ : ∃ session, w.cluster.sessions[s]? = some session ∧
      session.closed = false := by
    simpa [stillOpen, Option.any_eq_true] using (Multiset.mem_filter.mp mem).2
  simp [(h.flags s session hs).mpr gone] at unclosed

theorem pool_eq (h : w.Settled opened closed stranded) {j k : Nat} {s : SessionId}
    (hj : (j, s) ∈ opened) (hk : (k, s) ∈ opened) : j = k :=
  congrArg Prod.fst (Multiset.inj_on_of_nodup_map h.nodup (j, s) hj (k, s) hk rfl)

theorem exists_mem_of_mem_sum {s : SessionId} {parts : List (Multiset SessionId)}
    (h : s ∈ parts.sum) : ∃ part ∈ parts, s ∈ part := by
  induction parts with
  | nil => simp at h
  | cons part parts ih =>
    rw [List.sum_cons, Multiset.mem_add] at h
    rcases h with here | there
    · exact ⟨part, List.mem_cons_self, here⟩
    · obtain ⟨other, ho, mem⟩ := ih there
      exact ⟨other, List.mem_cons_of_mem _ ho, mem⟩

theorem whereabouts (h : w.Settled opened closed 0) {k : Nat} {service : Service}
    (hs : w.services[k]? = some service) (empty : service.pool.idle = []) {s : SessionId}
    (hk : (k, s) ∈ opened) :
    closed.count s = 1 ∨
      closed.count s = 0 ∧ ∃ task ∈ w.tasks, task.service = k ∧
        s ∈ task.activity.inUse task.answer := by
  have once : (w.idle + w.inUse + closed).count s = 1 := by
    have balance := h.balance
    rw [add_zero] at balance
    rw [balance]
    exact Multiset.count_eq_one_of_mem h.nodup (Multiset.mem_map_of_mem Prod.snd hk)
  have unused : w.idle.count s = 0 := by
    refine Multiset.count_eq_zero.mpr fun mem => ?_
    obtain ⟨part, hp, here⟩ := exists_mem_of_mem_sum mem
    obtain ⟨other, ho, rfl⟩ := List.mem_map.mp hp
    obtain ⟨g, hg, rfl⟩ := List.mem_map.mp (Multiset.mem_coe.mp here)
    obtain ⟨j, hj⟩ := List.mem_iff_getElem?.mp ho
    obtain rfl := h.pool_eq (h.pools j other hj g hg) hk
    obtain rfl := Option.some.inj (hs.symm.trans hj)
    simp [empty] at hg
  rw [Multiset.count_add, Multiset.count_add, unused, zero_add] at once
  rcases Nat.eq_zero_or_pos (closed.count s) with none_closed | some_closed
  · refine .inr ⟨none_closed, ?_⟩
    have used : s ∈ w.inUse := by
      rw [← Multiset.one_le_count_iff_mem]
      omega
    obtain ⟨part, hp, mem⟩ := exists_mem_of_mem_sum used
    obtain ⟨task, ht, rfl⟩ := List.mem_map.mp hp
    exact ⟨task, ht, h.pool_eq (h.tasks task ht s mem) hk, mem⟩
  · exact .inl (by omega)

end Settled

end World

def Activity.isDraining : Activity → Bool
  | draining _ _ => true
  | _ => false

namespace Run

variable (r : Run) {k : Nat}

def stillOpen : Multiset (Nat × SessionId) := r.world.stillOpen r.opened

theorem stranded_eq_zero (publishing : ∀ event ∈ r.events, event.isPublishing = true) :
    r.stranded = 0 := by
  have nothing (w : World) : w.gather World.strands r.events = 0 := by
    generalize r.events = events at publishing
    induction events generalizing w with
    | nil => rfl
    | cons event events ih =>
      have none_here : w.strands event = 0 := by
        cases event with
        | crash i text =>
          exact absurd (publishing _ List.mem_cons_self) (by simp [Event.isPublishing])
        | _ => rfl
      rw [World.gather, none_here, zero_add]
      exact ih _ fun other ho => publishing other (List.mem_cons_of_mem _ ho)
  exact nothing r.start

theorem shutdown_closes {service : Service} (hs : r.world.services[k]? = some service)
    (cancelled : Bool) : (r.extend [.start k .shutdown cancelled]).world.IsClosed k := by
  have started : (r.extend [.start k .shutdown cancelled]).world =
      r.world.start k .shutdown cancelled := by
    rw [extend_world]
    rfl
  rw [started]
  simp only [World.start, hs]
  refine ⟨{ service with pool := service.pool.drain.2 }, ?_, rfl⟩
  simp [World.setPool, hs]

theorem closed_extend (shut : r.world.IsClosed k) (later : List Event) :
    (r.extend later).world.IsClosed k := by
  rw [← free_world, free_extend]
  exact r.free.closed_extend (r.free_world ▸ shut) _

theorem seeks_extend (shut : r.world.IsClosed k) {i : Nat} {purpose : Purpose}
    (h : r.world.Seeks k i purpose) (later : List Event) :
    (r.extend later).world.Seeks k i purpose ∨
      (r.extend later).world.outcome? i = some purpose.refusal := by
  rw [← free_world, free_extend]
  rw [← free_world] at shut h
  exact r.free.seeks_extend shut h _

theorem outside_extend (shut : r.world.IsClosed k) (later : List Event)
    (publishing : ∀ event ∈ (r.extend later).events, event.isPublishing = true) (i : Nat)
    (task : Task) (late : r.world.tasks.length ≤ i)
    (ht : (r.extend later).world.tasks[i]? = some task) (own : task.service = k) :
    task.activity.Outside := by
  induction later using List.reverseRecOn generalizing i task with
  | nil =>
    rw [extend_world] at ht
    exact absurd (List.getElem?_eq_some_iff.mp ht).1 (not_lt.mpr late)
  | append_singleton later e ih =>
    have earlier : ∀ event ∈ (r.extend later).events, event.isPublishing = true :=
      fun event he => publishing event (by
        rcases List.mem_append.mp he with old | new
        · exact List.mem_append_left _ old
        · exact List.mem_append_right _ (List.mem_append_left _ new))
    have step : (r.extend (later ++ [e])).world =
        (r.extend later).world.undergo (.event e) := by
      rw [extend_world, World.run_append, ← extend_world]
      rfl
    have serves := ((r.extend (later ++ [e])).confined publishing).1.serves
    rw [step] at ht serves
    exact World.outside_undergo ((r.extend later).free_world ▸ (r.extend later).free.regular)
      (r.closed_extend shut later) (ih earlier) serves late ht own

/-- From when a pool is closed it has no idle producers, and whoever is to borrow from it is turned
away, whatever happens. As long as only publishes go on, no call panics, and connections and
closings are answered in time: when the publishes that there were at the closing have returned,
every session that was ever opened for the pool has been closed, and once, or is in the hands of
a task that closes the pool; and when no such task is left either, none of the sessions that are
still open is the pool's. -/
theorem shutdown_leaves_nothing (shut : r.world.IsClosed k) (later : List Event) :
    (∃ service, (r.extend later).world.services[k]? = some service ∧
      service.pool.isClosed = true ∧ service.pool.idle = []) ∧
    (r.extend later).world.TurnsAway k ∧
    (∀ (i : Nat) (purpose : Purpose) (after : List Event),
      (r.extend later).world.Seeks k i purpose →
      ((r.extend later).extend after).world.Seeks k i purpose ∨
        ((r.extend later).extend after).world.outcome? i = some purpose.refusal) ∧
    ((∀ event ∈ (r.extend later).events, event.isPublishing = true) →
      (r.extend later).givenUp = 0 →
      (∀ (i : Nat) (task : Task), i < r.world.tasks.length →
        (r.extend later).world.tasks[i]? = some task → task.service = k →
          task.activity.isPublish = false) →
      (r.extend later).world.cluster.openSessions = (r.extend later).stillOpen.card ∧
      (∀ s, (k, s) ∈ (r.extend later).opened →
        ((r.extend later).closed.count s = 1 ∧ (k, s) ∉ (r.extend later).stillOpen) ∨
        ((r.extend later).closed.count s = 0 ∧ ∃ task ∈ (r.extend later).world.tasks,
          task.service = k ∧ task.activity.isDraining = true ∧
            s ∈ task.activity.inUse task.answer)) ∧
      ((∀ task ∈ (r.extend later).world.tasks, task.service = k →
          task.activity.isDraining = false) →
        ∀ s, (k, s) ∈ (r.extend later).opened →
          (r.extend later).closed.count s = 1 ∧ (k, s) ∉ (r.extend later).stillOpen)) := by
  have regular := (r.extend later).free.regular
  have emptied := (r.extend later).free.emptied
  rw [free_world] at regular emptied
  have shut' := r.closed_extend shut later
  obtain ⟨service, hs, closed⟩ := id shut'
  have empty := emptied service (List.mem_of_getElem? hs) closed
  refine ⟨⟨service, hs, closed, empty⟩, shut'.turnsAway regular,
    fun i purpose after seeks => (r.extend later).seeks_extend shut' seeks after, ?_⟩
  intro publishing met returned
  have settled := (r.extend later).settled (fun event he => .inl (publishing event he)) met
  have unstranded := (r.extend later).stranded_eq_zero publishing
  rw [unstranded] at settled
  have accounted : ∀ s, (k, s) ∈ (r.extend later).opened →
      ((r.extend later).closed.count s = 1 ∧ (k, s) ∉ (r.extend later).stillOpen) ∨
      ((r.extend later).closed.count s = 0 ∧ ∃ task ∈ (r.extend later).world.tasks,
        task.service = k ∧ task.activity.isDraining = true ∧
          s ∈ task.activity.inUse task.answer) := by
    intro s hk
    rcases settled.whereabouts hs empty hk with once | ⟨unclosed, task, ht, own, mem⟩
    · refine .inl ⟨once, settled.not_mem_stillOpen ?_⟩
      rw [← Multiset.one_le_count_iff_mem, once]
    · refine .inr ⟨unclosed, task, ht, own, ?_, mem⟩
      obtain ⟨i, hi⟩ := List.mem_iff_getElem?.mp ht
      have serving := ((r.extend later).confined publishing).1.serves task ht
      rcases Nat.lt_or_ge i r.world.tasks.length with old | late
      · -- A publish that was there before has returned, so that the task closes the pool.
        have idle := returned i task old hi own
        cases ha : task.activity <;>
          simp_all [Activity.serves, Activity.isDraining, Activity.inUse]
      · -- One that came later has had nothing of the pool.
        have outside := r.outside_extend shut later publishing i task late hi own
        cases ha : task.activity <;>
          simp_all [Activity.Outside, Activity.isDraining, Activity.inUse]
  refine ⟨settled.openSessions_eq_card, accounted, fun drained s hk => ?_⟩
  rcases accounted s hk with gone | ⟨-, task, ht, own, draining, -⟩
  · exact gone
  · simp [drained task ht own] at draining

/-- A publish creates a producer, and then the pool is closed. -/
def closedAtInit : Run :=
  (hasty 0 [.start 0 (.publish 0 "results" ⟨#[1]⟩) false, .proceed 0, .effect 0,
    .deliver 0]).extend [.start 0 .shutdown false]

/-- The first publish goes on and succeeds, and another one comes too late. -/
def afterClosing : List Event :=
  [.proceed 1, .effect 0, .deliver 0, .effect 0, .deliver 0, .effect 0, .deliver 0, .effect 0,
    .deliver 0, .proceed 0, .start 0 (.publish 0 "results" ⟨#[2]⟩) false, .effect 0, .deliver 0,
    .proceed 2]

theorem closedAtInit_leaves_nothing :
    closedAtInit.world.IsClosed 0 ∧
    (closedAtInit.extend afterClosing).world.outcome? 0 = some (.published (.ok ())) ∧
    (closedAtInit.extend afterClosing).world.outcome? 2 =
      some (.published (.error (.pool .closed))) ∧
    (0, 0) ∈ (closedAtInit.extend afterClosing).opened ∧
    (closedAtInit.extend afterClosing).closed.count 0 = 1 ∧
    (closedAtInit.extend afterClosing).world.cluster.openSessions = 0 := by
  have shut : closedAtInit.world.IsClosed 0 := shutdown_closes _ rfl false
  obtain ⟨-, -, -, left⟩ := closedAtInit.shutdown_leaves_nothing shut afterClosing
  have publishing : ∀ event ∈ (closedAtInit.extend afterClosing).events,
      event.isPublishing = true := by decide +kernel
  have met : (closedAtInit.extend afterClosing).givenUp = 0 := by decide +kernel
  have quiet : (closedAtInit.extend afterClosing).world.Quiet := by decide +kernel
  obtain ⟨openSessions, -, closed⟩ := left publishing met
    fun i task _ ht _ => quiet task (List.mem_of_getElem? ht)
  have drained : ∀ task ∈ (closedAtInit.extend afterClosing).world.tasks, task.service = 0 →
      task.activity.isDraining = false := by decide +kernel
  have opened : (0, 0) ∈ (closedAtInit.extend afterClosing).opened := by decide +kernel
  have total : (closedAtInit.extend afterClosing).stillOpen.card = 0 := by decide +kernel
  exact ⟨shut, by decide +kernel, by decide +kernel, opened, (closed drained 0 opened).1,
    openSessions.trans total⟩

end Run

end OutcomeRelay
