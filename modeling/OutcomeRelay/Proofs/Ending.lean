import Mathlib.Data.Nat.Find
import OutcomeRelay.Proofs.Budget

set_option autoImplicit false

/-!
# When a publish ends

A course is a run that goes on for ever. It is timely if whatever ends by itself comes to its end:
what can move on does, a pause is over some day, and a limit passes. Main statement: on a timely
course a publish returns, unless it waits for ever for a session to be closed that could not be
registered; this is the one call that has no limit.
-/

namespace OutcomeRelay

namespace Attempt

def isClosing : Attempt → Bool
  | closing _ _ => true
  | _ => false

theorem endsByItself_or (id : String) (limit : Span) (attempt : Attempt) :
    (attempt.demand id limit).endsByItself = true ∨ attempt.isClosing = true := by
  cases attempt with
  | connecting | registering => exact .inl rfl
  | closing => exact .inr rfl

end Attempt

namespace Activity

def dismisses : Activity → Bool
  | creating _ _ (.trying _ attempt) => attempt.isClosing
  | making _ _ attempt => attempt.isClosing
  | _ => false

theorem closeDemand_endsByItself (handle : Handle) :
    (closeDemand handle).endsByItself = true := by
  unfold closeDemand
  split <;> rfl

theorem endsByItself_or {service : Service} {past : Replies} {activity : Activity}
    (h : activity.InHand service.retry.retries past) :
    (activity.demand service).endsByItself = true ∨ activity.dismisses = true ∨
      ∃ outcome, activity = .ended outcome := by
  cases activity with
  | waiting | borrowing | returning => exact .inl rfl
  | creating purpose id creation =>
    cases creation with
    | pausing failures => exact .inl rfl
    | trying failures attempt =>
      rcases attempt.endsByItself_or id service.options.operationLimit with ends | closes
      · exact .inl ends
      · exact .inr (.inl closes)
  | transacting t => exact .inl (h.2.endsByItself h.1)
  | retiring handle discarded outcome => exact .inl (closeDemand_endsByItself handle)
  | draining handles closed =>
    cases handles with
    | nil => exact .inl rfl
    | cons handle handles => exact .inl (closeDemand_endsByItself handle)
  | operating slot handle request =>
    refine .inl ?_
    simp only [demand]
    split
    · exact closeDemand_endsByItself handle
    · split <;> rfl
  | making slot id attempt =>
    rcases attempt.endsByItself_or id service.options.operationLimit with ends | closes
    · exact .inl ends
    · exact .inr (.inl closes)
  | ended outcome => exact .inr (.inr ⟨outcome, rfl⟩)

/-! ### A publish stays a publish -/

variable {service : Service}

theorem serve_isPublish {purpose : Purpose} (h : purpose.isPublish = true) (pool : Pool)
    (handle : Handle) : (serve pool handle purpose).activity.isPublish = true := by
  cases purpose with
  | publish topic payload => rfl
  | lend slot => simp [Purpose.isPublish] at h

def Publishes (activity : Activity) : Prop :=
  activity.isPublish = true ∨ ∃ result, activity = .ended (.published result)

theorem refuse_publishes {purpose : Purpose} (h : purpose.isPublish = true) (pool : Pool)
    (error : PoolError) : (refuse pool error purpose).activity.Publishes := by
  cases purpose with
  | publish topic payload => exact .inr ⟨_, rfl⟩
  | lend slot => simp [Purpose.isPublish] at h

theorem afterCreation_publishes (service : Service) {purpose : Purpose}
    (h : purpose.isPublish = true) (pool : Pool) (id : String) (next : Creation.Next) :
    (afterCreation service pool purpose id next).activity.Publishes := by
  cases next with
  | ongoing creation => exact .inl h
  | made session => exact .inl (serve_isPublish h _ _)
  | failed error => exact refuse_publishes h _ error

theorem published_of_isPublished {outcome : Outcome} (h : outcome.isPublished = true) :
    ∃ result, outcome = .published result := by
  cases outcome with
  | published result => exact ⟨result, rfl⟩
  | _ => simp [Outcome.isPublished] at h

theorem Publishes.resume {activity : Activity} (h : activity.Publishes) (service : Service)
    (cancelled : Bool) (signal : Signal) :
    (activity.resume service cancelled signal).activity.Publishes := by
  rcases h with publishes | ⟨result, rfl⟩
  · cases activity with
    | waiting millis purpose => exact .inl publishes
    | borrowing purpose =>
      simp only [Activity.resume]
      rcases borrow_cases service cancelled purpose with h | ⟨handle, idle, -, h⟩ | ⟨id, ids, h⟩
      · rw [h]
        exact refuse_publishes publishes _ _
      · rw [h]
        exact .inl (serve_isPublish publishes _ _)
      · rw [h]
        exact afterCreation_publishes service publishes _ id _
    | creating purpose id creation => exact afterCreation_publishes service publishes _ id _
    | transacting t =>
      simp only [Activity.resume, afterTransaction]
      split <;> exact .inl rfl
    | returning handle outcome =>
      obtain ⟨result, rfl⟩ := published_of_isPublished publishes
      simp only [Activity.resume]
      rcases giveBack_cases service.pool handle (.published result) with
        ⟨-, h⟩ | ⟨discarded, -, h⟩
      · rw [h]
        exact .inr ⟨result, rfl⟩
      · rw [h]
        exact .inl rfl
    | retiring handle discarded outcome =>
      obtain ⟨result, rfl⟩ := published_of_isPublished publishes
      exact .inr ⟨result, rfl⟩
    | draining | operating | making | ended => simp [isPublish] at publishes
  · exact .inr ⟨result, rfl⟩

theorem resume_transacting (t : Transaction) (service : Service) (cancelled : Bool)
    (signal : Signal) :
    (∃ next, ((transacting t).resume service cancelled signal).activity = .transacting next) ∨
      ∃ handle result, ((transacting t).resume service cancelled signal).activity =
        .returning handle (.published result) := by
  simp only [Activity.resume, afterTransaction]
  split
  · exact .inl ⟨_, rfl⟩
  · exact .inr ⟨_, _, rfl⟩

end Activity

/-! ### Courses -/

namespace World

variable {w next : World}

theorem Step.services_length {note : Option Note} (hstep : w.Step note next) :
    next.services.length = w.services.length := by
  cases hstep with
  | begun hb =>
    rw [addTask_services]
    generalize Task.activity _ = activity at hb
    cases hb with
    | shutdown | createNext => simp [setPool]
    | publish | reject | borrow | release | operate | create => rfl
  | told ht hs told =>
    rw [signal_services hs]
    simp
  | same | tick | opened | refused | answered | crashed | flagged | adjusted | forgot | spoiled
  | joined | requested => rfl

theorem FreeStep.services_length (hstep : w.FreeStep next) :
    next.services.length = w.services.length := by
  cases hstep with
  | step h => exact h.services_length
  | replied ht hd ha reply => rfl

def dismisses (w : World) (i : Nat) : Bool := w.tasks[i]?.any (·.activity.dismisses)

end World

def Occurrence.panics : Occurrence → Bool
  | .event (.crash _ _) => true
  | _ => false

structure Course where
  partitions : Nat
  services : List Service
  happenings : Nat → Occurrence
  fresh : ∀ service ∈ services, service.pool.idle = []

namespace Course

def upTo (c : Course) (n : Nat) : FreeRun where
  partitions := c.partitions
  services := c.services
  happenings := (List.range n).map c.happenings
  fresh := c.fresh

def world (c : Course) (n : Nat) : World := (c.upTo n).world

def hears? (c : Course) (n i : Nat) : Option Signal := (c.world n).hears? (c.happenings n) i

/-- Whatever ends by itself comes to its end. -/
def Timely (c : Course) : Prop :=
  ∀ (n i : Nat) (task : Task), (c.world n).tasks[i]? = some task →
    ((c.world n).demand task).endsByItself = true → ∃ m, n ≤ m ∧ (c.hears? m i).isSome = true

def Calm (c : Course) : Prop := ∀ n, (c.happenings n).panics = false

/-- The repetitions that a service allows can be counted, so that they run out. -/
def Finite (c : Course) : Prop :=
  ∀ service ∈ c.services, service.retry.retries.toNat + 1 < UInt32.size ∧
    service.creation.retries.toNat + 1 < UInt32.size

variable (c : Course)

theorem upTo_succ (n : Nat) : c.upTo (n + 1) = (c.upTo n).extend [c.happenings n] := by
  simp [upTo, FreeRun.extend, List.range_succ]

theorem world_succ (n : Nat) : c.world (n + 1) = (c.world n).undergo (c.happenings n) := by
  rw [world, upTo_succ, FreeRun.extend_one]
  rfl

theorem step (n : Nat) : (c.world n).FreeStep (c.world (n + 1)) := by
  rw [world_succ]
  exact (c.world n).undergo_step _

theorem services_length (n : Nat) : (c.world n).services.length = c.services.length := by
  induction n with
  | zero => rfl
  | succ n ih => rw [(c.step n).services_length, ih]

variable {c} {n m i : Nat} {task : Task} {service : Service}

theorem exists_service (ht : (c.world n).tasks[i]? = some task) :
    ∃ service ∈ c.services, c.services[task.service]? = some service := by
  obtain ⟨own, ho⟩ := (c.upTo n).regular.service ht
  have inside : task.service < c.services.length := by
    rw [← c.services_length n]
    exact (List.getElem?_eq_some_iff.mp ho).1
  exact ⟨_, List.getElem_mem inside, List.getElem?_eq_getElem inside⟩

theorem service_later (hs : c.services[task.service]? = some service) (n : Nat) :
    ∃ pool, (c.world n).service? task = some { service with pool := pool } := by
  induction n with
  | zero => exact ⟨service.pool, hs⟩
  | succ n ih =>
    obtain ⟨pool, here⟩ := ih
    obtain ⟨next, later⟩ := (c.step n).service here
    exact ⟨next, later⟩

theorem demand_eq (hs : c.services[task.service]? = some service) (n : Nat) :
    (c.world n).demand task = task.activity.demand service := by
  obtain ⟨pool, here⟩ := service_later hs n
  simp only [World.demand, here, Activity.demand_pool]

theorem inHand (ht : (c.world n).tasks[i]? = some task)
    (here : (c.world n).service? task = some service) :
    task.activity.InHand service.retry.retries ((c.upTo n).replies i) :=
  (c.upTo n).attentive.tasks i task service ht here

theorem becomes (ht : (c.world n).tasks[i]? = some task) :
    ∃ new, (c.world (n + 1)).tasks[i]? = some new ∧
      (c.world n).Becomes (c.happenings n) task (c.hears? n i) new := by
  rw [world_succ]
  exact World.undergo_task (c.upTo n).regular ht _

theorem waits (calm : c.Calm) (ht : (c.world n).tasks[i]? = some task) (later : n ≤ m)
    (silent : ∀ k, n ≤ k → k < m → c.hears? k i = none) :
    ∃ new, (c.world m).tasks[i]? = some new ∧ new.activity = task.activity ∧
      new.service = task.service := by
  induction m, later using Nat.le_induction with
  | base => exact ⟨task, ht, rfl, rfl⟩
  | succ m later ih =>
    obtain ⟨old, ho, activity, service⟩ := ih fun k before within => silent k before (by omega)
    obtain ⟨new, hn, becomes⟩ := becomes ho
    rw [silent m later (by omega)] at becomes
    cases becomes with
    | waits same own cancelled answer => exact ⟨new, hn, same.trans activity, own.trans service⟩
    | crashed hd text panics =>
      have quiet := calm m
      simp [panics, Occurrence.panics] at quiet

theorem first_told (calm : c.Calm) (ht : (c.world n).tasks[i]? = some task)
    (heard : ∃ m, n ≤ m ∧ (c.hears? m i).isSome = true) :
    ∃ m old signal, n ≤ m ∧ (c.world m).tasks[i]? = some old ∧ old.activity = task.activity ∧
      old.service = task.service ∧ c.hears? m i = some signal := by
  classical
  obtain ⟨first, told⟩ := Nat.find_spec heard
  have silent (k : Nat) (begun : n ≤ k) (before : k < Nat.find heard) : c.hears? k i = none := by
    simpa [begun] using Nat.find_min heard before
  obtain ⟨signal, told⟩ := Option.isSome_iff_exists.mp told
  obtain ⟨old, ho, activity, own⟩ := waits calm ht first silent
  exact ⟨_, old, signal, first, ho, activity, own, told⟩

/-- What a task is told makes it move on, with less left to do. -/
theorem moves_on (finite : c.Finite) (ht : (c.world n).tasks[i]? = some task)
    (hs : c.services[task.service]? = some service) {signal : Signal}
    (told : c.hears? n i = some signal) :
    ∃ new pool cancelled, (c.world (n + 1)).tasks[i]? = some new ∧ new.service = task.service ∧
      new.activity =
        (task.activity.resume { service with pool := pool } cancelled signal).activity ∧
      new.activity.budget service.retry.retries service.creation.retries <
        task.activity.budget service.retry.retries service.creation.retries := by
  obtain ⟨new, hn, becomes⟩ := becomes ht
  rw [told] at becomes
  obtain ⟨own, member, ho⟩ := exists_service ht
  obtain rfl : own = service := Option.some.inj (ho.symm.trans hs)
  obtain ⟨pool, here⟩ := service_later hs n
  cases becomes with
  | told served ends =>
    obtain rfl := Option.some.inj (here.symm.trans served)
    have heard : (task.activity.demand { own with pool := pool }).EndsWith signal := by
      simpa only [World.demand, here] using ends
    obtain ⟨retries, creations⟩ := finite own member
    exact ⟨_, pool, task.cancelled, hn, rfl, rfl,
      Activity.resume_budget (inHand ht here) heard retries creations _⟩

/-- A publish returns, or comes to wait for ever for a session to be closed. -/
theorem returns_or_dismisses (timely : c.Timely) (calm : c.Calm) (finite : c.Finite)
    (ht : (c.world n).tasks[i]? = some task) (hs : c.services[task.service]? = some service)
    (publishes : task.activity.Publishes) :
    (∃ m result, (c.world m).result? i = some result) ∨
      ∃ m, ∀ k, m ≤ k → (c.world k).dismisses i = true := by
  induction left : task.activity.budget service.retry.retries service.creation.retries
    using Nat.strong_induction_on generalizing n task with
  | h budget ih =>
    by_cases heard : ∃ m, n ≤ m ∧ (c.hears? m i).isSome = true
    · obtain ⟨m, old, signal, -, ho, activity, own, told⟩ := first_told calm ht heard
      rw [← own] at hs
      obtain ⟨new, pool, cancelled, hn, same, moved, less⟩ := moves_on finite ho hs told
      rw [activity, left] at less
      refine ih _ less hn (same ▸ hs) ?_ rfl
      rw [moved, activity]
      exact publishes.resume _ cancelled signal
    · have silent (k : Nat) (begun : n ≤ k) : c.hears? k i = none := by
        simpa using fun told => heard ⟨k, begun, told⟩
      obtain ⟨pool, here⟩ := service_later hs n
      rcases Activity.endsByItself_or (inHand ht here) with ends | dismisses | ⟨outcome, ended⟩
      · rw [Activity.demand_pool, ← demand_eq hs n] at ends
        exact absurd (timely n i task ht ends) heard
      · refine .inr ⟨n, fun k later => ?_⟩
        obtain ⟨new, hn, activity, -⟩ := waits calm ht later fun k begun _ => silent k begun
        simp [World.dismisses, hn, activity, dismisses]
      · rcases publishes with going | ⟨result, returned⟩
        · simp [ended, Activity.isPublish] at going
        · exact .inl ⟨n, result, World.result?_eq_some.mpr ⟨task, ht, returned⟩⟩

theorem gives_back (timely : c.Timely) (calm : c.Calm) (finite : c.Finite)
    (ht : (c.world n).tasks[i]? = some task) (hs : c.services[task.service]? = some service)
    {t : Transaction} (ha : task.activity = .transacting t) :
    ∃ m new handle result, n ≤ m ∧ (c.world m).tasks[i]? = some new ∧
      new.activity = .returning handle (.published result) := by
  induction left : task.activity.budget service.retry.retries service.creation.retries
    using Nat.strong_induction_on generalizing n task t with
  | h budget ih =>
    obtain ⟨pool, here⟩ := service_later hs n
    have going := inHand ht here
    rw [ha] at going
    have ends : ((c.world n).demand task).endsByItself = true := by
      rw [demand_eq hs, ha]
      exact going.2.endsByItself going.1
    obtain ⟨m, old, signal, since, ho, activity, own, told⟩ :=
      first_told calm ht (timely n i task ht ends)
    rw [← own] at hs
    obtain ⟨new, pool, cancelled, hn, same, moved, less⟩ := moves_on finite ho hs told
    rw [activity, left] at less
    rw [activity, ha] at moved
    rcases Activity.resume_transacting t { service with pool := pool } cancelled signal with
      ⟨next, goes_on⟩ | ⟨handle, result, ended⟩
    · obtain ⟨k, last, handle, result, later, hl, back⟩ :=
        ih _ less hn (same ▸ hs) (moved.trans goes_on) rfl
      exact ⟨k, last, handle, result, by omega, hl, back⟩
    · exact ⟨m + 1, new, handle, result, by omega, hn, moved.trans ended⟩

theorem ended_later {outcome : Outcome} (ht : (c.world n).tasks[i]? = some task)
    (ended : task.activity = .ended outcome) (later : n ≤ m) :
    ∃ new, (c.world m).tasks[i]? = some new ∧ new.activity = .ended outcome := by
  induction m, later using Nat.le_induction with
  | base => exact ⟨task, ht, ended⟩
  | succ m later ih =>
    obtain ⟨old, ho, same⟩ := ih
    obtain ⟨new, hn, becomes⟩ := becomes ho
    obtain ⟨own, -, hs⟩ := exists_service ho
    have rests : (c.world m).demand old = .rest := by
      rw [demand_eq hs, same]
      rfl
    refine ⟨new, hn, ?_⟩
    generalize c.hears? m i = signal at becomes
    cases becomes with
    | waits activity => exact activity.trans same
    | told served ends =>
      rw [rests] at ends
      cases ends
    | crashed hd => simp [rests, Demand.isCall] at hd

end Course

/-! ### Runs that stand still -/

namespace FreeRun

def course (r : FreeRun) : Course where
  partitions := r.partitions
  services := r.services
  happenings n := r.happenings.getD n (.event (.tick 0))
  fresh := r.fresh

variable {r : FreeRun} {n : Nat}

theorem course_world (h : r.happenings.length ≤ n) : r.course.world n = r.world := by
  induction n, h using Nat.le_induction with
  | base =>
    have same : (List.range r.happenings.length).map r.course.happenings = r.happenings := by
      refine List.ext_getElem (by simp) fun k _ inside => ?_
      simp [course, inside]
    rw [Course.world, Course.upTo, same]
    rfl
  | succ n beyond ih =>
    have nothing : r.course.happenings n = .event (.tick 0) := by simp [course, beyond]
    rw [Course.world_succ, ih, nothing]
    simp [World.undergo, World.apply, World.eventTask?]

theorem course_calm (h : ∀ o ∈ r.happenings, o.panics = false) : r.course.Calm := by
  intro n
  rcases Nat.lt_or_ge n r.happenings.length with inside | beyond
  · simpa [course, inside] using h _ (List.getElem_mem inside)
  · simp [course, beyond, Occurrence.panics]

theorem course_timely (calm : r.course.Calm)
    (rests : ∀ task ∈ r.world.tasks, (r.world.demand task).endsByItself = false) :
    r.course.Timely := by
  intro n i task ht ends
  by_contra unheard
  have silent (k : Nat) (later : n ≤ k) : r.course.hears? k i = none := by
    simpa using fun told => unheard ⟨k, later, told⟩
  obtain ⟨new, hn, activity, own⟩ :=
    Course.waits calm ht (le_max_left n r.happenings.length) fun k later _ => silent k later
  obtain ⟨service, -, hs⟩ := Course.exists_service ht
  have demand : r.world.demand new = (r.course.world n).demand task := by
    rw [Course.demand_eq hs n, ← activity, ← course_world (le_max_right n _)]
    exact Course.demand_eq (own ▸ hs) _
  rw [course_world (le_max_right _ _)] at hn
  have still := rests new (List.mem_of_getElem? hn)
  rw [demand, ends] at still
  simp at still

end FreeRun

/-! ### The one call without a limit -/

/-- A publish returns unless it waits for ever for a session to be closed that could not be
registered. -/
theorem Course.returns_iff {c : Course} {n i : Nat} {task : Task} (timely : c.Timely)
    (calm : c.Calm) (finite : c.Finite) (ht : (c.world n).tasks[i]? = some task)
    (publishes : task.activity.Publishes) :
    (∃ m result, (c.world m).result? i = some result) ↔
      ¬ ∃ m, ∀ k, m ≤ k → (c.world k).dismisses i = true := by
  obtain ⟨service, -, hs⟩ := exists_service ht
  constructor
  · rintro ⟨m, result, returned⟩ ⟨m', dismisses⟩
    obtain ⟨old, ho, ended⟩ := World.result?_eq_some.mp returned
    obtain ⟨new, hn, same⟩ := ended_later ho ended (le_max_left m m')
    have closes := dismisses _ (le_max_right m m')
    simp [World.dismisses, hn, same, Activity.dismisses] at closes
  · intro never
    exact (returns_or_dismisses timely calm finite ht hs publishes).resolve_right never

namespace Run

/-- A session is not registered in time, and it is closed in time. -/
def unregistered : Run :=
  hasty 0 [.start 0 (.publish 0 "results" ⟨#[1]⟩) false, .proceed 0, .effect 0, .deliver 0,
    .expire 0, .effect 0, .deliver 0]

theorem hasty_finite {retries : UInt32} (h : retries.toNat + 1 < UInt32.size)
    (events : List Event) : (hasty retries events).free.course.Finite := by
  simpa [Course.Finite, Run.free, FreeRun.course, hasty, Backoff.immediate, UInt32.size] using h

theorem unregistered_returns :
    ∃ m result, (unregistered.free.course.world m).result? 0 = some result := by
  have calm : unregistered.free.course.Calm := FreeRun.course_calm (by decide +kernel)
  have timely : unregistered.free.course.Timely := FreeRun.course_timely calm (by decide +kernel)
  have finite : unregistered.free.course.Finite := hasty_finite (by decide) _
  let task : Task :=
    { service := 0, activity := .borrowing (.publish "results" ⟨#[1]⟩) }
  have ht : (unregistered.free.course.world 1).tasks[0]? = some task := by decide +kernel
  refine (Course.returns_iff timely calm finite ht (.inl rfl)).mpr ?_
  rintro ⟨m, dismisses⟩
  have closes := dismisses _ (le_max_left m unregistered.free.happenings.length)
  rw [FreeRun.course_world (le_max_right _ _)] at closes
  exact absurd closes (by decide +kernel)

/-- A session is refused its registration, and closing it is not answered. -/
def unclosed : Run :=
  hasty 0 [.inject .init (.retriable "busy"), .start 0 (.publish 0 "results" ⟨#[1]⟩) false,
    .proceed 0, .effect 0, .deliver 0, .effect 0, .deliver 0]

/-- Everything that has a limit comes to its end, and yet the publish never returns. -/
theorem unclosed_never_returns :
    unclosed.free.course.Timely ∧ unclosed.free.course.Calm ∧ unclosed.free.course.Finite ∧
    (∃ task, (unclosed.free.course.world 2).tasks[0]? = some task ∧ task.activity.Publishes) ∧
    ∀ m result, (unclosed.free.course.world m).result? 0 ≠ some result := by
  have calm : unclosed.free.course.Calm := FreeRun.course_calm (by decide +kernel)
  refine ⟨FreeRun.course_timely calm (by decide +kernel), calm, hasty_finite (by decide) _,
    ⟨{ service := 0, activity := .borrowing (.publish "results" ⟨#[1]⟩) }, by decide +kernel,
      .inl rfl⟩, ?_⟩
  intro m result returned
  obtain ⟨task, ht, ended⟩ := World.result?_eq_some.mp returned
  obtain ⟨new, hn, same⟩ :=
    Course.ended_later ht ended (le_max_left m unclosed.free.happenings.length)
  rw [FreeRun.course_world (le_max_right _ _)] at hn
  have nothing : unclosed.free.world.result? 0 = none := by decide +kernel
  rw [World.result?_eq_some.mpr ⟨new, hn, same⟩] at nothing
  simp at nothing

end Run

end OutcomeRelay
