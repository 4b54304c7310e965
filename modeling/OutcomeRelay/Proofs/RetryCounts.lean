import OutcomeRelay.Config
import OutcomeRelay.Proofs.Ending
import OutcomeRelay.Proofs.Failures
import OutcomeRelay.Proofs.Recovery

set_option autoImplicit false

/-!
# How far retries can be counted

Failures are counted in 32-bit words before the count is compared with the budget, and a budget may
be any such word. Main statement: in every run the counts and reports of all loops are true exactly
if both budgets are below the largest word. With the largest word no count is ever above the budget:
after it the count starts again at zero, and the loop does not give up.
-/

namespace OutcomeRelay

/-! ### The failures of a run -/

namespace World

def failure? (w : World) (o : Occurrence) (i : Nat) : Option Failure :=
  match w.tasks[i]?, w.hears? o i with
  | some task, some signal =>
    (w.service? task).bind fun service => task.activity.failure? service signal
  | _, _ => none

def failures (w : World) (i : Nat) (past : List Failure) : List Occurrence → List Failure
  | [] => past
  | o :: later => (w.undergo o).failures i ((w.failure? o i).toList ++ past) later

theorem failures_append (w : World) (i : Nat) (past : List Failure)
    (before after : List Occurrence) :
    w.failures i past (before ++ after) =
      (w.follow before).failures i (w.failures i past before) after := by
  induction before generalizing w past with
  | nil => rfl
  | cons o before ih => exact ih (w.undergo o) _

end World

def FreeRun.failures (r : FreeRun) (i : Nat) : List Failure := r.start.failures i [] r.happenings

theorem FreeRun.failures_extend_one (r : FreeRun) (o : Occurrence) (i : Nat) :
    (r.extend [o]).failures i = (r.world.failure? o i).toList ++ r.failures i :=
  r.start.failures_append i [] r.happenings [o]

/-! ### Budgets that can be counted -/

/-- No budget of a service is the largest word. -/
def Service.Countable (service : Service) : Prop :=
  ∀ loop : Loop, (loop.retries service).toNat + 1 < UInt32.size

@[simp] theorem Loop.retries_pool (loop : Loop) (service : Service) (pool : Pool) :
    loop.retries { service with pool := pool } = loop.retries service := by
  cases loop <;> rfl

namespace World

variable {w : World}

structure Reckoned (w : World) (failed : Nat → List Failure) : Prop where
  tasks : ∀ (i : Nat) (task : Task) (service : Service), w.tasks[i]? = some task →
    w.service? task = some service → service.Countable →
    task.activity.standing.Reckons (·.retries service) (failed i)
  later : ∀ i, w.tasks.length ≤ i → failed i = []

theorem failure?_eq {i : Nat} {task : Task} {service : Service} (ht : w.tasks[i]? = some task)
    (hs : w.service? task = some service) (o : Occurrence) :
    w.failure? o i = (w.hears? o i).bind fun signal => task.activity.failure? service signal := by
  simp only [failure?, ht]
  cases w.hears? o i with
  | none => rfl
  | some signal => simp [hs]

theorem begins_reckons {base : World} {activity : Activity} {note : Option Note}
    (h : w.Begins base activity note) (retries : Loop → UInt32) :
    activity.standing.Reckons retries [] := by
  cases h with
  | publish millis topic payload =>
    unfold Activity.begin
    split <;> exact Standing.reckons_nil retries rfl rfl
  | borrow | reject | release | operate | shutdown | create | createNext =>
    exact Standing.reckons_nil retries rfl rfl

theorem Reckoned.undergo {failed : Nat → List Failure} {heard : Nat → Replies}
    (h : w.Reckoned failed) (regular : w.Regular) (attentive : w.Attentive heard)
    (o : Occurrence) :
    (w.undergo o).Reckoned fun i => (w.failure? o i).toList ++ failed i := by
  constructor
  · intro i new service hn hs countable
    rcases undergo_origin regular o hn with ⟨task, ht, becomes⟩ | ⟨rfl, -, -, base, note, begins⟩
    · obtain ⟨own, pool, ho, rfl⟩ := regular.service_before ht becomes hs
      simp only [Service.Countable, Loop.retries_pool] at countable
      have reckons := h.tasks i task own ht ho countable
      simp only [failure?_eq ht ho, Loop.retries_pool]
      generalize w.hears? o i = signal at becomes
      cases becomes with
      | waits activity service cancelled answer =>
        rw [activity]
        exact reckons
      | told served ends =>
        obtain rfl := Option.some.inj (ho.symm.trans served)
        rw [demand_of_service ho] at ends
        -- What a task has heard ensures that no request of it is refused before it is made.
        exact reckons.proceeds countable (fun _ => Activity.late_of_report)
          (Activity.resume_proceeds (attentive.tasks i task own ht ho) ends _)
      | crashed hd text panics => exact reckons.silent_end
    · have silent : w.failure? o w.tasks.length = none := by simp [failure?]
      rw [silent, h.later _ le_rfl]
      exact begins_reckons begins _
  · intro i beyond
    have before : w.tasks.length ≤ i := (length_le_undergo regular o).trans beyond
    simp [failure?, List.getElem?_eq_none before, h.later i before]

end World

theorem FreeRun.reckoned (r : FreeRun) : r.world.Reckoned r.failures := by
  induction r using by_happenings with
  | idle r nothing =>
    constructor
    · simp [world, nothing, start, World.follow, World.initial]
    · intro i _
      simp [failures, nothing, World.failures]
  | happening r o ih =>
    rw [extend_one]
    simpa only [funext fun i => r.failures_extend_one o i] using
      ih.undergo r.regular r.attentive o

/-! ### Loops that do not give up -/

/-- A service lets a loop go on whatever its count. -/
def Loop.Unlimited (loop : Loop) (service : Service) : Prop :=
  ∀ count : UInt32, count ≤ loop.retries service

theorem Loop.Unlimited.withPool {loop : Loop} {service : Service} (h : loop.Unlimited service)
    (pool : Pool) : loop.Unlimited { service with pool := pool } := by
  simpa [Unlimited] using h

/-- An attempt that has a limit and is repeated as long as it may be: when the limit passes it has
failed, and after a pause it is made again, with nothing changed but the count. -/
structure Activity.Recurs (loop : Loop) (trying pausing : UInt32 → Activity) : Prop where
  inside : ∀ failures, (trying failures).loop? = some (loop, failures)
  limited : ∀ service failures, ((trying failures).demand service).limit?.isSome = true
  fails : ∀ service failures, ∃ error,
    (trying failures).failure? service .silence = some (loop, error)
  waits : ∀ service failures, loop.Unlimited service →
    ((trying failures).resume service false .silence).activity = pausing (failures + 1)
  pauses : ∀ service failures, ∃ length cancellable,
    (pausing failures).demand service = .pause length cancellable
  unfailing : ∀ service failures, (pausing failures).failure? service .resumed = none
  resumes : ∀ service failures,
    ((pausing failures).resume service false .resumed).activity = trying failures

theorem Activity.recurs_creation (purpose : Purpose) (id : String) :
    Recurs .creation (fun failures => .creating purpose id (.trying failures .connecting))
      (fun failures => .creating purpose id (.pausing failures)) where
  inside _ := rfl
  limited _ _ := rfl
  fails _ _ := ⟨_, rfl⟩
  waits service failures unlimited := by
    have again : service.creation.canRetry (failures + 1) = true := decide_eq_true (unlimited _)
    simp [resume, Creation.resume, Attempt.resume, Creation.fail, Attempt.connectSilence,
      BrokerError.isFatal, BrokerError.kind, again, afterCreation]
  pauses _ _ := ⟨_, _, rfl⟩
  unfailing _ _ := rfl
  resumes _ _ := rfl

theorem Activity.afterTransaction_of_loop {t : Transaction} {loop : Loop} {failures : UInt32}
    (h : t.phase.loop? = some (loop, failures)) (pool : Pool) :
    (afterTransaction pool t).activity = .transacting t := by
  unfold afterTransaction Transaction.result?
  cases hp : t.phase with
  | ended => simp [hp, Transaction.Phase.loop?] at h
  | _ => rfl

namespace Transaction

variable {t : Transaction} {status : Status} {request : Request} {again : BrokerError → Bool}
  {calling waiting : UInt32 → Phase} {loop : Loop}

theorem recurs_of_repeats (h : ∀ retry, t.Repeats retry status request again calling waiting)
    (policy : ∀ service, loop.retries service = service.retry.retries)
    (own : Loop.ofRequest? request = some loop) (patient : again t.handle.silence = true)
    (here : ∀ failures, (calling failures).loop? = some (loop, failures))
    (there : ∀ failures, (waiting failures).loop? = some (loop, failures)) :
    Activity.Recurs loop (fun failures => .transacting (t.placed status (calling failures)))
      (fun failures => .transacting (t.placed status (waiting failures))) where
  inside := here
  limited service failures := by
    have asks := (h service.retry).asks failures
    simp [Activity.demand, demand_of_request asks (h service.retry).permitted, Demand.limit?]
  fails service failures := by
    refine ⟨t.handle.silence, ?_⟩
    simp only [Activity.failure?, heard?, (h service.retry).asks failures, Option.map_some,
      Option.bind_some, Reply.failure?, own]
    rfl
  waits service failures unlimited := by
    have repeats := h service.retry
    have asks := repeats.asks failures
    have allowed : service.retry.canRetry (failures + 1) = true :=
      decide_eq_true (policy service ▸ unlimited _)
    have settled := settle_of_request asks repeats.permitted service.retry false none
    have waits : (t.placed status (calling failures)).resume service.retry false .silence =
        t.placed status (waiting (failures + 1)) :=
      ((resume_of_request asks service.retry false).2.trans settled).trans
        (repeats.fails failures t.handle.silence patient allowed)
    simp only [Activity.resume, waits]
    exact Activity.afterTransaction_of_loop (there _) _
  pauses service failures := ⟨_, (h service.retry).pauses failures⟩
  unfailing _ _ := rfl
  resumes service failures := by
    simp only [Activity.resume, (h service.retry).resumes failures]
    exact Activity.afterTransaction_of_loop (here failures) _

theorem recurs_step (t : Transaction) (step : Step) :
    Activity.Recurs (.step step)
      (fun failures => .transacting (t.placed .inTransaction (.performing step failures)))
      (fun failures => .transacting (t.placed .inTransaction (.pausing step failures))) :=
  recurs_of_repeats (fun retry => t.repeats_step retry step) (fun _ => rfl) (by cases step <;> rfl)
    rfl (fun _ => rfl) fun _ => rfl

theorem recurs_abort (t : Transaction) (reason : PublishError) :
    Activity.Recurs .abort
      (fun failures => .transacting (t.placed .abortable (.aborting reason failures)))
      (fun failures => .transacting (t.placed .abortable (.abortPausing reason failures))) :=
  recurs_of_repeats (fun retry => t.repeats_abort retry reason rfl) (fun _ => rfl) rfl rfl
    (fun _ => rfl) fun _ => rfl

end Transaction

/-! ### One task at work -/

def Config.service (c : Config) : Service where
  options := c.producerOptions
  retry := c.commitBackoff
  creation := c.creationBackoff
  topic := c.resultsTopic

namespace FreeRun

variable {r : FreeRun} {c : Config} {activity : Activity} {answer : Option Signal}
  {past : List Failure} {signal : Signal}

def answering (reply : Reply) : List Occurrence := [.answer 0 reply, .event (.deliver 0)]

def round : List Occurrence := [.event (.expire 0), .event (.wake 0)]

def Does (r : FreeRun) (c : Config) (activity : Activity) (answer : Option Signal)
    (past : List Failure) : Prop :=
  ∃ task pool, r.world.tasks[0]? = some task ∧
    r.world.service? task = some { c.service with pool := pool } ∧ task.cancelled = false ∧
    task.activity = activity ∧ task.answer = answer ∧ r.failures 0 = past

theorem Does.told (h : r.Does c activity answer past) (event : Event)
    (about : World.eventTask? event = some 0)
    (heard : ∀ task : Task, task.answer = answer →
      task.hears? (activity.demand c.service) event = some signal) :
    ∃ pool, (r.extend [.event event]).Does c
      (activity.resume { c.service with pool := pool } false signal).activity none
      ((activity.failure? { c.service with pool := pool } signal).toList ++ past) := by
  obtain ⟨task, pool, ht, hs, goes_on, rfl, ha, rfl⟩ := h
  have demand : r.world.demand task = task.activity.demand c.service := by
    rw [World.demand_of_service hs, Activity.demand_pool]
  have hears : r.world.hears? (.event event) 0 = some signal := by
    simp [World.hears?, about, ht, demand, heard task ha]
  obtain ⟨new, hn, becomes⟩ := World.undergo_task r.regular ht (.event event)
  rw [hears] at becomes
  obtain ⟨next, later⟩ := (r.world.undergo_step (.event event)).service hs
  cases becomes with
  | @told service _ served ends =>
    obtain rfl := Option.some.inj (hs.symm.trans served)
    rw [← extend_one] at hn later
    refine ⟨pool, r.world.moved task (World.move _ task signal).activity, next, hn, later, goes_on,
      ?_, rfl, ?_⟩
    · simp [World.moved, World.move, goes_on]
    · rw [failures_extend_one, World.failure?_eq ht hs, hears, Option.bind_some]

theorem Does.given (h : r.Does c activity none past) {reply : Reply}
    (given : ∀ task : Task, task.answer = none →
      r.world.demand task = activity.demand c.service → ∃ cluster,
      r.world.answerTask 0 task reply =
        (r.world.putCluster cluster).setTask 0 { task with answer := some signal }) :
    ∃ pool, (r.extend (answering reply)).Does c
      (activity.resume { c.service with pool := pool } false signal).activity none
      ((activity.failure? { c.service with pool := pool } signal).toList ++ past) := by
  obtain ⟨task, pool, ht, hs, goes_on, rfl, ha, rfl⟩ := h
  have demand : r.world.demand task = task.activity.demand c.service := by
    rw [World.demand_of_service hs, Activity.demand_pool]
  obtain ⟨cluster, world⟩ := given task ha demand
  have next : (r.extend [.answer 0 reply]).world =
      (r.world.putCluster cluster).setTask 0 { task with answer := some signal } := by
    rw [extend_one, ← world]
    simp only [World.undergo, ht]
  have pending : (r.extend [.answer 0 reply]).Does c task.activity (some signal)
      (r.failures 0) := by
    refine ⟨{ task with answer := some signal }, pool, ?_, ?_, goes_on, rfl, rfl, ?_⟩
    · rw [next]
      exact List.getElem?_set_self (List.getElem?_eq_some_iff.mp ht).1
    · rw [next]
      exact hs
    · simp [failures_extend_one, World.failure?, World.hears?]
  have told := pending.told (.deliver 0) rfl fun _ answer => answer
  rwa [extend_extend] at told

theorem Does.answered (h : r.Does c activity none past) {session : SessionId} {id : String}
    {request : Request} {limit : Option Span}
    (hd : activity.demand c.service = .answer session id request limit) (reply : Reply) :
    ∃ pool, (r.extend (answering reply)).Does c
      (activity.resume { c.service with pool := pool } false (.answered reply)).activity none
      ((activity.failure? { c.service with pool := pool } (.answered reply)).toList ++ past) := by
  refine h.given fun task ha demand => ⟨r.world.cluster, ?_⟩
  simp [World.answerTask, ha, demand, hd, World.putCluster]

theorem Does.connected (h : r.Does c activity none past) {id : String} {limit : Span}
    (hd : activity.demand c.service = .connection id limit) :
    ∃ session pool, (r.extend (answering (.ok ()))).Does c
      (activity.resume { c.service with pool := pool } false (.opened session)).activity none
      ((activity.failure? { c.service with pool := pool } (.opened session)).toList ++ past) := by
  refine ⟨r.world.cluster.sessions.length, h.given fun task ha demand =>
    ⟨r.world.cluster.join id, ?_⟩⟩
  simp [World.answerTask, ha, demand, hd]

theorem Does.again {loop : Loop} {trying pausing : UInt32 → Activity} {failures : UInt32}
    (recurs : Activity.Recurs loop trying pausing) (unlimited : loop.Unlimited c.service)
    (h : r.Does c (trying failures) none past) :
    ∃ error, (r.extend round).Does c (trying (failures + 1)) none ((loop, error) :: past) := by
  obtain ⟨pool, failed⟩ := h.told (.expire 0) rfl fun _ _ => if_pos (recurs.limited _ _)
  obtain ⟨error, fails⟩ := recurs.fails { c.service with pool := pool } failures
  rw [recurs.waits _ _ (unlimited.withPool pool), fails] at failed
  obtain ⟨length, cancellable, pauses⟩ := recurs.pauses c.service (failures + 1)
  have awake (task : Task) (_ : task.answer = none) :
      task.hears? ((pausing (failures + 1)).demand c.service) (.wake 0) = some .resumed := by
    simp [Task.hears?, pauses]
  obtain ⟨pool, resumed⟩ := failed.told (.wake 0) rfl awake
  rw [recurs.resumes, recurs.unfailing, extend_extend] at resumed
  exact ⟨error, resumed⟩

end FreeRun

/-! ### The largest budget -/

namespace Loop

open FreeRun (answering round)

def arrival : List Occurrence :=
  [.event (.start 0 (.publish 0 "results" ⟨#[1]⟩) false), .event (.proceed 0)]

def beginning : List Occurrence :=
  arrival ++ (answering (.ok ()) ++ (answering (.ok ()) ++ answering (.ok ())))

def entry : Loop → List Occurrence
  | creation => arrival
  | step .send => beginning
  | step .commit => beginning ++ answering (.ok ())
  | abort => beginning ++ answering (.error (.abortable "expired"))

/-- A publish comes to a loop, and so many attempts of the loop have no answer. -/
def failing (loop : Loop) (c : Config) (k : Nat) : FreeRun where
  partitions := 1
  services := [c.service]
  happenings := loop.entry ++ (List.replicate k round).flatten
  fresh := by simp [Config.service]

variable (loop : Loop) (c : Config) (k : Nat)

theorem failing_succ : loop.failing c (k + 1) = (loop.failing c k).extend round := by
  simp [failing, FreeRun.extend, List.replicate_succ']

theorem arrives : ∃ id, (creation.failing c 0).Does c
    (.creating (.publish "results" ⟨#[1]⟩) id (.trying 0 .connecting)) none [] :=
  ⟨_, _, _, rfl, rfl, rfl, rfl, rfl, rfl⟩

theorem begins : ∃ t : Transaction, ((step .send).failing c 0).Does c
    (.transacting (t.placed .inTransaction (.performing .send 0))) none [] := by
  obtain ⟨id, arrived⟩ := arrives c
  obtain ⟨session, pool, connected⟩ := arrived.connected rfl
  obtain ⟨pool, registered⟩ := connected.answered rfl (.ok ())
  obtain ⟨pool, begun⟩ := registered.answered rfl (.ok ())
  have same : (step .send).failing c 0 =
      (((creation.failing c 0).extend (answering (.ok ()))).extend (answering (.ok ()))).extend
        (answering (.ok ())) := by
    simp [failing, FreeRun.extend, entry, beginning]
  rw [same]
  exact ⟨_, begun⟩

theorem enters : ∃ trying pausing past, Activity.Recurs loop trying pausing ∧
    (loop.failing c 0).Does c (trying 0) none past ∧ loop.errors past = [] := by
  rcases loop with _ | (_ | _) | _
  · obtain ⟨id, arrived⟩ := arrives c
    exact ⟨_, _, _, Activity.recurs_creation _ id, arrived, rfl⟩
  · obtain ⟨t, begun⟩ := begins c
    exact ⟨_, _, _, t.recurs_step .send, begun, rfl⟩
  · obtain ⟨t, begun⟩ := begins c
    obtain ⟨pool, sent⟩ := begun.answered rfl (.ok ())
    have same : (step .commit).failing c 0 =
        ((step .send).failing c 0).extend (answering (.ok ())) := by
      simp [failing, FreeRun.extend, entry]
    rw [← same] at sent
    exact ⟨_, _, _, t.recurs_step .commit, sent, rfl⟩
  · obtain ⟨t, begun⟩ := begins c
    obtain ⟨pool, unsent⟩ := begun.answered rfl (.error (.abortable "expired"))
    have same : abort.failing c 0 =
        ((step .send).failing c 0).extend (answering (.error (.abortable "expired"))) := by
      simp [failing, FreeRun.extend, entry]
    rw [← same] at unsent
    exact ⟨_, _, _, t.recurs_abort _, unsent, rfl⟩

/-- Whatever the number of its failures, the loop goes on, and the word that counts them has gone
round. -/
theorem goes_round (unlimited : loop.Unlimited c.service) :
    ∃ task pool, (loop.failing c k).world.tasks[0]? = some task ∧
      (loop.failing c k).world.service? task = some { c.service with pool := pool } ∧
      task.activity.loop? = some (loop, .ofNat k) ∧
      (loop.errors ((loop.failing c k).failures 0)).length = k := by
  obtain ⟨trying, pausing, first, recurs, entered, none_yet⟩ := loop.enters c
  -- By induction on the rounds: the activity has the word for `k`, the history the number itself.
  have goes_on : ∃ past, (loop.failing c k).Does c (trying (.ofNat k)) none past ∧
      (loop.errors past).length = k := by
    induction k with
    | zero => exact ⟨first, entered, by simp [none_yet]⟩
    | succ k ih =>
      obtain ⟨past, here, count⟩ := ih
      obtain ⟨error, again⟩ := here.again recurs unlimited
      have next : UInt32.ofNat (k + 1) = .ofNat k + 1 := UInt32.ofNat_add k 1
      rw [← next, ← failing_succ] at again
      exact ⟨_, again, by simp [errors_cons_self, count]⟩
  obtain ⟨past, ⟨task, pool, ht, hs, -, activity, -, failed⟩, count⟩ := goes_on
  exact ⟨task, pool, ht, hs, activity ▸ recurs.inside _, failed ▸ count⟩

theorem unlimited_of_largest {service : Service}
    (h : UInt32.size ≤ (loop.retries service).toNat + 1) : loop.Unlimited service := by
  intro count
  rw [UInt32.le_iff_toNat_le]
  exact Nat.le_of_lt_succ (Nat.lt_of_lt_of_le count.toNat_lt_size h)

/-- When the word has gone round once, the count is not the number of failures. -/
theorem miscounts (unlimited : loop.Unlimited c.service) :
    ∃ task pool, (loop.failing c UInt32.size).world.tasks[0]? = some task ∧
      (loop.failing c UInt32.size).world.service? task = some { c.service with pool := pool } ∧
      ¬ task.activity.CountsTruly { c.service with pool := pool }
        ((loop.failing c UInt32.size).failures 0) := by
  obtain ⟨task, pool, ht, hs, inside, failed⟩ := loop.goes_round c UInt32.size unlimited
  refine ⟨task, pool, ht, hs, fun truly => ?_⟩
  obtain ⟨count, -⟩ := truly.counted loop _ inside
  have zero : (UInt32.ofNat UInt32.size).toNat = 0 := rfl
  rw [failed, zero] at count
  exact absurd count (by decide)

end Loop

/-- A word that is refused is not zero, so that one can be taken from it; and the counts and reports
of all loops are true in every run exactly if both budgets are below the largest word. -/
theorem Config.counts_truly_iff (c : Config) :
    (∀ (policy : Backoff) (attempt : UInt32), policy.canRetry attempt = false →
      (attempt - 1).toNat + 1 = attempt.toNat) ∧
    ((∀ (r : FreeRun) (i : Nat) (task : Task) (service : Service),
        r.world.tasks[i]? = some task → r.world.service? task = some service →
        service.retry = c.commitBackoff → service.creation = c.creationBackoff →
        task.activity.CountsTruly service (r.failures i)) ↔
      c.commitRetries.toNat + 1 < UInt32.size ∧ c.creationRetries.toNat + 1 < UInt32.size) := by
  refine ⟨fun policy attempt refused => ?_, fun truly => ?_, ?_⟩
  · have above : policy.retries < attempt := by simpa [Backoff.canRetry] using refused
    rw [UInt32.lt_iff_toNat_lt] at above
    have least : (1 : UInt32) ≤ attempt := by
      rw [UInt32.le_iff_toNat_le]
      exact Nat.succ_le_of_lt (Nat.zero_lt_of_lt above)
    rw [UInt32.toNat_sub_of_le _ _ least]
    exact Nat.succ_pred_eq_of_pos (Nat.zero_lt_of_lt above)
  · have countable (loop : Loop) : (loop.retries c.service).toNat + 1 < UInt32.size := by
      by_contra largest
      obtain ⟨task, pool, ht, hs, wrong⟩ :=
        loop.miscounts c (loop.unlimited_of_largest (not_lt.mp largest))
      exact wrong (truly _ 0 task _ ht hs rfl rfl)
    exact ⟨countable .abort, countable .creation⟩
  · rintro ⟨retries, creations⟩ r i task service ht hs policy creation
    have countable : service.Countable := by
      intro loop
      cases loop with
      | creation =>
        rw [Loop.retries, creation]
        exact creations
      | step | abort =>
        rw [Loop.retries, policy]
        exact retries
    exact .of_reckons (r.reckoned.tasks i task service ht hs countable)

namespace Config

/-- Both budgets are the largest word. -/
def tirelessTable : Table
  | .brokers => some "k1:9092"
  | .transactionalId => some "svc"
  | .creationRetries => some "4294967295"
  | .commitRetries => some "4294967295"
  | _ => none

def tireless : Config where
  brokers := ["k1:9092"]
  transactionalId := "svc"
  resultsTopic := defaultTopic
  httpAddress := defaultAddress
  operationLimit := .ofMillis 10000
  creationRetries := 4294967295
  commitRetries := 4294967295
  backoffBase := .ofMillis 100
  backoffCap := .ofMillis 5000

/-- The table is accepted. The guard lets the largest word through; no number of failures makes a
loop give up, and after `2 ^ 32` of them it has counted none. -/
theorem tireless_goes_round :
    read tirelessTable = .ok tireless ∧
    tireless.creationBackoff.canRetry 4294967295 = true ∧
    tireless.commitBackoff.canRetry 4294967295 = true ∧
    (∀ (loop : Loop) (k : Nat), ∃ task, (loop.failing tireless k).world.tasks[0]? = some task ∧
      task.activity.loop? = some (loop, .ofNat k) ∧
      (loop.errors ((loop.failing tireless k).failures 0)).length = k) ∧
    ∀ loop : Loop, ∃ task, (loop.failing tireless 4294967296).world.tasks[0]? = some task ∧
      task.activity.loop? = some (loop, 0) ∧
      (loop.errors ((loop.failing tireless 4294967296).failures 0)).length = 4294967296 := by
  have goes_round (loop : Loop) (k : Nat) : ∃ task,
      (loop.failing tireless k).world.tasks[0]? = some task ∧
      task.activity.loop? = some (loop, .ofNat k) ∧
      (loop.errors ((loop.failing tireless k).failures 0)).length = k := by
    have largest : UInt32.size ≤ (loop.retries tireless.service).toNat + 1 := by
      rcases loop with _ | _ | _ <;> exact Nat.le_refl _
    obtain ⟨task, -, ht, -, inside, failed⟩ :=
      loop.goes_round tireless k (loop.unlimited_of_largest largest)
    exact ⟨task, ht, inside, failed⟩
  exact ⟨by decide +kernel, by decide, by decide, goes_round, fun loop => goes_round loop _⟩

end Config

end OutcomeRelay
