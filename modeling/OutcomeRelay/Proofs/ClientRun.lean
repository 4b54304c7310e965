import OutcomeRelay.Proofs.Ending
import OutcomeRelay.Proofs.Resumption
import OutcomeRelay.World.Client

set_option autoImplicit false

namespace OutcomeRelay

/-- What a task does that was spawned: it publishes until it has a result, unless its report is
turned down or a call panics. -/
def Activity.Spawned (activity : Activity) : Prop :=
  activity.Publishes ∨ (∃ error, activity = .ended (.rejected error)) ∨
    ∃ text, activity = .ended (.crashed text)

theorem Activity.Spawned.outcome {activity : Activity} (h : activity.Spawned) {outcome : Outcome}
    (ended : activity.outcome? = some outcome) :
    (∃ result, outcome = .published result) ∨ (∃ error, outcome = .rejected error) ∨
      ∃ text, outcome = .crashed text := by
  rcases h with (publishes | ⟨result, rfl⟩) | ⟨error, rfl⟩ | ⟨text, rfl⟩
  · cases activity with
    | ended => simp [isPublish] at publishes
    | _ => simp [outcome?] at ended
  · exact .inl ⟨result, (Option.some.inj ended).symm⟩
  · exact .inr (.inl ⟨error, (Option.some.inj ended).symm⟩)
  · exact .inr (.inr ⟨text, (Option.some.inj ended).symm⟩)

namespace World

variable {w : World} {i : Nat} {task : Task}

theorem Regular.follow_activity {P : Activity → Prop} (h : w.Regular)
    (ht : w.tasks[i]? = some task) (hP : P task.activity)
    (resumes : ∀ activity service cancelled signal, P activity →
      (activity.demand service).EndsWith signal →
      P (activity.resume service cancelled signal).activity)
    (crashes : ∀ activity service text, P activity → (activity.demand service).isCall = true →
      P (.ended (.crashed text))) (later : List Occurrence) :
    ∃ new, (w.follow later).tasks[i]? = some new ∧ P new.activity := by
  induction later generalizing w task with
  | nil => exact ⟨task, ht, hP⟩
  | cons o later ih =>
    obtain ⟨service, hs⟩ := h.service ht
    obtain ⟨new, hn, goes_on⟩ := h.undergo_activity ht hP o
      (fun service signal ends => resumes _ service task.cancelled signal hP ends)
      fun index text _ called => crashes _ service text hP (demand_of_service hs ▸ called)
    exact ih (h.undergo o) hn goes_on

theorem Regular.follow_ended (h : w.Regular) (ht : w.tasks[i]? = some task) {outcome : Outcome}
    (ended : task.activity = .ended outcome) (later : List Occurrence) :
    ∃ new, (w.follow later).tasks[i]? = some new ∧ new.activity = .ended outcome := by
  refine h.follow_activity (P := (· = .ended outcome)) ht ended ?_ ?_ later
  · rintro _ service cancelled signal rfl -
    rfl
  · rintro _ service text rfl called
    simp [Activity.demand, Demand.isCall] at called

theorem Regular.follow_spawned (h : w.Regular) (ht : w.tasks[i]? = some task)
    (spawned : task.activity.Spawned) (later : List Occurrence) :
    ∃ new, (w.follow later).tasks[i]? = some new ∧ new.activity.Spawned := by
  refine h.follow_activity ht spawned ?_ (fun _ _ text _ _ => .inr (.inr ⟨text, rfl⟩)) later
  rintro activity service cancelled signal (publishes | ⟨error, rfl⟩ | ⟨text, rfl⟩) -
  · exact .inl (publishes.resume service cancelled signal)
  · exact .inr (.inl ⟨error, rfl⟩)
  · exact .inr (.inr ⟨text, rfl⟩)

theorem Regular.length_le_follow (h : w.Regular) (later : List Occurrence) :
    w.tasks.length ≤ (w.follow later).tasks.length := by
  induction later generalizing w with
  | nil => exact le_rfl
  | cons o later ih => exact (length_le_undergo h o).trans (ih (h.undergo o))

theorem start_spawned {service : Nat} {job : Job} {cancelled : Bool} (spawns : job.spawns = true)
    (begun : w.tasks.length < (w.start service job cancelled).tasks.length) :
    ∃ task, (w.start service job cancelled).tasks[w.tasks.length]? = some task ∧
      task.activity.Spawned := by
  have added (task : Task) (spawned : task.activity.Spawned) :
      ∃ task', (w.addTask task).tasks[w.tasks.length]? = some task' ∧ task'.activity.Spawned :=
    ⟨w.moved task task.activity, by simp, spawned⟩
  unfold start at begun ⊢
  cases hs : w.services[service]? with
  | none => simp [hs] at begun
  | some s =>
    cases job with
    | publish after topic payload =>
      refine added _ (.inl (.inl ?_))
      simp only [Activity.begin]
      split <;> rfl
    | report message stamp =>
      dsimp only
      split
      · exact added _ (.inr (.inl ⟨_, rfl⟩))
      · exact added _ (.inl (.inl rfl))
    | borrow | release | shutdown | create | operate => simp [Job.spawns] at spawns

theorem quit_services : (w.quit i).services = w.services := by
  unfold quit
  split
  · rfl
  · split
    · rfl
    · rename_i task _ _
      cases task.activity.leaves? <;> rfl

theorem quit_tasks (ht : w.tasks[i]? = some task) (going : task.activity.outcome? = none) :
    (w.quit i).tasks = w.tasks.set i (w.moved task (.ended .dropped)) := by
  simp only [quit, ht, going]
  cases task.activity.leaves? <;> rfl

theorem quit_cases (w : World) (i : Nat) : (w.quit i).tasks = w.tasks ∨
    ∃ task, w.tasks[i]? = some task ∧ task.activity.outcome? = none ∧
      (w.quit i).tasks = w.tasks.set i (w.moved task (.ended .dropped)) := by
  cases ht : w.tasks[i]? with
  | none => simp [quit, ht]
  | some task =>
    cases going : task.activity.outcome? with
    | none => exact .inr ⟨task, rfl, going, quit_tasks ht going⟩
    | some outcome => simp [quit, ht, going]

theorem quit_getElem?_ne {j : Nat} (other : i ≠ j) : (w.quit i).tasks[j]? = w.tasks[j]? := by
  rcases w.quit_cases i with same | ⟨task, -, -, set⟩
  · rw [same]
  · rw [set, List.getElem?_set_ne other]

theorem quit_length (w : World) (i : Nat) : (w.quit i).tasks.length = w.tasks.length := by
  rcases w.quit_cases i with same | ⟨task, -, -, set⟩
  · rw [same]
  · rw [set, List.length_set]

theorem quit_ended {j : Nat} (ht : w.tasks[j]? = some task) {outcome : Outcome}
    (ended : task.activity = .ended outcome) : (w.quit i).tasks[j]? = some task := by
  rcases w.quit_cases i with same | ⟨quitter, hq, going, set⟩
  · rw [same, ht]
  · have other : i ≠ j := by
      rintro rfl
      obtain rfl := Option.some.inj (ht.symm.trans hq)
      simp [ended, Activity.outcome?] at going
    rw [set, List.getElem?_set_ne other, ht]

theorem Regular.quit (h : w.Regular) (i : Nat) : (w.quit i).Regular := by
  have demand (other : Task) : (w.quit i).demand other = w.demand other := by
    simp only [World.demand, World.service?, quit_services]
  have tasks (other : Task) (ho : other ∈ (w.quit i).tasks) :
      other ∈ w.tasks ∨ ∃ task ∈ w.tasks, other = w.moved task (.ended .dropped) := by
    rcases w.quit_cases i with same | ⟨task, ht, -, set⟩
    · exact .inl (same ▸ ho)
    · rw [set] at ho
      exact (List.mem_or_eq_of_mem_set ho).imp_right fun moved =>
        ⟨task, List.mem_of_getElem? ht, moved⟩
  constructor
  · intro other ho s hs
    rw [demand]
    rcases tasks other ho with kept | ⟨task, -, rfl⟩
    · exact h.answers other kept s hs
    · simp [moved] at hs
  · intro other ho
    simp only [World.service?, quit_services]
    rcases tasks other ho with kept | ⟨task, ht, rfl⟩
    · exact h.services other kept
    · exact h.services task ht

theorem AllReady.quit (h : w.AllReady) (i : Nat) : (w.quit i).AllReady := by
  unfold AllReady
  rw [quit_services]
  exact h

end World

namespace Simulation

variable (s : Simulation)

def undergo (s : Simulation) : Occurrence → Simulation
  | .event event => s.step event
  | .answer task reply => { s with world := s.world.undergo (.answer task reply) }

theorem start_world (service : Nat) (job : Job) (cancelled : Bool) (cancelAt : Option Nat) :
    (s.start service job cancelled cancelAt).2.world = s.world.start service job cancelled := by
  have waits (s : Simulation) (index : Nat) :
      (s.setCancellation index cancelAt).world = s.world := by
    unfold setCancellation
    split
    · rfl
    · split <;> rfl
  simp only [start, arm_world, waits, step_world]
  rfl

theorem act_follows (i fuel : Nat) : ∃ later, (act i fuel s).world = s.world.follow later := by
  induction fuel generalizing s with
  | zero => exact ⟨[], rfl⟩
  | succ fuel ih =>
    unfold act
    split
    · exact ⟨[], rfl⟩
    · rename_i event _
      obtain ⟨later, he⟩ := ih (s.step event)
      exact ⟨.event event :: later, by rw [he, step_world]; rfl⟩

theorem run_follows (goal : Goal) (n : Nat) :
    ∃ later, (run goal n s).1.world = s.world.follow later := by
  obtain ⟨events, he⟩ := run_events goal n s
  exact ⟨events.map .event, by rw [he, World.follow, List.foldl_map]; rfl⟩

end Simulation

namespace Client

inductive Happening where
  | occurs (o : Occurrence)
  | runs (goal : Simulation.Goal) (fuel : Nat)
  | calls (call : Call)
  | polls (f : Nat)
  | drops (f : Nat)
  | writes (b : Nat) (buffer : Buffer)
  | cancels (token : Nat)

def happen (c : Client) : Happening → Client
  | .occurs o => { c with simulation := c.simulation.undergo o }
  | .runs goal fuel => { c with simulation := (Simulation.run goal fuel c.simulation).1 }
  | .calls call => c.call call
  | .polls f => c.poll f
  | .drops f => c.drop f
  | .writes b buffer => c.write b buffer
  | .cancels token => c.cancel token

def follow (c : Client) (later : List Happening) : Client := later.foldl happen c

variable {c : Client} {f : Nat}

theorem settle_world (c : Client) (f : Nat) : (c.settle f).world = c.world := by
  unfold settle
  split
  · rfl
  · split <;> rfl

theorem cancel_world (c : Client) (token : Nat) :
    ∃ later, (c.cancel token).world = c.world.follow later := by
  simp only [cancel, world]
  generalize c.clones.filter (·.1 = token) = clones
  generalize c.simulation = s
  induction clones generalizing s with
  | nil => exact ⟨[], rfl⟩
  | cons clone clones ih =>
    obtain ⟨later, he⟩ := ih (s.cancel clone.2)
    refine ⟨.event (.cancel clone.2) :: later, ?_⟩
    rw [List.foldl_cons, he]
    simp [Simulation.cancel]
    rfl

end Client

theorem Work.job_spawns (work : Work) (buffers : Nat → Buffer) :
    (work.job buffers).spawns = work.spawns := by
  cases work <;> rfl

def Future.Suits (w : World) (future : Future) : Prop :=
  match future.stage with
  | .joining n => future.call.work.spawns = true ∧
      ∃ task, w.tasks[n]? = some task ∧ task.activity.Spawned
  | .driving n => future.call.work.spawns = false ∧ n < w.tasks.length
  | _ => True

/-- Futures suit the tasks of a world, and no two of them have the same one. -/
structure World.Serves (w : World) (futures : List Future) : Prop where
  regular : w.Regular
  ready : w.AllReady
  suits : ∀ (f : Nat) (future : Future), futures[f]? = some future → future.Suits w
  apart : ∀ (f g : Nat) (a b : Future) (n : Nat), futures[f]? = some a → futures[g]? = some b →
    a.stage.task? = some n → b.stage.task? = some n → f = g

namespace Future

variable {w : World} {future : Future} {n : Nat}

theorem suits_of_idle (idle : future.stage.task? = none) : future.Suits w := by
  obtain ⟨call, stage⟩ := future
  cases stage with
  | joining | driving => simp [Stage.task?] at idle
  | unpolled | resolved | dropped => trivial

theorem Suits.known (h : future.Suits w) (own : future.stage.task? = some n) :
    n < w.tasks.length := by
  obtain ⟨call, stage⟩ := future
  cases stage with
  | joining m =>
    obtain rfl : m = n := Option.some.inj own
    obtain ⟨-, task, ht, -⟩ := h
    exact (List.getElem?_eq_some_iff.mp ht).1
  | driving m =>
    obtain rfl : m = n := Option.some.inj own
    exact h.2
  | unpolled | resolved | dropped => simp [Stage.task?] at own

theorem Suits.follow (h : future.Suits w) (regular : w.Regular) (later : List Occurrence) :
    future.Suits (w.follow later) := by
  obtain ⟨call, stage⟩ := future
  cases stage with
  | joining m =>
    obtain ⟨spawns, task, ht, spawned⟩ := h
    exact ⟨spawns, regular.follow_spawned ht spawned later⟩
  | driving m => exact ⟨h.1, h.2.trans_le (regular.length_le_follow later)⟩
  | unpolled | resolved | dropped => trivial

theorem Suits.quit (h : future.Suits w) (other : future.stage.task? ≠ some n) :
    future.Suits (w.quit n) := by
  obtain ⟨call, stage⟩ := future
  cases stage with
  | joining m =>
    have apart : n ≠ m := fun same => other (by rw [same]; rfl)
    obtain ⟨spawns, task, ht, spawned⟩ := h
    exact ⟨spawns, task, (World.quit_getElem?_ne apart).trans ht, spawned⟩
  | driving m => exact ⟨h.1, h.2.trans_le (w.quit_length n).ge⟩
  | unpolled | resolved | dropped => trivial

theorem of_modify {futures : List Future} {f g : Nat} {stage : Stage} {new : Future}
    (h : (futures.modify f fun future => { future with stage := stage })[g]? = some new) :
    (f = g ∧ ∃ old, futures[g]? = some old ∧ new = { old with stage := stage }) ∨
      (f ≠ g ∧ futures[g]? = some new) := by
  rw [List.getElem?_modify] at h
  by_cases same : f = g
  · obtain ⟨old, ho, rfl⟩ := Option.map_eq_some_iff.mp h
    exact .inl ⟨same, old, ho, by simp [same]⟩
  · exact .inr ⟨same, by simpa [same] using h⟩

end Future

namespace World.Serves

variable {w : World} {futures : List Future} {f n : Nat} {stage : Stage}

theorem follow (h : w.Serves futures) (later : List Occurrence) :
    (w.follow later).Serves futures where
  regular := h.regular.follow later
  ready := h.ready.follow later
  suits f future hf := (h.suits f future hf).follow h.regular later
  apart := h.apart

theorem call (h : w.Serves futures) (call : Client.Call) :
    w.Serves (futures ++ [{ call := call }]) := by
  have old (f : Nat) (future : Future) (hf : (futures ++ [{ call := call }])[f]? = some future) :
      futures[f]? = some future ∨ future.stage = .unpolled := by
    rw [List.getElem?_append] at hf
    split at hf
    · exact .inl hf
    · refine .inr ?_
      obtain rfl := List.mem_singleton.mp (List.mem_of_getElem? hf)
      rfl
  constructor
  · exact h.regular
  · exact h.ready
  · intro f future hf
    rcases old f future hf with kept | fresh
    · exact h.suits f future kept
    · exact Future.suits_of_idle (by simp [fresh, Stage.task?])
  · intro f g a b n ha hb own own'
    rcases old f a ha with ha | fresh
    · rcases old g b hb with hb | fresh
      · exact h.apart f g a b n ha hb own own'
      · simp [fresh, Stage.task?] at own'
    · simp [fresh, Stage.task?] at own

theorem restage (h : w.Serves futures)
    (suits : ∀ old, futures[f]? = some old → Future.Suits w { old with stage := stage })
    (own : ∀ (g : Nat) (other : Future) (n : Nat), futures[g]? = some other →
      stage.task? = some n → other.stage.task? ≠ some n) :
    w.Serves (futures.modify f fun future => { future with stage := stage }) := by
  constructor
  · exact h.regular
  · exact h.ready
  · intro g new hn
    rcases Future.of_modify hn with ⟨rfl, old, ho, rfl⟩ | ⟨-, kept⟩
    · exact suits old ho
    · exact h.suits g new kept
  · intro g k a b n ha hb ha' hb'
    rcases Future.of_modify ha with ⟨rfl, old, -, rfl⟩ | ⟨-, ha⟩ <;>
      rcases Future.of_modify hb with ⟨rfl, old, -, rfl⟩ | ⟨-, hb⟩
    · rfl
    · exact absurd hb' (own k b n hb ha')
    · exact absurd ha' (own g a n ha hb')
    · exact h.apart g k a b n ha hb ha' hb'

theorem rest (h : w.Serves futures) (idle : stage.task? = none) :
    w.Serves (futures.modify f fun future => { future with stage := stage }) :=
  h.restage (fun _ _ => Future.suits_of_idle idle) (by simp [idle])

theorem engage (h : w.Serves futures) {call : Client.Call}
    (hf : futures[f]? = some ⟨call, .unpolled⟩) (later : List Occurrence)
    (own : stage.task? = some w.tasks.length)
    (suits : Future.Suits (w.follow later) ⟨call, stage⟩) :
    (w.follow later).Serves (futures.modify f fun future => { future with stage := stage }) := by
  refine (h.follow later).restage (fun old ho => ?_) fun g other n hg here taken => ?_
  · obtain rfl := Option.some.inj (hf.symm.trans ho)
    exact suits
  · -- The task is new, so that no other future can have had it.
    obtain rfl : w.tasks.length = n := Option.some.inj (own.symm.trans here)
    exact ((h.suits g other hg).known taken).false

theorem quit (h : w.Serves futures) {future : Future} (hf : futures[f]? = some future)
    (own : future.stage.task? = some n) :
    (w.quit n).Serves (futures.modify f fun future => { future with stage := .dropped }) := by
  have rested : w.Serves (futures.modify f fun future => { future with stage := .dropped }) :=
    h.rest rfl
  refine ⟨h.regular.quit n, h.ready.quit n, fun g new hn => ?_, rested.apart⟩
  refine (rested.suits g new hn).quit fun same => ?_
  rcases Future.of_modify hn with ⟨-, old, -, rfl⟩ | ⟨other, kept⟩
  · simp [Stage.task?] at same
  · exact other (h.apart f g future new n hf kept own same)

end World.Serves

namespace Client

variable {c : Client}

def Sound (c : Client) : Prop := c.world.Serves c.futures

theorem begin_cases (regular : c.world.Regular) (f : Nat) (call : Call) : c.begin f call = c ∨
    ∃ s stage later, c.begin f call =
        { c with
          simulation := s
          clones := (call.token, c.world.tasks.length) :: c.clones }.setStage f stage ∧
      s.world = c.world.follow later ∧ stage.task? = some c.world.tasks.length ∧
      Future.Suits s.world ⟨call, stage⟩ := by
  have world : (c.started call).world = c.world.start call.service (call.work.job c.buffers)
    (c.tokens call.token).cancelled := c.simulation.start_world _ _ _ _
  obtain ⟨first, started⟩ : ∃ first, (c.started call).world = c.world.follow first :=
    ⟨[.event (.start _ _ _)], world⟩
  simp only [begin]
  generalize c.started call = s at *
  have known : s.world.Regular := started ▸ regular.follow _
  split
  · rename_i begun
    split
    · rename_i spawns
      refine .inr ⟨s, .joining c.world.tasks.length, first, rfl, started, rfl, spawns, ?_⟩
      rw [world] at begun ⊢
      exact World.start_spawned ((Work.job_spawns _ _).trans spawns) begun
    · rename_i waits
      obtain ⟨later, acts⟩ := s.act_follows c.world.tasks.length s.fuel
      refine .inr ⟨_, .driving c.world.tasks.length, first ++ later, rfl, ?_, rfl,
        by simpa using waits, ?_⟩
      · rw [acts, started, World.follow_append]
      · rw [acts]
        exact begun.trans_le (known.length_le_follow later)
  · exact .inl rfl

theorem Sound.begin (h : c.Sound) {f : Nat} {call : Call}
    (hf : c.futures[f]? = some ⟨call, .unpolled⟩) : (c.begin f call).Sound := by
  rcases begin_cases h.regular f call with same | ⟨s, stage, later, begun, world, own, suits⟩
  · rwa [same]
  · rw [begun]
    rw [world] at suits
    have engaged := World.Serves.engage h hf later own suits
    rw [← world] at engaged
    exact engaged

theorem Sound.settle (h : c.Sound) (f : Nat) : (c.settle f).Sound := by
  unfold Client.settle
  split
  · exact h
  · split
    · exact h
    · exact World.Serves.rest h rfl

theorem Sound.poll (h : c.Sound) (f : Nat) : (c.poll f).Sound := by
  unfold Client.poll
  split
  · exact (h.begin ‹_›).settle f
  · exact h.settle f

theorem Sound.drop (h : c.Sound) (f : Nat) : (c.drop f).Sound := by
  unfold Client.drop
  split
  · split
    · exact World.Serves.rest h rfl
    · rename_i slot _
      have forgets : (c.simulation.step (.forget slot)).world =
          c.world.follow [.event (.forget slot)] := Simulation.step_world _
      have forgot : (c.simulation.step (.forget slot)).world.Serves c.futures :=
        forgets ▸ World.Serves.follow h _
      exact forgot.rest rfl
  · exact World.Serves.rest h rfl
  · rename_i task hf
    have quits : (c.simulation.quit task).world = c.world.quit task := Simulation.arm_world _
    have quit := World.Serves.quit h hf rfl
    rw [← quits] at quit
    exact quit
  · exact h

theorem Sound.onward (h : c.Sound) {next : Client} (futures : next.futures = c.futures)
    (world : ∃ later, next.world = c.world.follow later) : next.Sound := by
  obtain ⟨later, world⟩ := world
  rw [Sound, futures, world]
  exact World.Serves.follow h later

theorem Sound.happen (h : c.Sound) (happening : Happening) : (c.happen happening).Sound := by
  cases happening with
  | occurs o =>
    refine h.onward rfl ⟨[o], ?_⟩
    cases o with
    | event event => exact c.simulation.step_world event
    | answer task reply => rfl
  | runs goal fuel => exact h.onward rfl (c.simulation.run_follows goal fuel)
  | calls call => exact World.Serves.call h call
  | polls f => exact h.poll f
  | drops f => exact h.drop f
  | writes b buffer =>
    simp only [Client.happen, write]
    split
    · exact h
    · exact h
  | cancels token => exact h.onward rfl (c.cancel_world token)

theorem poll_world (regular : c.world.Regular) (f : Nat) :
    ∃ later, (c.poll f).world = c.world.follow later := by
  unfold poll
  split
  · rename_i call _
    rcases begin_cases regular f call with same | ⟨s, stage, later, begun, world, -, -⟩
    · exact ⟨[], by rw [same, settle_world]; rfl⟩
    · exact ⟨later, by rw [begun, settle_world]; exact world⟩
  · exact ⟨[], c.settle_world f⟩

theorem drop_world (c : Client) (f : Nat) : (∃ later, (c.drop f).world = c.world.follow later) ∨
    ∃ call n, c.futures[f]? = some ⟨call, .driving n⟩ ∧ (c.drop f).world = c.world.quit n := by
  unfold drop
  split
  · split
    · exact .inl ⟨[], rfl⟩
    · exact .inl ⟨[.event (.forget _)], c.simulation.step_world _⟩
  · exact .inl ⟨[], rfl⟩
  · rename_i call n hf
    exact .inr ⟨call, n, hf, Simulation.arm_world n⟩
  · exact .inl ⟨[], rfl⟩

/-- Whatever happens to a client is something that happens to its world, but for a task that is
given up with its future. -/
theorem happen_world (regular : c.world.Regular) (happening : Happening) :
    (∃ later, (c.happen happening).world = c.world.follow later) ∨
      ∃ f call n, happening = .drops f ∧ c.futures[f]? = some ⟨call, .driving n⟩ ∧
        (c.happen happening).world = c.world.quit n := by
  cases happening with
  | occurs o =>
    cases o with
    | event event => exact .inl ⟨[.event event], c.simulation.step_world event⟩
    | answer task reply => exact .inl ⟨[.answer task reply], rfl⟩
  | runs goal fuel => exact .inl (c.simulation.run_follows goal fuel)
  | calls call => exact .inl ⟨[], rfl⟩
  | polls f => exact .inl (poll_world regular f)
  | drops f =>
    rcases c.drop_world f with goes_on | ⟨call, n, hf, quits⟩
    · exact .inl goes_on
    · exact .inr ⟨f, call, n, rfl, hf, quits⟩
  | writes b buffer =>
    refine .inl ⟨[], ?_⟩
    simp only [happen, write]
    split <;> rfl
  | cancels token => exact .inl (c.cancel_world token)

theorem Sound.follow (h : c.Sound) (later : List Happening) : (c.follow later).Sound := by
  induction later generalizing c with
  | nil => exact h
  | cons happening later ih => exact ih (h.happen happening)

theorem Sound.follow_ended (h : c.Sound) {i : Nat} {task : Task} {outcome : Outcome}
    (ht : c.world.tasks[i]? = some task) (ended : task.activity = .ended outcome)
    (later : List Happening) :
    ∃ new, (c.follow later).world.tasks[i]? = some new ∧ new.activity = .ended outcome := by
  induction later generalizing c task with
  | nil => exact ⟨task, ht, ended⟩
  | cons happening later ih =>
    rcases happen_world h.regular happening with ⟨events, world⟩ | ⟨f, call, n, -, -, world⟩
    · obtain ⟨new, hn, still⟩ := h.regular.follow_ended ht ended events
      exact ih (h.happen happening) (world ▸ hn) still
    · exact ih (h.happen happening) (world ▸ World.quit_ended ht ended) ended

/-- No future is dropped that runs its task by its own polls. -/
def Keeps (c : Client) : List Happening → Prop
  | [] => True
  | happening :: later =>
    (∀ f call n, happening = .drops f → c.futures[f]? ≠ some ⟨call, .driving n⟩) ∧
      (c.happen happening).Keeps later

theorem Sound.follow_world (h : c.Sound) {later : List Happening} (keeps : c.Keeps later) :
    ∃ happenings, (c.follow later).world = c.world.follow happenings := by
  induction later generalizing c with
  | nil => exact ⟨[], rfl⟩
  | cons happening later ih =>
    obtain ⟨rest, world⟩ := ih (h.happen happening) keeps.2
    rcases happen_world h.regular happening with ⟨first, here⟩ | ⟨f, call, n, drops, hf, -⟩
    · refine ⟨first ++ rest, ?_⟩
      rw [World.follow_append, ← here]
      exact world
    · exact absurd hf (keeps.1 f call n drops)

end Client

structure ClientRun where
  partitions : Nat
  services : List Service
  script : Script
  happenings : List Client.Happening
  fresh : ∀ service ∈ services, service.pool.idle = []

namespace ClientRun

def start (r : ClientRun) : Client where
  simulation := { world := World.initial r.partitions r.services, script := r.script }

def client (r : ClientRun) : Client := r.start.follow r.happenings

theorem start_sound (r : ClientRun) : r.start.Sound :=
  let idle : FreeRun := ⟨r.partitions, r.services, [], r.fresh⟩
  ⟨idle.regular, idle.allReady, by simp [start], by simp [start]⟩

theorem sound (r : ClientRun) : r.client.Sound := r.start_sound.follow r.happenings

/-- The worlds of clients that drop no future of a job that is not spawned are those of free
runs. -/
theorem exists_freeRun (r : ClientRun) (keeps : r.start.Keeps r.happenings) :
    ∃ free : FreeRun, free.services = r.services ∧ free.world = r.client.world := by
  obtain ⟨happenings, world⟩ := r.start_sound.follow_world keeps
  exact ⟨⟨r.partitions, r.services, happenings, r.fresh⟩, rfl, world.symm⟩

end ClientRun

end OutcomeRelay
