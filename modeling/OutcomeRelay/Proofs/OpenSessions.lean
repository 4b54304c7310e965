import OutcomeRelay.Proofs.SettledSessions

set_option autoImplicit false

namespace OutcomeRelay

theorem World.card_idle (w : World) :
    w.idle.card = (w.services.map (·.pool.idle.length)).sum := by
  unfold idle
  induction w.services with
  | nil => rfl
  | cons service services ih =>
    rw [List.map_cons, List.sum_cons, Multiset.card_add, ih, List.map_cons, List.sum_cons]
    simp [sessionsOf]

namespace World.Settled

variable {w : World} {opened : Multiset (Nat × SessionId)} {closed stranded : Multiset SessionId}

theorem card_closed (h : w.Settled opened closed stranded) :
    closed.card = w.cluster.sessions.countP (·.closed) := by
  have part : closed ≤ Multiset.range w.cluster.sessions.length := by
    rw [← h.numbered, ← h.balance, add_right_comm]
    exact Multiset.le_add_left _ _
  have same : closed = (Multiset.range w.cluster.sessions.length).filter
      fun s => w.cluster.sessions[s]?.any (·.closed) = true := by
    refine (Multiset.Nodup.ext (Multiset.nodup_of_le part (Multiset.nodup_range _))
      ((Multiset.nodup_range _).filter _)).mpr fun s => ?_
    rw [Multiset.mem_filter, Multiset.mem_range]
    constructor
    · intro hs
      have known := Multiset.mem_range.mp (Multiset.mem_of_le part hs)
      have flag := (h.flags s _ (List.getElem?_eq_getElem known)).mpr hs
      exact ⟨known, by simp [List.getElem?_eq_getElem known, flag]⟩
    · rintro ⟨known, flag⟩
      refine (h.flags s _ (List.getElem?_eq_getElem known)).mp ?_
      simpa [List.getElem?_eq_getElem known] using flag
  rw [same, ← countP_range, ← Multiset.countP_eq_card_filter, Multiset.range, Multiset.coe_countP]
  simp

theorem openSessions_eq (h : w.Settled opened closed stranded) :
    w.cluster.openSessions = w.idle.card + w.inUse.card + stranded.card := by
  have numbers := congrArg Multiset.card (h.balance.trans h.numbered)
  simp only [Multiset.card_add, Multiset.card_range, h.card_closed] at numbers
  have parts := List.length_eq_countP_add_countP (fun s : Session => s.closed)
    (l := w.cluster.sessions)
  simp only [Cluster.openSessions, Bool.not_eq_true] at parts ⊢
  simp only [Bool.decide_eq_false] at parts
  omega

end World.Settled

namespace Run

variable (r : Run)

def opened : Multiset (Nat × SessionId) := r.start.gather World.opens r.events

def closed : Multiset SessionId := r.start.gather World.closes r.events

/-- The sessions that a panic has left without an owner. -/
def stranded : Multiset SessionId := r.start.gather World.strands r.events

def givenUp : Multiset Nat := r.start.gather World.givesUp r.events

theorem gather_extend_one {α : Type} (f : World → Event → Multiset α) (event : Event) :
    (r.extend [event]).start.gather f (r.extend [event]).events =
      r.start.gather f r.events + f r.world event := by
  refine (r.start.gather_append f r.events [event]).trans ?_
  simp only [World.gather, add_zero]
  rfl

theorem devoted (events : ∀ event ∈ r.events, event.isPublishing = true ∨ event.isCrash = true) :
    r.world.Devoted := by
  induction r using by_events with
  | idle r nothing =>
    constructor <;> simp [world, nothing, start, World.run, World.initial]
  | event r e ih =>
    have before := ih fun other ho => events other (List.mem_append_left _ ho)
    rw [extend_world]
    exact before.apply (r.free_world ▸ r.free.regular)
      (events e (List.mem_append_right _ List.mem_cons_self))

theorem loud : r.world.Loud := by
  induction r using by_events with
  | idle r nothing => simp [World.Loud, world, nothing, start, World.run, World.initial]
  | event r e ih =>
    rw [extend_world]
    exact ih.step (r.world.step_apply e)

/-- Publishes, and panics among them, account for every session if no connection and no closing is
given up. -/
theorem settled (events : ∀ event ∈ r.events, event.isPublishing = true ∨ event.isCrash = true)
    (met : r.givenUp = 0) : r.world.Settled r.opened r.closed r.stranded := by
  induction r using by_events with
  | idle r nothing =>
    have empty := world_of_idle nothing
    have idle : r.world.idle = 0 := by
      rw [empty, World.idle]
      refine List.sum_eq_zero fun sessions hs => ?_
      obtain ⟨service, member, rfl⟩ := List.mem_map.mp hs
      simp [r.fresh service member]
    constructor
    · rw [idle]
      simp [empty, World.inUse, World.initial, opened, closed, stranded, nothing, World.gather]
    · simp [empty, World.initial, opened, nothing, World.gather, Cluster.empty]
    · simp [empty, World.initial, Cluster.empty]
    · intro k service hk g hg
      rw [empty] at hk
      simp [r.fresh service (List.mem_of_getElem? hk)] at hg
    · simp [empty, World.initial]
    · simp [empty, World.initial]
  | event r e ih =>
    have earlier : ∀ event ∈ r.events, event.isPublishing = true ∨ event.isCrash = true :=
      fun other ho => events other (List.mem_append_left _ ho)
    have parts : r.givenUp = 0 ∧ r.world.givesUp e = 0 := by
      rw [givenUp, gather_extend_one] at met
      simpa [givenUp] using met
    have settled := ih earlier parts.1
    have turned := settled.turn (r.free_world ▸ r.free.allReady)
      (World.apply_turns (r.devoted earlier) (r.free_world ▸ r.free.regular) r.loud
        (events e (List.mem_append_right _ List.mem_cons_self)) parts.2)
    rw [opened, closed, stranded, gather_extend_one, gather_extend_one, gather_extend_one,
      extend_world]
    exact turned

theorem mem_stranded {before after : List Event} {i : Nat} {text : String}
    (panics : r.events = before ++ .crash i text :: after) {task : Task}
    (ht : (r.start.run before).tasks[i]? = some task) {session : SessionId} {id : String}
    {request : Request} {limit : Option Span}
    (hd : (r.start.run before).demand task = .answer session id request limit)
    (other : request ≠ .close) : session ∈ r.stranded := by
  have used : session ∈ task.activity.inUse task.answer :=
    (World.asks_of_demand hd).mem_inUse other task.answer
  have strands : session ∈ (r.start.run before).strands (.crash i text) := by
    simp [World.strands, ht, hd, Demand.isCall, used]
  rw [stranded, panics, World.gather_append]
  exact Multiset.mem_add.mpr (.inr (Multiset.mem_add.mpr (.inl strands)))

theorem inUse_eq_zero
    (events : ∀ event ∈ r.events, event.isPublishing = true ∨ event.isCrash = true)
    (quiet : r.world.Quiet) (unlent : ∀ task ∈ r.world.tasks, task.activity.handles = []) :
    r.world.inUse = 0 := by
  refine List.sum_eq_zero fun sessions hs => ?_
  obtain ⟨task, ht, rfl⟩ := List.mem_map.mp hs
  have still := quiet task ht
  have nothing := unlent task ht
  rcases (r.devoted events).serves task ht with serves | ⟨text, crashed⟩
  · cases ha : task.activity with
    | draining handles closed =>
      obtain rfl : handles = [] := by simpa [ha, Activity.handles] using nothing
      rfl
    | ended outcome => rfl
    | _ => simp_all [Activity.serves]
  · rw [crashed]
    rfl

/-- Publishes, among them some whose calls panic, while connections and closings are answered in
time. When no publish is in flight and no task has a producer, the open sessions are those of
the idle producers and those that panics have left behind. So nothing is left open besides what
is idle if and only if no panic has left a session behind, and every panic of a call on a session
other than the closing leaves that session behind for good. -/
theorem open_iff_idle
    (events : ∀ event ∈ r.events, event.isPublishing = true ∨ event.isCrash = true)
    (met : r.givenUp = 0) (quiet : r.world.Quiet)
    (unlent : ∀ task ∈ r.world.tasks, task.activity.handles = []) :
    r.world.cluster.openSessions =
      (r.world.services.map (·.pool.idle.length)).sum + r.stranded.card ∧
    (r.world.cluster.openSessions = (r.world.services.map (·.pool.idle.length)).sum ↔
      r.stranded = 0) ∧
    ∀ (before after : List Event) (i : Nat) (text : String) (task : Task) (session : SessionId)
      (id : String) (request : Request) (limit : Option Span),
      r.events = before ++ .crash i text :: after → (r.start.run before).tasks[i]? = some task →
      (r.start.run before).demand task = .answer session id request limit → request ≠ .close →
      session ∈ r.stranded ∧ r.world.cluster.sessions[session]?.any (·.closed) = false := by
  have settled := r.settled events met
  have total : r.world.cluster.openSessions =
      (r.world.services.map (·.pool.idle.length)).sum + r.stranded.card := by
    rw [settled.openSessions_eq, r.inUse_eq_zero events quiet unlent, r.world.card_idle]
    rfl
  refine ⟨total, ?_, ?_⟩
  · rw [total, ← Multiset.card_eq_zero]
    omega
  · intro before after i text task session id request limit panics ht hd other
    have left := r.mem_stranded panics ht hd other
    refine ⟨left, ?_⟩
    -- A session that is left behind is not closed as well.
    have once : (r.closed + r.stranded).Nodup := by
      refine Multiset.nodup_of_le ?_ settled.nodup
      rw [← settled.balance, add_assoc (r.world.idle + r.world.inUse)]
      exact Multiset.le_add_left _ _
    have unclosed : session ∉ r.closed := fun closed =>
      Multiset.disjoint_left.mp (Multiset.nodup_add.mp once).2.2 closed left
    cases hs : r.world.cluster.sessions[session]? with
    | none => rfl
    | some s =>
      have flag := mt (settled.flags session s hs).mp unclosed
      simpa using flag

/-- A transaction panics when it begins. -/
def beginPanics : Run :=
  hasty 0 [.start 0 (.publish 0 "results" ⟨#[1]⟩) false, .proceed 0, .effect 0, .deliver 0,
    .effect 0, .deliver 0, .crash 0 "boom"]

theorem beginPanics_strands :
    (∀ event ∈ beginPanics.events, event.isPublishing = true ∨ event.isCrash = true) ∧
    beginPanics.givenUp = 0 ∧ beginPanics.world.Quiet ∧
    (∀ task ∈ beginPanics.world.tasks, task.activity.handles = []) ∧
    beginPanics.world.outcome? 0 = some (.crashed "boom") ∧
    beginPanics.world.cluster.openSessions ≠
      (beginPanics.world.services.map (·.pool.idle.length)).sum := by
  decide +kernel

def twoCommitting : List Event :=
  [.start 0 (.publish 0 "results" ⟨#[1]⟩) false, .start 0 (.publish 0 "results" ⟨#[2]⟩) false,
    .proceed 0, .proceed 1, .effect 0, .effect 1, .deliver 0, .deliver 1, .effect 0, .effect 1,
    .deliver 0, .deliver 1, .effect 0, .effect 1, .deliver 0, .deliver 1, .effect 0, .effect 1,
    .deliver 0, .deliver 1]

/-- One of the commits panics. -/
def commitPanics : Run :=
  hasty 0 (twoCommitting ++ [.crash 0 "boom", .effect 1, .deliver 1, .proceed 1])

theorem commitPanics_stranded :
    commitPanics.world.cluster.openSessions =
      (commitPanics.world.services.map (·.pool.idle.length)).sum + commitPanics.stranded.card ∧
    (commitPanics.world.services.map (·.pool.idle.length)).sum = 1 ∧
    0 ∈ commitPanics.stranded ∧
    commitPanics.world.cluster.sessions[0]?.any (·.closed) = false := by
  have events : ∀ event ∈ commitPanics.events,
      event.isPublishing = true ∨ event.isCrash = true := by decide +kernel
  have met : commitPanics.givenUp = 0 := by decide +kernel
  have quiet : commitPanics.world.Quiet := by decide +kernel
  have unlent : ∀ task ∈ commitPanics.world.tasks, task.activity.handles = [] := by
    decide +kernel
  obtain ⟨total, -, left⟩ := commitPanics.open_iff_idle events met quiet unlent
  let handle : Handle :=
    { session := 0, brokers := ["b"], id := "svc-1", status := .inTransaction, limit := .ofSecs 10 }
  let task : Task :=
    { service := 0
      activity := .transacting
        { handle := handle
          topic := "results"
          payload := ⟨#[1]⟩
          phase := .performing .commit 0 } }
  have ht : (commitPanics.start.run twoCommitting).tasks[0]? = some task := by decide +kernel
  have hd : (commitPanics.start.run twoCommitting).demand task =
      .answer 0 "svc-1" .commit (some (.ofSecs 10)) := by decide +kernel
  exact ⟨total, by decide +kernel, left twoCommitting _ 0 "boom" task 0 _ _ _ rfl ht hd (by simp)⟩

end Run

end OutcomeRelay
