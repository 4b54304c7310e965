import Mathlib.Tactic.Abel
import OutcomeRelay.Lists
import OutcomeRelay.Proofs.Holdings
import OutcomeRelay.Proofs.Session
import OutcomeRelay.Proofs.Step

set_option autoImplicit false

namespace OutcomeRelay

theorem heldInSlots_clear_le (slots : Slots Handle) (name : String) :
    heldInSlots (slots.clear name) ≤ heldInSlots slots :=
  Multiset.coe_le.mpr (List.filter_sublist.map _).subperm

theorem heldInSlots_put_le (slots : Slots Handle) (name : String) (h : Handle) :
    heldInSlots (slots.put name h) ≤ {h.hold} + heldInSlots slots := by
  have rest := heldInSlots_clear_le slots name
  exact Multiset.cons_le_cons h.hold rest

theorem heldBare_put_le (slots : Slots SessionId) (name : String) (s : SessionId) :
    heldBare (slots.put name s) ≤ {((s, none) : Hold)} + heldBare slots := by
  have rest : heldBare (slots.clear name) ≤ heldBare slots :=
    Multiset.coe_le.mpr (List.filter_sublist.map _).subperm
  exact Multiset.cons_le_cons _ rest

theorem heldInSlots_take {slots : Slots Handle} {name : String} {h : Handle}
    (hl : slots.lookup name = some h) :
    heldInSlots (slots.clear name) + {h.hold} ≤ heldInSlots slots := by
  induction slots with
  | nil => simp at hl
  | cons slot slots ih =>
    obtain ⟨other, x⟩ := slot
    by_cases same : name = other
    · subst other
      obtain rfl : x = h := by simpa using hl
      have gone : Slots.clear ((name, x) :: slots) name = Slots.clear slots name := by
        simp [Slots.clear]
      rw [gone, add_comm]
      exact Multiset.cons_le_cons x.hold (heldInSlots_clear_le slots name)
    · have kept :
          Slots.clear ((other, x) :: slots) name = (other, x) :: Slots.clear slots name := by
        simp [Slots.clear, Ne.symm same]
      have rest := ih (by simpa [List.lookup_cons, beq_eq_false_iff_ne.mpr same] using hl)
      rw [kept]
      exact Multiset.cons_le_cons x.hold rest

namespace World

variable {w : World}

theorem exists_pools_rest {M : Type} [AddCommMonoid M] (f : Pool → M) {i : Nat}
    {service : Service} (h : w.services[i]? = some service) :
    ∃ rest, (w.services.map fun s => f s.pool).sum = f service.pool + rest ∧
      ∀ pool : Pool, ((w.services.modify i fun s => { s with pool := pool }).map
        fun s => f s.pool).sum = f pool + rest := by
  refine ⟨_, sum_map_eq_add (fun s : Service => f s.pool) h, fun pool => ?_⟩
  rw [modify_eq_set _ h, sum_map_set _ h]

def heldBesides (w : World) (index : Nat) : Multiset Hold :=
  w.heldIdle + ((w.tasks.eraseIdx index).map Task.held).sum + heldInSlots w.handles +
    heldBare w.sessions

theorem held_add_heldBesides {index : Nat} {task : Task} (ht : w.tasks[index]? = some task) :
    task.held + w.heldBesides index = w.held := by
  simp only [held, heldBesides, sum_map_eq_add Task.held ht]
  abel

theorem mem_heldIdle {service : Service} {handle : Handle} (hs : service ∈ w.services)
    (hh : handle ∈ service.pool.idle) : handle.hold ∈ w.heldIdle := by
  have idle : handle.hold ∈ service.pool.held := Multiset.mem_coe.mpr (List.mem_map_of_mem hh)
  exact mem_sum_map (f := fun s : Service => s.pool.held) hs idle

theorem mem_heldInSlots {slots : Slots Handle} {slot : String × Handle} (h : slot ∈ slots) :
    slot.2.hold ∈ heldInSlots slots :=
  Multiset.mem_coe.mpr (List.mem_map.mpr ⟨slot, h, rfl⟩)

theorem mem_heldBare {slots : Slots SessionId} {slot : String × SessionId} (h : slot ∈ slots) :
    (slot.2, none) ∈ heldBare slots :=
  Multiset.mem_coe.mpr (List.mem_map.mpr ⟨slot, h, rfl⟩)

theorem mem_heldOthers (index : Nat) {other : Nat} {task : Task} {hold : Hold}
    (ht : w.tasks[other]? = some task) (hne : other ≠ index) (hh : hold ∈ task.held) :
    hold ∈ ((w.tasks.eraseIdx index).map Task.held).sum :=
  mem_sum_map (List.mem_eraseIdx_iff_getElem?.mpr ⟨other, hne, ht⟩) hh

theorem mem_held_of_task {index : Nat} {task : Task} {hold : Hold}
    (ht : w.tasks[index]? = some task) (hh : hold ∈ task.held) : hold ∈ w.held := by
  rw [← held_add_heldBesides ht]
  exact Multiset.mem_add.mpr (.inl hh)

theorem Asks.mem_held {activity : Activity} {session : SessionId} {id : String} {request : Request}
    (h : Asks activity session id request) (answer : Option Signal) :
    (session, some id) ∈ activity.held answer := by
  cases h with
  | drain handle handles closed => exact Multiset.mem_coe.mpr List.mem_cons_self
  | _ => exact Multiset.mem_singleton_self _

theorem Told.isNews {index : Nat} {task : Task} {signal : Signal} {note : Option Note}
    (h : w.Told index task signal note) : signal.IsNews task.answer := by
  cases h with
  | turn | awake => exact .inr (.inl rfl)
  | answer h => exact .inr (.inr h)
  | silence => exact .inl rfl

theorem signal_held_le {index : Nat} {task : Task} {service : Service} {s : Signal}
    {given : Multiset Hold} (ht : w.tasks[index]? = some task) (hs : w.service? task = some service)
    (moved : (move service task s).held ≤ given + service.pool.held) :
    (w.signal index task s).held ≤ given + w.heldBesides index := by
  obtain ⟨pools, hp, hp'⟩ := exists_pools_rest Pool.held hs
  have slots : heldInSlots (w.signal index task s).handles ≤
      ((move service task s).lent.elim 0 fun lent => {lent.2.hold}) + heldInSlots w.handles := by
    rw [signal_handles hs]
    cases (move service task s).lent with
    | none => simp
    | some lent => exact heldInSlots_put_le w.handles lent.1 lent.2
  unfold held heldBesides heldIdle
  rw [signal_services hs, signal_tasks hs, signal_sessions hs, hp, hp', sum_map_set _ ht]
  -- Compared hold by hold, the sums are numbers.
  apply Multiset.le_iff_count.mpr
  intro hold
  have counts := Multiset.le_iff_count.mp moved hold
  have slot_counts := Multiset.le_iff_count.mp slots hold
  simp only [Move.held, Multiset.count_add] at counts slot_counts ⊢
  simp only [Task.held, moved_activity, moved_answer] at counts ⊢
  omega

theorem signal_held {index : Nat} {task : Task} {service : Service} {s : Signal}
    (ht : w.tasks[index]? = some task) (hs : w.service? task = some service)
    (news : s.IsNews task.answer) : (w.signal index task s).held ≤ w.held :=
  (signal_held_le ht hs (task.activity.resume_held service task.cancelled news)).trans_eq
    (held_add_heldBesides ht)

theorem Begins.held_le {base : World} {activity : Activity} {note : Option Note}
    (h : w.Begins base activity note) : base.held + activity.held none ≤ w.held := by
  cases h with
  | publish millis topic payload =>
    by_cases now : millis = 0 <;> simp [Activity.begin, now, Activity.held]
  | reject error | borrow slot => simp [Activity.held]
  | create slot id => simp [Activity.held, Attempt.held]
  | release h | operate h request =>
    have slots := heldInSlots_take h
    apply Multiset.le_iff_count.mpr
    intro hold
    have counts := Multiset.le_iff_count.mp slots hold
    simp only [held, heldIdle, Activity.held, Multiset.count_add] at counts ⊢
    omega
  | @shutdown service s h =>
    obtain ⟨pools, hp, hp'⟩ := exists_pools_rest Pool.held h
    have drained : Activity.held none (.draining s.pool.drain.1 s.pool.drain.1.length) =
        s.pool.held := by
      simp [Activity.held, Pool.drain, Pool.held]
    have empty : s.pool.drain.2.held = 0 := rfl
    apply le_of_eq
    rw [drained]
    unfold held heldIdle setPool
    rw [hp', hp, empty]
    abel
  | @createNext service s h slot ids id =>
    obtain ⟨pools, hp, hp'⟩ := exists_pools_rest Pool.held h
    have same : Pool.held { s.pool with ids := ids } = s.pool.held := rfl
    unfold held heldIdle setPool
    rw [hp', hp, same]
    simp [Activity.held, Attempt.held]

theorem addTask_held (base : World) (task : Task) :
    (base.addTask task).held = base.held + task.activity.held none := by
  simp only [held, heldIdle, addTask_services, addTask_tasks, addTask_handles, addTask_sessions,
    List.map_append, List.map_cons, List.map_nil, List.sum_append, List.sum_singleton, Task.held,
    moved_activity, moved_answer]
  abel

theorem setTask_held {index : Nat} {task next : Task} {news : Multiset Hold}
    (ht : w.tasks[index]? = some task) (hn : next.held ≤ task.held + news) :
    (w.setTask index next).held ≤ w.held + news := by
  unfold held heldIdle
  simp only [setTask_services, setTask_tasks, setTask_handles, setTask_sessions,
    sum_map_eq_add _ ht, sum_map_set _ ht]
  apply Multiset.le_iff_count.mpr
  intro hold
  have counts := Multiset.le_iff_count.mp hn hold
  simp only [Multiset.count_add] at counts ⊢
  omega

theorem setTask_held_le {index : Nat} {task next : Task} (ht : w.tasks[index]? = some task)
    (hn : next.held ≤ task.held) : (w.setTask index next).held ≤ w.held := by
  have kept : (w.setTask index next).held ≤ w.held + 0 := setTask_held ht (by simpa using hn)
  simpa using kept

theorem slots_held {handles : Slots Handle} {sessions : Slots SessionId} {news : Multiset Hold}
    (hh : heldInSlots handles ≤ heldInSlots w.handles)
    (hs : heldBare sessions ≤ heldBare w.sessions + news) :
    World.held { w with handles := handles, sessions := sessions } ≤ w.held + news := by
  unfold held heldIdle
  refine (add_le_add (add_le_add le_rfl hh) hs).trans_eq ?_
  rw [add_assoc _ (heldBare w.sessions)]

theorem handles_held {handles : Slots Handle} (hh : heldInSlots handles ≤ heldInSlots w.handles) :
    World.held { w with handles := handles } ≤ w.held := by
  have kept : World.held { w with handles := handles } ≤ w.held + 0 := slots_held hh (by simp)
  simpa using kept

theorem opened_held {task : Task} {id : String} {limit : Span}
    (hd : w.demand task = .connection id limit) (s : SessionId) :
    Task.held { task with answer := some (.opened s) } ≤
      task.held + {((s, some id) : Hold)} := by
  rcases connecting_of_demand hd with ⟨purpose, failures, ha⟩ | ⟨slot, ha⟩ <;>
    simp [Task.held, ha, Activity.held, Creation.held, Attempt.held]

end World

theorem Task.answered_held (task : Task) (reply : Reply) :
    Task.held { task with answer := some (.answered reply) } ≤ task.held := by
  have attempts (id : String) (attempt : Attempt) :
      attempt.held id (some (.answered reply)) ≤ attempt.held id task.answer := by
    cases attempt <;> simp [Attempt.held]
  unfold Task.held
  cases task.activity with
  | creating purpose id creation =>
    cases creation with
    | trying failures attempt => exact attempts id attempt
    | pausing failures => exact le_rfl
  | making slot id attempt => exact attempts id attempt
  | _ => exact le_rfl

namespace Cluster

variable (c : Cluster) (s : SessionId)

theorem producer?_perform (other : SessionId) (request : Request) :
    (c.perform s request).2.producer? other = c.producer? other := by
  unfold producer?
  rcases c.perform_cases s request with ⟨error, failure, faults, h⟩ | ⟨session, hs, -, h⟩
  · rw [h]
    simp only [fail, List.getElem?_modify]
    cases c.sessions[other]? with
    | none => rfl
    | some x =>
      by_cases same : s = other <;> simp [same]
  · have kept : (request.effect session c.broker).1.id = session.id := by
      cases request with
      | close => simp only [Request.effect]; split <;> rfl
      | _ => rfl
    rw [h]
    by_cases same : s = other
    · subst other
      simp [apply, hs, kept, List.getElem?_set_self (List.getElem?_eq_some_iff.mp hs).1]
    · simp [apply, List.getElem?_set_ne same]

theorem producer?_join {other : SessionId} {old : String} (h : c.producer? other = some old)
    (id : String) : (c.join id).producer? other = some old := by
  simp only [producer?, Option.map_eq_some_iff] at h ⊢
  obtain ⟨session, hs, hid⟩ := h
  refine ⟨session, ?_, hid⟩
  rw [join, List.getElem?_append_left (List.getElem?_eq_some_iff.mp hs).1, hs]

theorem producer?_join_length (id : String) :
    (c.join id).producer? c.sessions.length = some id := by
  simp [producer?, join]

theorem lt_of_producer? {id : String} (h : c.producer? s = some id) : s < c.sessions.length := by
  simp only [producer?, Option.map_eq_some_iff] at h
  obtain ⟨session, hs, _⟩ := h
  exact (List.getElem?_eq_some_iff.mp hs).1

/-- A hold names a session, and no handle bears another transactional id than its session. -/
def Knows (hold : Hold) : Prop :=
  ∃ id, c.producer? hold.1 = some id ∧ ∀ other, hold.2 = some other → other = id

end Cluster

namespace World

/-- A step leaves nothing held that was not held before, but for the session that it opens. -/
theorem Step.held_cases {w next : World} {note : Option Note} (hstep : w.Step note next) :
    (next.held ≤ w.held ∧
      ∀ s id, w.cluster.producer? s = some id → next.cluster.producer? s = some id) ∨
    ∃ hold id, hold.1 = w.cluster.sessions.length ∧ (∀ other, hold.2 = some other → other = id) ∧
      next.cluster = w.cluster.join id ∧ next.held ≤ w.held + {hold} := by
  cases hstep with
  | same | tick time | adjusted offline refusals faults => exact .inl ⟨le_rfl, fun _ _ hp => hp⟩
  | @begun base task note hb =>
    have cluster : (base.addTask task).cluster = w.cluster := by rw [addTask_cluster, hb.cluster]
    refine .inl ⟨?_, fun _ _ hp => cluster ▸ hp⟩
    rw [addTask_held]
    exact hb.held_le
  | told ht hs ht' =>
    exact .inl ⟨signal_held ht hs ht'.isNews, fun _ _ hp => signal_cluster hs ▸ hp⟩
  | @opened index task id limit ht hd ha =>
    refine .inr ⟨(w.cluster.sessions.length, some id), id, rfl, by simp, rfl, ?_⟩
    exact setTask_held (w := w.putCluster (w.cluster.join id)) ht (opened_held hd _)
  | @refused index task id limit ht hd ha refusals error =>
    refine .inl ⟨?_, fun _ _ hp => hp⟩
    exact setTask_held_le (w := w.putCluster _) ht (task.answered_held _)
  | @answered index task session id request limit ht hd ha =>
    refine .inl ⟨?_, fun _ _ hp => by simpa [putCluster, Cluster.producer?_perform] using hp⟩
    exact setTask_held_le (w := w.putCluster _) ht (task.answered_held _)
  | crashed ht hd text => exact .inl ⟨setTask_held_le ht (Multiset.zero_le _), fun _ _ hp => hp⟩
  | flagged ht => exact .inl ⟨setTask_held_le ht le_rfl, fun _ _ hp => hp⟩
  | forgot slot =>
    exact .inl ⟨handles_held (heldInSlots_clear_le _ _), fun _ _ hp => hp⟩
  | @spoiled slot handle hl =>
    have same : handle.markFatal.hold = handle.hold := by simp [Handle.hold]
    have slots : heldInSlots (w.handles.put slot handle.markFatal) ≤ heldInSlots w.handles := by
      have taken := heldInSlots_take hl
      rw [← same, add_comm] at taken
      exact taken
    exact .inl ⟨handles_held slots, fun _ _ hp => hp⟩
  | joined slot id =>
    refine .inr ⟨(w.cluster.sessions.length, none), id, rfl, by simp, rfl, ?_⟩
    refine slots_held (w := w.putCluster (w.cluster.join id)) le_rfl ?_
    rw [add_comm]
    exact heldBare_put_le _ _ _
  | requested hl request =>
    exact .inl ⟨le_rfl, fun _ _ hp => by simpa [putCluster, Cluster.producer?_perform] using hp⟩

/-- No session is held twice, and handles bear the transactional ids of their sessions. -/
structure Owned (w : World) : Prop where
  nodup : (w.held.map Prod.fst).Nodup
  known : ∀ hold ∈ w.held, w.cluster.Knows hold

namespace Owned

variable {w next : World}

theorem of_le (h : w.Owned) (hle : next.held ≤ w.held)
    (hc : ∀ s id, w.cluster.producer? s = some id → next.cluster.producer? s = some id) :
    next.Owned where
  nodup := Multiset.nodup_of_le (Multiset.map_le_map hle) h.nodup
  known hold hold_mem := by
    obtain ⟨id, hs, hid⟩ := h.known hold (Multiset.mem_of_le hle hold_mem)
    exact ⟨id, hc _ _ hs, hid⟩

theorem of_join (h : w.Owned) {id : String} (hold : Hold)
    (hn : hold.1 = w.cluster.sessions.length) (hid : ∀ other, hold.2 = some other → other = id)
    (hc : next.cluster = w.cluster.join id) (hle : next.held ≤ w.held + {hold}) :
    next.Owned where
  nodup := by
    refine Multiset.nodup_of_le (Multiset.map_le_map hle) ?_
    rw [add_comm, Multiset.map_add, Multiset.map_singleton, Multiset.singleton_add,
      Multiset.nodup_cons]
    refine ⟨?_, h.nodup⟩
    intro hmem
    obtain ⟨old, old_mem, hold_eq⟩ := Multiset.mem_map.mp hmem
    obtain ⟨old_id, hs, _⟩ := h.known old old_mem
    have hlt := w.cluster.lt_of_producer? _ hs
    rw [hold_eq, hn] at hlt
    exact Nat.lt_irrefl _ hlt
  known other other_mem := by
    rw [hc]
    rcases Multiset.mem_add.mp (Multiset.mem_of_le hle other_mem) with old | new
    · obtain ⟨old_id, hs, old_eq⟩ := h.known other old
      exact ⟨old_id, w.cluster.producer?_join hs id, old_eq⟩
    · rw [Multiset.mem_singleton.mp new]
      exact ⟨id, hn ▸ w.cluster.producer?_join_length id, hid⟩

theorem initial (partitions : Nat) {services : List Service}
    (h : ∀ service ∈ services, service.pool.idle = []) :
    (World.initial partitions services).Owned := by
  have empty : (World.initial partitions services).held = 0 := by
    have pools : (services.map (·.pool.held)).sum = 0 := by
      apply List.sum_eq_zero
      intro held held_mem
      obtain ⟨service, hs, rfl⟩ := List.mem_map.mp held_mem
      simp [Pool.held, h service hs]
    simp [World.initial, World.held, World.heldIdle, pools, heldInSlots, heldBare]
  exact ⟨by simp [empty], by simp [empty]⟩

theorem apart (h : w.Owned) {here there : Multiset Hold} (hle : here + there ≤ w.held)
    {a b : Hold} (ha : a ∈ here) (hb : b ∈ there) : a.1 ≠ b.1 := by
  have nodup := Multiset.nodup_of_le (Multiset.map_le_map (f := Prod.fst) hle) h.nodup
  rw [Multiset.map_add, Multiset.nodup_add] at nodup
  intro same
  exact Multiset.disjoint_left.mp nodup.2.2 (Multiset.mem_map_of_mem _ ha)
    (same ▸ Multiset.mem_map_of_mem _ hb)

theorem step (h : w.Owned) {note : Option Note} (hstep : w.Step note next) : next.Owned := by
  rcases hstep.held_cases with ⟨hle, hc⟩ | ⟨hold, id, hn, hid, hc, hle⟩
  · exact h.of_le hle hc
  · exact h.of_join hold hn hid hc hle

end Owned

end World

end OutcomeRelay
