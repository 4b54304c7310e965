import Mathlib.Data.Multiset.Range
import OutcomeRelay.Proofs.Turnover

set_option autoImplicit false

namespace OutcomeRelay

theorem Session.perform_closed (s : Session) (b : Broker) (request : Request) :
    (s.perform b request).2.1.closed = (s.closed || decide (request = .close)) := by
  by_cases closes : request = .close
  · subst closes
    simp only [perform]
    split <;> simp_all
  · rcases s.perform_cases b request with ⟨error, failure, faults, h⟩ | ⟨-, h⟩
    · simp [h, closes]
    · cases request <;> simp_all [Request.effect]

theorem Cluster.perform_closed {c : Cluster} {s t : SessionId} {request : Request}
    {session : Session} (h : (c.perform s request).2.sessions[t]? = some session) :
    ∃ old, c.sessions[t]? = some old ∧
      (session.closed = true ↔ old.closed = true ∨ (request = .close ∧ t = s)) := by
  unfold perform at h
  cases hs : c.sessions[s]? with
  | none =>
    simp only [hs] at h
    have other : t ≠ s := by
      rintro rfl
      simp [hs] at h
    exact ⟨session, h, by simp [other]⟩
  | some own =>
    simp only [hs] at h
    rcases eq_or_ne t s with rfl | other
    · rw [List.getElem?_set_self (List.getElem?_eq_some_iff.mp hs).1] at h
      obtain rfl := Option.some.inj h
      refine ⟨own, hs, ?_⟩
      rw [own.perform_closed]
      simp
    · rw [List.getElem?_set_ne other.symm] at h
      exact ⟨session, h, by simp [other]⟩

namespace World

variable {w next : World}

/-- Every session that was ever opened is idle, in use, closed or left behind, and it belongs to the
pool that it was opened for. -/
structure Settled (w : World) (opened : Multiset (Nat × SessionId))
    (closed stranded : Multiset SessionId) : Prop where
  balance : w.idle + w.inUse + closed + stranded = opened.map Prod.snd
  numbered : opened.map Prod.snd = Multiset.range w.cluster.sessions.length
  flags : ∀ s session, w.cluster.sessions[s]? = some session →
    (session.closed = true ↔ s ∈ closed)
  pools : ∀ k service, w.services[k]? = some service →
    ∀ g ∈ service.pool.idle, (k, g.session) ∈ opened
  tasks : ∀ task ∈ w.tasks, ∀ s ∈ task.activity.inUse task.answer, (task.service, s) ∈ opened
  unclosed : ∀ task ∈ w.tasks, task.activity.Unclosed

namespace Settled

variable {opened opens : Multiset (Nat × SessionId)}
  {closed closes stranded strands : Multiset SessionId}

theorem nodup (h : w.Settled opened closed stranded) : (opened.map Prod.snd).Nodup :=
  h.numbered ▸ Multiset.nodup_range _

theorem lt_of_mem (h : w.Settled opened closed stranded) {s : SessionId}
    (hs : s ∈ w.idle + w.inUse + closed + stranded) : s < w.cluster.sessions.length := by
  rw [h.balance, h.numbered] at hs
  exact Multiset.mem_range.mp hs

theorem still (h : w.Settled opened closed stranded) (services : next.services = w.services)
    (sessions : next.cluster.sessions = w.cluster.sessions)
    (tasks : next.tasks.map (fun t => (t.service, t.activity, t.activity.inUse t.answer)) =
      w.tasks.map fun t => (t.service, t.activity, t.activity.inUse t.answer)) :
    next.Settled opened closed stranded := by
  have idle : next.idle = w.idle := by rw [World.idle, services]; rfl
  have inUse : next.inUse = w.inUse := by
    have uses := congrArg (List.map fun t => t.2.2) tasks
    simp only [List.map_map, Function.comp_def] at uses
    rw [World.inUse, uses]
    rfl
  -- A task has become what another task was before.
  have before {new : Task} (hn : new ∈ next.tasks) : ∃ old ∈ w.tasks,
      (old.service, old.activity, old.activity.inUse old.answer) =
        (new.service, new.activity, new.activity.inUse new.answer) :=
    List.mem_map.mp (tasks ▸ List.mem_map_of_mem hn)
  constructor
  · rw [idle, inUse, h.balance]
  · rw [sessions, h.numbered]
  · rw [sessions]
    exact h.flags
  · rw [services]
    exact h.pools
  · intro new hn s hs
    obtain ⟨old, ho, same⟩ := before hn
    simp only [Prod.mk.injEq] at same
    exact same.1 ▸ h.tasks old ho s (same.2.2 ▸ hs)
  · intro new hn
    obtain ⟨old, ho, same⟩ := before hn
    simp only [Prod.mk.injEq] at same
    exact same.2.1 ▸ h.unclosed old ho

theorem begun (h : w.Settled opened closed stranded) {new : Task}
    (services : next.services = w.services)
    (sessions : next.cluster.sessions = w.cluster.sessions) (tasks : next.tasks = w.tasks ++ [new])
    (handles : new.activity.handles = []) (unused : new.activity.inUse new.answer = 0) :
    next.Settled opened closed stranded := by
  have idle : next.idle = w.idle := by rw [World.idle, services]; rfl
  have inUse : next.inUse = w.inUse := by simp [World.inUse, tasks, unused]
  constructor
  · rw [idle, inUse, h.balance]
  · rw [sessions, h.numbered]
  · rw [sessions]
    exact h.flags
  · rw [services]
    exact h.pools
  · intro task ht s hs
    rcases List.mem_append.mp (tasks ▸ ht) with old | added
    · exact h.tasks task old s hs
    · obtain rfl := List.eq_of_mem_singleton added
      simp [unused] at hs
  · intro task ht
    rcases List.mem_append.mp (tasks ▸ ht) with old | added
    · exact h.unclosed task old
    · obtain rfl := List.eq_of_mem_singleton added
      simp [Activity.Unclosed, handles]

theorem shut (h : w.Settled opened closed stranded)
    (ready : w.AllReady) {k count : Nat} {s : Service} {new : Task} (hs : w.services[k]? = some s)
    (services : next.services = (w.setPool k s.pool.drain.2).services)
    (sessions : next.cluster.sessions = w.cluster.sessions) (tasks : next.tasks = w.tasks ++ [new])
    (drains : (new.service, new.activity, new.answer) =
      (k, .draining s.pool.drain.1 count, none)) : next.Settled opened closed stranded := by
  simp only [Prod.mk.injEq] at drains
  obtain ⟨own, activity, answer⟩ := drains
  obtain ⟨pools, hp, hp'⟩ := exists_pools_rest (fun pool => sessionsOf pool.idle) hs
  have taken : new.activity.inUse new.answer = sessionsOf s.pool.idle := by
    rw [activity, answer, Activity.inUse_draining]
    simp [Pool.drain, sessionsOf]
  have balance : next.idle + next.inUse = w.idle + w.inUse := by
    simp only [World.idle, World.inUse, services, tasks, setPool, hp, hp', List.map_append,
      List.map_cons, List.map_nil, List.sum_append, List.sum_singleton, taken]
    simp only [Pool.drain, sessionsOf_nil]
    abel
  constructor
  · rw [balance, h.balance]
  · rw [sessions, h.numbered]
  · rw [sessions]
    exact h.flags
  · intro j service hj g hg
    rw [services] at hj
    rcases setPool_services_cases hj with ⟨rfl, old, -, rfl⟩ | ⟨-, kept⟩
    · simp [Pool.drain] at hg
    · exact h.pools j service kept g hg
  · intro task ht session hm
    rcases List.mem_append.mp (tasks ▸ ht) with old | added
    · exact h.tasks task old session hm
    · obtain rfl := List.eq_of_mem_singleton added
      rw [taken] at hm
      obtain ⟨g, hg, rfl⟩ := List.mem_map.mp (Multiset.mem_coe.mp hm)
      exact own ▸ h.pools k s hs g hg
  · intro task ht
    rcases List.mem_append.mp (tasks ▸ ht) with old | added
    · exact h.unclosed task old
    · obtain rfl := List.eq_of_mem_singleton added
      intro g hg
      have idle : g ∈ s.pool.idle := by simpa [activity, Activity.handles, Pool.drain] using hg
      simp [ready s (List.mem_of_getElem? hs) g idle]

theorem told (h : w.Settled opened closed stranded) (ready : w.AllReady) {i : Nat} {task : Task}
    {service : Service} {signal : Signal} (ht : w.tasks[i]? = some task)
    (hs : w.service? task = some service) (serving : task.activity.serves = true)
    (ends : (w.demand task).EndsWith signal) (news : signal.IsNews task.answer)
    (met : (w.demand task).mustBeMet = true → signal ≠ .silence) :
    (w.signal i task signal).Settled opened closed stranded := by
  have member : task ∈ w.tasks := List.mem_of_getElem? ht
  rw [demand_of_service hs] at ends met
  obtain ⟨pools, hp, hp'⟩ := exists_pools_rest (fun pool => sessionsOf pool.idle) hs
  have kept : (move service task signal).activity.inUse none +
      sessionsOf (move service task signal).pool.idle =
        task.activity.inUse task.answer + sessionsOf service.pool.idle :=
    Activity.resume_inUse service task.cancelled serving (h.unclosed task member) ends news met
  -- What the task or its pool has afterwards, one of them had before.
  have own {s : SessionId} (hs' : s ∈ (move service task signal).activity.inUse none +
      sessionsOf (move service task signal).pool.idle) : (task.service, s) ∈ opened := by
    rcases Multiset.mem_add.mp (kept ▸ hs') with used | idle
    · exact h.tasks task member s used
    · obtain ⟨g, hg, rfl⟩ := List.mem_map.mp (Multiset.mem_coe.mp idle)
      exact h.pools task.service service hs g hg
  have balance : (w.signal i task signal).idle + (w.signal i task signal).inUse =
      w.idle + w.inUse := by
    simp only [World.idle, World.inUse, signal_services hs, signal_tasks hs, hp, hp',
      sum_map_eq_add _ ht, sum_map_set _ ht, moved_activity, moved_answer]
    have both := congrArg (· + (pools + ((w.tasks.eraseIdx i).map fun task =>
      task.activity.inUse task.answer).sum)) kept
    calc _ = _ := by abel
      _ = _ := both
      _ = _ := by abel
  constructor
  · rw [balance, h.balance]
  · rw [signal_cluster hs, h.numbered]
  · rw [signal_cluster hs]
    exact h.flags
  · intro k later hk g hg
    rcases signal_services_cases hs hk with ⟨rfl, rfl⟩ | ⟨-, same⟩
    · exact own (Multiset.mem_add.mpr (.inr (Multiset.mem_coe.mpr (List.mem_map_of_mem hg))))
    · exact h.pools k later same g hg
  · rw [signal_tasks hs]
    intro other ho s hs'
    rcases List.mem_or_eq_of_mem_set ho with old | rfl
    · exact h.tasks other old s hs'
    · exact own (Multiset.mem_add.mpr (.inl hs'))
  · rw [signal_tasks hs]
    intro other ho
    rcases List.mem_or_eq_of_mem_set ho with old | rfl
    · exact h.unclosed other old
    · exact Activity.resume_unclosed service task.cancelled serving (h.unclosed task member)
        (ready service (List.mem_of_getElem? hs)) signal

theorem joined (h : w.Settled opened closed stranded) {i : Nat} {task : Task} {id : String}
    {limit : Span} (ht : w.tasks[i]? = some task) (hd : w.demand task = .connection id limit)
    (ha : task.answer = none) :
    ((w.putCluster (w.cluster.join id)).setTask i
      { task with answer := some (.opened w.cluster.sessions.length) }).Settled
        (opened + {(task.service, w.cluster.sessions.length)}) closed stranded := by
  have inUse : ((w.putCluster (w.cluster.join id)).setTask i
      { task with answer := some (.opened w.cluster.sessions.length) }).inUse =
        w.inUse + {w.cluster.sessions.length} := by
    simp only [World.inUse, setTask_tasks, putCluster, sum_map_eq_add _ ht, sum_map_set _ ht, ha,
      inUse_of_connection hd, Attempt.inUse]
    abel
  have numbered : (opened + {(task.service, w.cluster.sessions.length)}).map Prod.snd =
      Multiset.range (w.cluster.join id).sessions.length := by
    rw [Multiset.map_add, h.numbered, Multiset.map_singleton, Cluster.join, List.length_append,
      List.length_singleton, Multiset.range_succ, ← Multiset.singleton_add, add_comm]
  constructor
  · rw [inUse, Multiset.map_add, ← h.balance, Multiset.map_singleton]
    change w.idle + _ + _ + _ = _
    abel
  · exact numbered
  · intro s session hs
    rcases Nat.lt_or_ge s w.cluster.sessions.length with old | new
    · rw [setTask_cluster, putCluster, Cluster.join, List.getElem?_append_left old] at hs
      exact h.flags s session hs
    · rw [setTask_cluster, putCluster, Cluster.join, List.getElem?_append_right new] at hs
      obtain ⟨here, rfl⟩ :
          s - w.cluster.sessions.length = 0 ∧ ({ id := id } : Session) = session := by
        simpa [List.getElem?_singleton] using hs
      have fresh : s ∉ closed := fun hs =>
        absurd (h.lt_of_mem (Multiset.mem_add.mpr (.inl (Multiset.mem_add.mpr (.inr hs)))))
          (not_lt.mpr new)
      simp [fresh]
  · intro k service hk g hg
    exact Multiset.mem_add.mpr (.inl (h.pools k service hk g hg))
  · intro other ho s hs
    rcases List.mem_or_eq_of_mem_set ho with old | rfl
    · exact Multiset.mem_add.mpr (.inl (h.tasks other old s hs))
    · rw [inUse_of_connection hd, Attempt.inUse, Multiset.mem_singleton] at hs
      simp [hs]
  · intro other ho
    rcases List.mem_or_eq_of_mem_set ho with old | rfl
    · exact h.unclosed other old
    · exact h.unclosed task (List.mem_of_getElem? ht)

theorem asked (h : w.Settled opened closed stranded) {i : Nat} {task : Task} {session : SessionId}
    {id : String} {request : Request} {limit : Option Span} (ht : w.tasks[i]? = some task)
    (hd : w.demand task = .answer session id request limit) (ha : task.answer = none) :
    ((w.putCluster (w.cluster.perform session request).2).setTask i
      { task with answer := some (.answered (w.cluster.perform session request).1) }).Settled
        opened (closed + if request = .close then {session} else 0) stranded := by
  have split := (asks_of_demand hd).inUse (w.cluster.perform session request).1
  have numbers : (w.cluster.perform session request).2.sessions.length =
      w.cluster.sessions.length := w.cluster.length_perform session request
  have inUse : ((w.putCluster (w.cluster.perform session request).2).setTask i
      { task with answer := some (.answered (w.cluster.perform session request).1) }).inUse +
        (if request = .close then {session} else 0) = w.inUse := by
    simp only [World.inUse, setTask_tasks, putCluster, sum_map_eq_add _ ht, sum_map_set _ ht, ha,
      split]
    abel
  constructor
  · rw [← h.balance, ← inUse]
    change w.idle + _ + _ + _ = _
    abel
  · exact h.numbered.trans (congrArg Multiset.range numbers.symm)
  · intro s new hs
    obtain ⟨old, ho, flag⟩ := Cluster.perform_closed hs
    rw [flag, h.flags s old ho]
    by_cases closes : request = .close <;> simp [closes]
  · exact h.pools
  · intro other ho s hs
    rcases List.mem_or_eq_of_mem_set ho with old | rfl
    · exact h.tasks other old s hs
    · refine h.tasks task (List.mem_of_getElem? ht) s ?_
      rw [ha, split]
      exact Multiset.mem_add.mpr (.inr hs)
  · intro other ho
    rcases List.mem_or_eq_of_mem_set ho with old | rfl
    · exact h.unclosed other old
    · exact h.unclosed task (List.mem_of_getElem? ht)

theorem crashed (h : w.Settled opened closed stranded) {i : Nat} {task : Task}
    (ht : w.tasks[i]? = some task) (text : String) :
    (w.setTask i (w.moved task (.ended (.crashed text)))).Settled opened closed
      (stranded + task.activity.inUse task.answer) := by
  have inUse : (w.setTask i (w.moved task (.ended (.crashed text)))).inUse +
      task.activity.inUse task.answer = w.inUse := by
    simp only [World.inUse, setTask_tasks, sum_map_eq_add _ ht, sum_map_set _ ht, moved_activity]
    simp only [Activity.inUse, zero_add]
    abel
  constructor
  · rw [← h.balance, ← inUse]
    change w.idle + _ + _ + _ = _
    abel
  · exact h.numbered
  · exact h.flags
  · exact h.pools
  · intro other ho s hs
    rcases List.mem_or_eq_of_mem_set ho with old | rfl
    · exact h.tasks other old s hs
    · simp [Activity.inUse] at hs
  · intro other ho
    rcases List.mem_or_eq_of_mem_set ho with old | rfl
    · exact h.unclosed other old
    · simp [Activity.Unclosed, Activity.handles]

theorem turn (h : w.Settled opened closed stranded) (ready : w.AllReady)
    (turnover : w.Turnover opens closes strands next) :
    next.Settled (opened + opens) (closed + closes) (stranded + strands) := by
  cases turnover with
  | still services sessions tasks => simpa using h.still services sessions tasks
  | begun services sessions tasks handles unused =>
    simpa using h.begun services sessions tasks handles unused
  | shut hs services sessions tasks drains =>
    simpa using h.shut ready hs services sessions tasks drains
  | told ht hs serving ends news met => simpa using h.told ready ht hs serving ends news met
  | opened ht hd ha => simpa using h.joined ht hd ha
  | asked ht hd ha => simpa using h.asked ht hd ha
  | crashed ht text => simpa using h.crashed ht text

end Settled

end World

end OutcomeRelay
