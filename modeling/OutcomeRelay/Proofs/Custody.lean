import OutcomeRelay.Proofs.Passages

set_option autoImplicit false

namespace OutcomeRelay

abbrev Register := List Passage

namespace World

def register (w : World) (past : Register) : List Occurrence → Register
  | [] => past
  | o :: later => (w.undergo o).register (w.passages o ++ past) later

theorem register_append (w : World) (past : Register) (before after : List Occurrence) :
    w.register past (before ++ after) =
      (w.follow before).register (w.register past before) after := by
  induction before generalizing w past with
  | nil => rfl
  | cons o before ih => exact ih (w.undergo o) _

end World

def FreeRun.register (r : FreeRun) : Register := r.start.register [] r.happenings

theorem FreeRun.register_extend_one (r : FreeRun) (o : Occurrence) :
    (r.extend [o]).register = r.world.passages o ++ r.register :=
  r.start.register_append [] r.happenings [o]

namespace World

variable {w next : World} {passages reg : Register}

theorem signal_services_cases {i k : Nat} {task : Task} {service later : Service}
    {signal : Signal} (hs : w.service? task = some service)
    (hl : (w.signal i task signal).services[k]? = some later) :
    (task.service = k ∧ later = { service with pool := (move service task signal).pool }) ∨
      (task.service ≠ k ∧ w.services[k]? = some later) := by
  have hl : (w.setPool task.service (move service task signal).pool).services[k]? = some later := by
    rw [← hl, signal_services hs]
    rfl
  rcases setPool_services_cases hl with ⟨rfl, old, ho, rfl⟩ | other
  · obtain rfl := Option.some.inj (hs.symm.trans ho)
    exact .inl ⟨rfl, rfl⟩
  · exact .inr other

/-- Every handle that was ever made is kept or gone, and no session is made into two handles. -/
structure Complete (w : World) (reg : Register) : Prop where
  distinct : Slots.Distinct w.handles
  balanced : w.kept + departures reg = arrivals reg
  once : (arrivals reg).Nodup
  opened : ∀ s ∈ arrivals reg, s < w.cluster.sessions.length
  fresh : ∀ hold ∈ w.attempts, hold.1 ∉ arrivals reg

theorem Passing.distinct (h : w.Passing passages next) (distinct : Slots.Distinct w.handles) :
    Slots.Distinct next.handles := by
  cases h with
  | still services handles tasks => rwa [handles]
  | told ht hs news =>
    rw [signal_handles hs]
    split
    · exact distinct
    · exact distinct.put _ _
  | @begun base task note hb drains =>
    rw [addTask_handles]
    generalize task.activity = activity at hb
    cases hb with
    | release | operate => exact distinct.clear _
    | publish | reject | borrow | shutdown | create | createNext => exact distinct
  | crashed ht text => exact distinct
  | forgot slot => exact distinct.clear slot
  | spoiled hl => exact distinct.put _ _

theorem Passing.arrivals_le (h : w.Passing passages next) :
    arrivals passages ≤ w.attempts.map Prod.fst := by
  cases h with
  | still | spoiled => exact Multiset.zero_le _
  | @told i task service signal ht hs news =>
    have moves : task.activity.Moves service task.answer (move service task signal) :=
      task.activity.resume_moves service task.cancelled news
    rw [movePassages, arrivals_append, arrivals_replaced, add_zero]
    refine (moves.arrivals_le task.service).trans (Multiset.map_le_map ?_)
    rw [attempts, sum_map_eq_add _ ht]
    exact Multiset.le_add_right _ _
  | begun hb drains =>
    unfold entryPassages
    split <;> exact Multiset.zero_le _
  | crashed | forgot =>
    rw [arrivals_drops]
    exact Multiset.zero_le _

theorem Passing.kept_of_arrival (h : w.Passing passages next) {s : SessionId}
    (hs : s ∈ arrivals passages) : s ∈ next.kept := by
  cases h with
  | still | spoiled => simp at hs
  | @told i task service signal ht hs' news =>
    rw [movePassages, arrivals_append, arrivals_replaced, add_zero] at hs
    obtain ⟨g, hg, rfl⟩ := List.mem_map.mp
      (Multiset.mem_coe.mp (Multiset.mem_of_le (Activity.arrivals_le_handles _ _ _) hs))
    refine mem_kept.mpr ⟨g, mem_producers.mpr (.inr ?_), rfl⟩
    rcases List.mem_append.mp hg with own | lent
    · refine .inl ⟨w.moved task (move service task signal).activity, ?_, own⟩
      rw [signal_tasks hs']
      exact List.mem_set (List.getElem?_eq_some_iff.mp ht).1 _
    · refine .inr ?_
      rw [signal_handles hs']
      cases hl : (move service task signal).lent with
      | none => simp [hl] at lent
      | some slot =>
        obtain rfl : g = slot.2 := by simpa [hl] using lent
        exact ⟨slot, List.mem_cons_self, rfl⟩
  | begun hb drains =>
    unfold entryPassages at hs
    split at hs <;> simp [arrivals, Passage.made?] at hs
  | crashed | forgot => simp at hs

theorem Owned.opened_of_attempt (h : w.Owned) {hold : Hold} (hm : hold ∈ w.attempts) :
    hold.1 < w.cluster.sessions.length := by
  refine h.opened ?_
  rw [held_eq]
  exact Multiset.mem_add.mpr (.inl (Multiset.mem_add.mpr (.inr hm)))

theorem Complete.step (h : w.Complete reg) (passing : w.Passing passages next)
    (hstep : w.FreeStep next) (owned : w.Owned) : next.Complete (passages ++ reg) := by
  have attempted {s : SessionId} (hs : s ∈ arrivals passages) :
      ∃ hold ∈ w.attempts, hold.1 = s :=
    Multiset.mem_map.mp (Multiset.mem_of_le passing.arrivals_le hs)
  constructor
  · exact passing.distinct h.distinct
  · calc next.kept + departures (passages ++ reg)
        = next.kept + departures passages + departures reg := by
          rw [departures_append, add_assoc]
      _ = arrivals passages + (w.kept + departures reg) := by
          rw [passing.balanced h.distinct]
          abel
      _ = arrivals (passages ++ reg) := by rw [h.balanced, arrivals_append]
  · rw [arrivals_append, Multiset.nodup_add]
    refine ⟨?_, h.once, ?_⟩
    · have opened := (Multiset.nodup_add.mp owned.sessions_nodup).2.1
      exact Multiset.nodup_of_le passing.arrivals_le opened
    · refine Multiset.disjoint_left.mpr fun new old => ?_
      obtain ⟨hold, hm, rfl⟩ := attempted new
      exact h.fresh hold hm old
  · intro s hs
    refine lt_of_lt_of_le ?_ hstep.sessions_le
    rcases Multiset.mem_add.mp (arrivals_append passages reg ▸ hs) with new | old
    · obtain ⟨hold, hm, rfl⟩ := attempted new
      exact owned.opened_of_attempt hm
    · exact h.opened s old
  · intro hold hm hs
    rcases Multiset.mem_add.mp (arrivals_append passages reg ▸ hs) with new | old
    · have disjoint := (Multiset.nodup_add.mp (owned.freeStep hstep).sessions_nodup).2.2
      exact Multiset.disjoint_left.mp disjoint (passing.kept_of_arrival new)
        (Multiset.mem_map_of_mem _ hm)
    · obtain ⟨task, ht, attempting⟩ := mem_attempts.mp hm
      rcases hstep.descends.attempts task ht hold attempting with before | opened
      · exact h.fresh hold before old
      · exact absurd (h.opened _ old) (by rw [opened]; exact lt_irrefl _)

theorem Complete.initial (partitions : Nat) {services : List Service}
    (fresh : ∀ service ∈ services, service.pool.idle = []) :
    (World.initial partitions services).Complete [] := by
  have kept : (World.initial partitions services).kept = 0 := by
    have none_idle : services.flatMap (·.pool.idle) = [] := by simpa using fresh
    simp [World.kept, producers, World.initial, none_idle]
  constructor
  · exact List.nodup_nil
  · simp [kept]
  · simp
  · simp
  · simp

/-- The pool has created the handle, or was to be given it back. -/
def Entitled (reg : Register) (pool : Nat) (s : SessionId) : Prop :=
  .created pool s ∈ reg ∨ .handedBack pool s ∈ reg

theorem Entitled.later {k : Nat} {s : SessionId} (h : Entitled reg k s) (passages : Register) :
    Entitled (passages ++ reg) k s :=
  h.imp (List.mem_append_right _) (List.mem_append_right _)

/-- What a pool or one of its tasks has is a handle of the pool, and so is what went that way. -/
structure Attributed (w : World) (reg : Register) : Prop where
  idle : ∀ k service, w.services[k]? = some service →
    ∀ g ∈ service.pool.idle, Entitled reg k g.session
  tasks : ∀ task ∈ w.tasks, ∀ g ∈ task.activity.ofPool, Entitled reg task.service g.session
  released : ∀ k handle kept, .released k handle kept ∈ reg → Entitled reg k handle.session
  shut : ∀ k s, .shut k s ∈ reg → Entitled reg k s

theorem Attributed.initial (partitions : Nat) {services : List Service}
    (fresh : ∀ service ∈ services, service.pool.idle = []) :
    (World.initial partitions services).Attributed [] := by
  constructor
  · intro k service hs g hg
    simp [fresh service (List.mem_of_getElem? hs)] at hg
  · simp [World.initial]
  · simp
  · simp

def Uncounted (passages : Register) : Prop :=
  ∀ p ∈ passages, (∃ s, p = .dropped s) ∨ ∃ k s, p = .handedBack k s

theorem uncounted_nil : Uncounted [] := by simp [Uncounted]

theorem uncounted_drops (handles : List Handle) : Uncounted (drops handles) := by
  simp [Uncounted, drops]

theorem uncounted_entry (task : Task) : Uncounted (entryPassages task) := by
  unfold entryPassages
  split <;> simp [Uncounted]

theorem uncounted_replaced (w : World) (lent : Option (String × Handle)) :
    Uncounted (w.replaced lent) := by
  cases lent with
  | none => exact uncounted_nil
  | some lent => exact uncounted_drops _

theorem Uncounted.mem_append (h : Uncounted passages) {p : Passage} (dropped : ∀ s, p ≠ .dropped s)
    (back : ∀ k s, p ≠ .handedBack k s) : p ∈ passages ++ reg ↔ p ∈ reg := by
  refine ⟨fun hp => (List.mem_append.mp hp).resolve_left fun new => ?_, List.mem_append_right _⟩
  rcases h p new with ⟨s, rfl⟩ | ⟨k, s, rfl⟩
  · exact dropped s rfl
  · exact back k s rfl

theorem Uncounted.countP (h : Uncounted passages) (k : Nat) :
    passages.countP (·.isCreation k) = 0 ∧ passages.countP (·.isDiscard k) = 0 := by
  constructor
  all_goals
    refine List.countP_eq_zero.mpr fun p hp => ?_
    rcases h p hp with ⟨s, rfl⟩ | ⟨j, s, rfl⟩ <;> simp [Passage.isCreation, Passage.isDiscard]

def Continues (w next : World) : Prop :=
  ∀ task ∈ next.tasks, (∃ outcome, task.activity = .ended outcome) ∨
    ∃ old ∈ w.tasks, old.service = task.service ∧ old.activity = task.activity

theorem Continues.rfl (w : World) : w.Continues w :=
  fun task ht => .inr ⟨task, ht, .refl _, .refl _⟩

theorem Continues.of_map {next : World}
    (tasks : next.tasks.map (fun task => (task.service, task.activity)) =
      w.tasks.map fun task => (task.service, task.activity)) : w.Continues next := by
  intro task ht
  have same : (task.service, task.activity) ∈
      w.tasks.map fun task => (task.service, task.activity) :=
    tasks ▸ List.mem_map_of_mem ht
  obtain ⟨old, ho, eq⟩ := List.mem_map.mp same
  exact .inr ⟨old, ho, (Prod.mk.inj eq).1, (Prod.mk.inj eq).2⟩

theorem Continues.setTask {new : Task} {outcome : Outcome} (ended : new.activity = .ended outcome)
    (i : Nat) : w.Continues (w.setTask i new) := by
  intro task ht
  rcases List.mem_or_eq_of_mem_set ht with old | same
  · exact .inr ⟨task, old, .refl _, .refl _⟩
  · exact .inl ⟨outcome, same ▸ ended⟩

theorem Attributed.keep (h : w.Attributed reg) (services : next.services = w.services)
    (tasks : w.Continues next) (uncounted : Uncounted passages) :
    next.Attributed (passages ++ reg) where
  idle k service hs g hg := (h.idle k service (services ▸ hs) g hg).later passages
  tasks task ht g hg := by
    rcases tasks task ht with ⟨outcome, ended⟩ | ⟨old, ho, same, activity⟩
    · simp [ended, Activity.ofPool, Activity.handles] at hg
    · exact same ▸ (h.tasks old ho g (activity ▸ hg)).later passages
  released k handle kept hp :=
    (h.released k handle kept ((uncounted.mem_append (by simp) (by simp)).mp hp)).later passages
  shut k s hp := (h.shut k s ((uncounted.mem_append (by simp) (by simp)).mp hp)).later passages

theorem mem_movePassages {task : Task} {m : Move} {p : Passage} (dropped : ∀ s, p ≠ .dropped s)
    (back : ∀ k s, p ≠ .handedBack k s) :
    p ∈ w.movePassages task m ++ reg ↔ p ∈ task.activity.passages task.service m ∨ p ∈ reg := by
  rw [movePassages, List.append_assoc, List.mem_append,
    (uncounted_replaced w m.lent).mem_append dropped back]

theorem Attributed.told (h : w.Attributed reg) {i : Nat} {task : Task} {service : Service}
    {signal : Signal} (ht : w.tasks[i]? = some task) (hs : w.service? task = some service)
    (news : signal.IsNews task.answer) :
    (w.signal i task signal).Attributed
      (w.movePassages task (move service task signal) ++ reg) := by
  have moves : task.activity.Moves service task.answer (move service task signal) :=
    task.activity.resume_moves service task.cancelled news
  have mine {g : Handle} (hg : g ∈ task.activity.ofPool) : Entitled
      (w.movePassages task (move service task signal) ++ reg) task.service g.session :=
    (h.tasks task (List.mem_of_getElem? ht) g hg).later _
  have idle {g : Handle} (hg : g ∈ service.pool.idle) : Entitled
      (w.movePassages task (move service task signal) ++ reg) task.service g.session :=
    (h.idle task.service service hs g hg).later _
  obtain ⟨given, closed⟩ := Activity.ofPool_of_passage task.activity task.service
    (move service task signal)
  constructor
  · intro k later hl g hg
    rcases signal_services_cases hs hl with ⟨rfl, rfl⟩ | ⟨-, ho⟩
    · rcases moves.pooled hg with before | ⟨back, -⟩
      · exact idle before
      · exact mine back
    · exact (h.idle k later ho g hg).later _
  · intro new hn g hg
    rw [signal_tasks hs] at hn
    rcases List.mem_or_eq_of_mem_set hn with old | rfl
    · exact (h.tasks new old g hg).later _
    · rcases moves.ofPool_origin hg task.service with ⟨own, ho, same⟩ | ⟨own, ho, same⟩ | made
      · exact same ▸ mine ho
      · exact same ▸ idle ho
      · exact .inl ((mem_movePassages (by simp) (by simp)).mpr (.inl made))
  · intro k handle kept hp
    rcases (mem_movePassages (by simp) (by simp)).mp hp with own | old
    · obtain ⟨rfl, had⟩ := given k handle kept own
      exact mine had
    · exact (h.released k handle kept old).later _
  · intro k s hp
    rcases (mem_movePassages (by simp) (by simp)).mp hp with own | old
    · obtain ⟨rfl, handle, had, rfl⟩ := closed k s own
      exact mine had
    · exact (h.shut k s old).later _

structure Settles (old new : Pool) : Prop where
  idle : ∀ g ∈ new.idle, g ∈ old.idle
  created : new.created = old.created
  discarded : new.discarded = old.discarded
  closed : old.isClosed = true → new.isClosed = true

theorem Begins.settles {base : World} {activity : Activity} {note : Option Note}
    (hb : w.Begins base activity note) {k : Nat} {later : Service}
    (hl : base.services[k]? = some later) :
    ∃ service, w.services[k]? = some service ∧ Settles service.pool later.pool := by
  have same (hs : w.services[k]? = some later) :
      ∃ service, w.services[k]? = some service ∧ Settles service.pool later.pool :=
    ⟨later, hs, fun _ hg => hg, rfl, rfl, id⟩
  cases hb with
  | shutdown hs =>
    rcases setPool_services_cases hl with ⟨rfl, old, ho, rfl⟩ | ⟨-, ho⟩
    · obtain rfl := Option.some.inj (hs.symm.trans ho)
      exact ⟨_, ho, by simp [Pool.drain], rfl, rfl, fun _ => rfl⟩
    · exact same ho
  | createNext hs slot ids name =>
    rcases setPool_services_cases hl with ⟨rfl, old, ho, rfl⟩ | ⟨-, ho⟩
    · obtain rfl := Option.some.inj (hs.symm.trans ho)
      exact ⟨_, ho, fun _ hg => hg, rfl, rfl, id⟩
    · exact same ho
  | publish | reject | borrow | release | operate | create => exact same hl

theorem Attributed.begun (h : w.Attributed reg) {base : World} {task : Task} {note : Option Note}
    (hb : w.Begins base task.activity note) (drains : w.Drains base task) :
    (base.addTask task).Attributed (entryPassages task ++ reg) := by
  have uncounted := uncounted_entry task
  constructor
  · intro k later hl g hg
    rw [addTask_services] at hl
    obtain ⟨service, hs, settles⟩ := hb.settles hl
    exact (h.idle k service hs g (settles.idle g hg)).later _
  · intro new hn g hg
    rw [addTask_tasks, hb.tasks] at hn
    rcases List.mem_append.mp hn with old | added
    · exact (h.tasks new old g hg).later _
    · obtain rfl := List.mem_singleton.mp added
      replace hg : g ∈ task.activity.ofPool := hg
      change Entitled (entryPassages task ++ reg) task.service g.session
      generalize ha : task.activity = activity at hb hg
      cases hb with
      | @release slot handle hl =>
        obtain rfl : g = handle := by simpa [Activity.ofPool, Activity.handles] using hg
        exact .inr (List.mem_append_left _ (by simp [entryPassages, ha]))
      | shutdown hs =>
        obtain ⟨s, hs, -, all⟩ := drains _ _ ha
        have taken : g ∈ s.pool.drain.1 := by
          rw [← all]
          exact hg
        exact (h.idle task.service s hs g (List.mem_reverse.mp taken)).later _
      | publish millis topic payload =>
        unfold Activity.begin at hg
        split at hg <;> simp [Activity.ofPool, Activity.handles] at hg
      | reject | borrow | operate | create | createNext =>
        simp [Activity.ofPool, Activity.handles] at hg
  · intro k handle kept hp
    exact (h.released k handle kept ((uncounted.mem_append (by simp) (by simp)).mp hp)).later _
  · intro k s hp
    exact (h.shut k s ((uncounted.mem_append (by simp) (by simp)).mp hp)).later _

theorem Attributed.step (h : w.Attributed reg) (passing : w.Passing passages next) :
    next.Attributed (passages ++ reg) := by
  cases passing with
  | still services handles tasks => exact h.keep services (.of_map tasks) uncounted_nil
  | told ht hs news => exact h.told ht hs news
  | begun hb drains => exact h.begun hb drains
  | crashed ht text => exact h.keep rfl (.setTask rfl _) (uncounted_drops _)
  | forgot slot => exact h.keep rfl (Continues.rfl w) (uncounted_drops _)
  | spoiled hl => exact h.keep rfl (Continues.rfl w) uncounted_nil

/-- The counters of a pool agree with the register, and so does what was closed with it. -/
structure Recorded (reg : Register) (k : Nat) (pool : Pool) : Prop where
  created : pool.created = reg.countP (·.isCreation k)
  discarded : pool.discarded = reg.countP (·.isDiscard k)
  released : ∀ handle, .released k handle false ∈ reg → handle.status = .ready →
    pool.isClosed = true
  shut : ∀ s, .shut k s ∈ reg → pool.isClosed = true

structure Bookkept (w : World) (reg : Register) : Prop where
  pools : ∀ k service, w.services[k]? = some service → Recorded reg k service.pool
  orderly : ∀ task ∈ w.tasks, ∀ service, w.service? task = some service →
    task.activity.Orderly service.pool
  ready : ∀ k handle, .released k handle true ∈ reg → handle.status = .ready

theorem Bookkept.initial (partitions : Nat) {services : List Service}
    (new : ∀ service ∈ services, service.pool = {}) :
    (World.initial partitions services).Bookkept [] := by
  constructor
  · intro k service hs
    rw [new service (List.mem_of_getElem? hs)]
    exact ⟨rfl, rfl, by simp, by simp⟩
  · simp [World.initial]
  · simp

theorem Recorded.keep {k : Nat} {pool later : Pool} (h : Recorded reg k pool)
    (uncounted : Uncounted passages) (created : later.created = pool.created)
    (discarded : later.discarded = pool.discarded)
    (closed : pool.isClosed = true → later.isClosed = true) :
    Recorded (passages ++ reg) k later where
  created := by rw [List.countP_append, (uncounted.countP k).1, zero_add, created, h.created]
  discarded := by
    rw [List.countP_append, (uncounted.countP k).2, zero_add, discarded, h.discarded]
  released handle hp ready :=
    closed (h.released handle ((uncounted.mem_append (by simp) (by simp)).mp hp) ready)
  shut s hp := closed (h.shut s ((uncounted.mem_append (by simp) (by simp)).mp hp))

theorem Recorded.own {task : Task} {service : Service} {signal : Signal}
    (h : Recorded reg task.service service.pool) (news : signal.IsNews task.answer)
    (orderly : task.activity.Orderly service.pool) :
    Recorded (w.movePassages task (move service task signal) ++ reg) task.service
      (move service task signal).pool := by
  have moves : task.activity.Moves service task.answer (move service task signal) :=
    task.activity.resume_moves service task.cancelled news
  have lost := (uncounted_replaced w (move service task signal).lent).countP task.service
  have counted := moves.counted orderly task.service
  obtain ⟨released, shut⟩ := orderly.closed (k := task.service) (m := move service task signal)
  constructor
  · rw [movePassages, List.countP_append, List.countP_append, lost.1, counted.1, h.created]
    omega
  · rw [movePassages, List.countP_append, List.countP_append, lost.2, counted.2, h.discarded]
    omega
  · intro handle hp ready
    rw [moves.isClosed_eq]
    rcases (mem_movePassages (by simp) (by simp)).mp hp with new | old
    · exact released _ handle new ready
    · exact h.released handle old ready
  · intro s hp
    rw [moves.isClosed_eq]
    rcases (mem_movePassages (by simp) (by simp)).mp hp with new | old
    · exact shut _ s new
    · exact h.shut s old

theorem Recorded.other {task : Task} {k : Nat} {pool : Pool} (h : Recorded reg k pool)
    (other : task.service ≠ k) (m : Move) : Recorded (w.movePassages task m ++ reg) k pool := by
  have lost := (uncounted_replaced w m.lent).countP k
  have elsewhere := Activity.countP_passages other task.activity m
  obtain ⟨released, shut⟩ := Activity.ofPool_of_passage task.activity task.service m
  constructor
  · rw [movePassages, List.countP_append, List.countP_append, lost.1, elsewhere.1, h.created]
    omega
  · rw [movePassages, List.countP_append, List.countP_append, lost.2, elsewhere.2, h.discarded]
    omega
  · intro handle hp ready
    rcases (mem_movePassages (by simp) (by simp)).mp hp with new | old
    · exact absurd (released k handle false new).1.symm other
    · exact h.released handle old ready
  · intro s hp
    rcases (mem_movePassages (by simp) (by simp)).mp hp with new | old
    · exact absurd (shut k s new).1.symm other
    · exact h.shut s old

theorem Bookkept.told (h : w.Bookkept reg) {i : Nat} {task : Task} {service : Service}
    {signal : Signal} (ht : w.tasks[i]? = some task) (hs : w.service? task = some service)
    (news : signal.IsNews task.answer) :
    (w.signal i task signal).Bookkept (w.movePassages task (move service task signal) ++ reg) := by
  have moves : task.activity.Moves service task.answer (move service task signal) :=
    task.activity.resume_moves service task.cancelled news
  have orderly := h.orderly task (List.mem_of_getElem? ht) service hs
  constructor
  · intro k later hl
    rcases signal_services_cases hs hl with ⟨rfl, rfl⟩ | ⟨other, ho⟩
    · exact (h.pools task.service service hs).own news orderly
    · exact (h.pools k later ho).other other _
  · intro new hn later hl
    rw [signal_tasks hs] at hn
    rcases List.mem_or_eq_of_mem_set hn with old | rfl
    · rcases signal_services_cases hs hl with ⟨same, rfl⟩ | ⟨-, ho⟩
      · refine (h.orderly new old service (by rw [service?, ← same]; exact hs)).mono ?_
        exact fun closed => moves.isClosed_eq.trans closed
      · exact h.orderly new old later ho
    · rcases signal_services_cases hs hl with ⟨-, rfl⟩ | ⟨other, -⟩
      · exact moves.orderly orderly
      · exact absurd rfl other
  · intro k handle hp
    rcases (mem_movePassages (by simp) (by simp)).mp hp with new | old
    · exact moves.ready_of_kept new
    · exact h.ready k handle old

theorem Bookkept.begun (h : w.Bookkept reg) {base : World} {task : Task} {note : Option Note}
    (hb : w.Begins base task.activity note) (drains : w.Drains base task) :
    (base.addTask task).Bookkept (entryPassages task ++ reg) := by
  have uncounted := uncounted_entry task
  constructor
  · intro k later hl
    rw [addTask_services] at hl
    obtain ⟨service, hs, settles⟩ := hb.settles hl
    exact (h.pools k service hs).keep uncounted settles.created settles.discarded settles.closed
  · intro new hn later hl
    rw [addTask_tasks, hb.tasks] at hn
    rw [service?, addTask_services] at hl
    rcases List.mem_append.mp hn with old | added
    · obtain ⟨service, hs, settles⟩ := hb.settles hl
      exact (h.orderly new old service hs).mono settles.closed
    · obtain rfl := List.mem_singleton.mp added
      rw [moved_activity]
      generalize ha : task.activity = activity at hb
      cases hb with
      | shutdown hs =>
        obtain ⟨s, hs, same, -⟩ := drains _ _ ha
        rw [same] at hl
        rcases setPool_services_cases hl with ⟨-, old, -, rfl⟩ | ⟨other, -⟩
        · exact Activity.Orderly.of_closed rfl _ _
        · exact absurd rfl other
      | publish millis topic payload =>
        unfold Activity.begin
        split <;> trivial
      | reject | borrow | release | operate | create | createNext => trivial
  · intro k handle hp
    exact h.ready k handle ((uncounted.mem_append (by simp) (by simp)).mp hp)

theorem Bookkept.keep (h : w.Bookkept reg) (services : next.services = w.services)
    (tasks : w.Continues next) (uncounted : Uncounted passages) :
    next.Bookkept (passages ++ reg) where
  pools k service hs := (h.pools k service (services ▸ hs)).keep uncounted rfl rfl id
  orderly task ht service hs := by
    rcases tasks task ht with ⟨outcome, ended⟩ | ⟨old, ho, same, activity⟩
    · rw [ended]
      trivial
    · rw [← activity]
      refine h.orderly old ho service ?_
      rw [service?, same, ← services]
      exact hs
  ready k handle hp := h.ready k handle ((uncounted.mem_append (by simp) (by simp)).mp hp)

theorem Bookkept.step (h : w.Bookkept reg) (passing : w.Passing passages next) :
    next.Bookkept (passages ++ reg) := by
  cases passing with
  | still services handles tasks => exact h.keep services (.of_map tasks) uncounted_nil
  | told ht hs news => exact h.told ht hs news
  | begun hb drains => exact h.begun hb drains
  | crashed ht text => exact h.keep rfl (.setTask rfl _) (uncounted_drops _)
  | forgot slot => exact h.keep rfl (Continues.rfl w) (uncounted_drops _)
  | spoiled hl => exact h.keep rfl (Continues.rfl w) uncounted_nil

end World

namespace FreeRun

variable (r : FreeRun)

theorem world_of_idle {r : FreeRun} (nothing : r.happenings = []) :
    r.world = World.initial r.partitions r.services ∧ r.register = [] := by
  simp [world, register, nothing, start, World.follow, World.register]

theorem complete : r.world.Complete r.register := by
  induction r using by_happenings with
  | idle r nothing =>
    obtain ⟨start, empty⟩ := world_of_idle nothing
    rw [start, empty]
    exact .initial _ r.fresh
  | happening r o ih =>
    rw [extend_one, register_extend_one]
    exact ih.step (r.world.undergo_passes o) (r.world.undergo_step o) r.owned

theorem attributed : r.world.Attributed r.register := by
  induction r using by_happenings with
  | idle r nothing =>
    obtain ⟨start, empty⟩ := world_of_idle nothing
    rw [start, empty]
    exact .initial _ r.fresh
  | happening r o ih =>
    rw [extend_one, register_extend_one]
    exact ih.step (r.world.undergo_passes o)

/-- The counters of pools that were new agree with the register. -/
theorem bookkept (new : ∀ service ∈ r.services, service.pool = {}) :
    r.world.Bookkept r.register := by
  induction r using by_happenings with
  | idle r nothing =>
    obtain ⟨start, empty⟩ := world_of_idle nothing
    rw [start, empty]
    exact .initial _ new
  | happening r o ih =>
    rw [extend_one, register_extend_one]
    exact (ih new).step (r.world.undergo_passes o)

end FreeRun

end OutcomeRelay
