import Mathlib.Algebra.Order.BigOperators.Group.List
import Mathlib.Algebra.Order.Ring.Nat
import OutcomeRelay.Proofs.Shutdown
import OutcomeRelay.Proofs.Whereabouts

set_option autoImplicit false

namespace OutcomeRelay

def Activity.creations : Activity → Nat
  | creating _ _ _ => 1
  | _ => 0

namespace World

def ofService (w : World) (k : Nat) (f : Activity → Nat) : Nat :=
  (w.tasks.map fun task => if task.service = k then f task.activity else 0).sum

def creations (w : World) (k : Nat) : Nat := w.ofService k Activity.creations

/-- The borrows from a pool that were not turned away and whose producer has not come back: it is
being created, it is lent, or it was dropped and never comes back. -/
def outstanding (k : Nat) (w : World) (reg : Register) : Nat :=
  w.creations k + ((w.lentBy reg k).card + (droppedBy reg k).card)

def inFlight (k : Nat) (w : World) : Nat := w.ofService k fun activity => activity.isPublish.toNat

def highest (f : World → Register → Nat) (w : World) (reg : Register) : List Occurrence → Nat
  | [] => f w reg
  | o :: later => max (f w reg) ((w.undergo o).highest f (w.passages o ++ reg) later)

end World

namespace FreeRun

variable (r : FreeRun)

def highest (f : World → Register → Nat) : Nat := r.start.highest f [] r.happenings

def outstanding (k : Nat) : Nat := r.world.outstanding k r.register

def peak (k : Nat) : Nat := r.highest (World.outstanding k)

end FreeRun

namespace Activity

variable {service : Service} {cancelled : Bool}

theorem creations_le_one (activity : Activity) : activity.creations ≤ 1 := by
  cases activity with
  | creating => exact le_rfl
  | _ => exact zero_le_one

theorem serve_creations (pool : Pool) (handle : Handle) (purpose : Purpose) :
    (serve pool handle purpose).activity.creations = 0 := by
  cases purpose <;> rfl

theorem refuse_creations (pool : Pool) (error : PoolError) (purpose : Purpose) :
    (refuse pool error purpose).activity.creations = 0 ∧
      (refuse pool error purpose).pool = pool := by
  cases purpose <;> exact ⟨rfl, rfl⟩

theorem afterCreation_creations (pool : Pool) (purpose : Purpose) (id : String)
    (next : Creation.Next) :
    (afterCreation service pool purpose id next).activity.creations +
        (afterCreation service pool purpose id next).pool.created ≤ 1 + pool.created := by
  cases next with
  | ongoing creation => exact le_rfl
  | made session =>
    rw [afterCreation, serve_creations, serve_pool, zero_add, add_comm]
    exact le_rfl
  | failed error =>
    obtain ⟨nothing, same⟩ := refuse_creations pool error purpose
    rw [afterCreation, nothing, same]
    exact Nat.add_le_add_right zero_le_one _

theorem borrow_hit {handle : Handle} {idle : List Handle} (unclosed : service.pool.isClosed = false)
    (taken : service.pool.idle = handle :: idle) (purpose : Purpose) :
    borrow service cancelled purpose = serve { service.pool with idle := idle } handle purpose := by
  have found : service.pool.lookup service.options.baseId =
      (.hit handle, { service.pool with idle := idle }) := by
    simp [Pool.lookup, unclosed, taken]
  rw [borrow, found]

theorem borrow_creations (service : Service) (cancelled : Bool) (purpose : Purpose) :
    ((borrow service cancelled purpose).activity.creations = 0 ∧
      (borrow service cancelled purpose).pool.created = service.pool.created) ∨
    (service.pool.isClosed = false ∧ service.pool.idle = [] ∧
      (borrow service cancelled purpose).pool.idle = []) := by
  cases closed : service.pool.isClosed with
  | true =>
    rw [borrow_closed closed]
    exact .inl ⟨rfl, rfl⟩
  | false =>
    cases taken : service.pool.idle with
    | cons handle idle =>
      rw [borrow_hit closed taken, serve_pool]
      exact .inl ⟨serve_creations _ _ purpose, rfl⟩
    | nil =>
      refine .inr ⟨rfl, rfl, ?_⟩
      rcases borrow_cases service cancelled purpose with h | ⟨handle, idle, hit, -⟩ | ⟨id, ids, h⟩
      · rw [h, (refuse_creations service.pool .closed purpose).2, taken]
      · rw [taken] at hit
        cases hit
      · rw [h, Creation.begin]
        split
        · rw [afterCreation, (refuse_creations _ _ purpose).2, taken]
        · exact taken

/-- A move begins to create a producer where none is idle, or what it creates was being created. -/
theorem resume_creations (service : Service) (cancelled : Bool) (activity : Activity)
    (signal : Signal) :
    ((activity.resume service cancelled signal).activity.creations ≤ activity.creations ∧
      (activity.resume service cancelled signal).activity.creations +
          (activity.resume service cancelled signal).pool.created ≤
        activity.creations + service.pool.created) ∨
    (service.pool.isClosed = false ∧ service.pool.idle = [] ∧
      (activity.resume service cancelled signal).pool.idle = []) := by
  cases activity with
  | borrowing purpose =>
    refine (borrow_creations service cancelled purpose).imp_left fun h => ?_
    rw [resume, h.1, h.2]
    exact ⟨le_rfl, le_rfl⟩
  | creating purpose id creation =>
    exact .inl ⟨creations_le_one _, afterCreation_creations _ purpose id _⟩
  | transacting t =>
    refine .inl ?_
    simp only [resume, afterTransaction]
    split <;> exact ⟨le_rfl, le_rfl⟩
  | returning handle outcome =>
    refine .inl ?_
    simp only [resume]
    rcases giveBack_cases service.pool handle outcome with ⟨-, hg⟩ | ⟨discarded, -, hg⟩ <;>
      rw [hg] <;> exact ⟨le_rfl, le_rfl⟩
  | retiring handle discarded outcome => cases discarded <;> exact .inl ⟨le_rfl, le_rfl⟩
  | draining handles closed => cases handles <;> exact .inl ⟨le_rfl, le_rfl⟩
  | making slot id attempt =>
    refine .inl ?_
    simp only [resume]
    cases attempt.resume service.options.operationLimit signal <;> exact ⟨le_rfl, le_rfl⟩
  | waiting | operating | ended => exact .inl ⟨le_rfl, le_rfl⟩

end Activity

namespace World

variable {w next : World} {passages reg : Register} {k : Nat} {f : Activity → Nat}

theorem ofService_set {i : Nat} {task : Task} (ht : w.tasks[i]? = some task) (new : Task)
    (same : new.service = task.service) (tasks : next.tasks = w.tasks.set i new) :
    next.ofService k f + (if task.service = k then f task.activity else 0) =
      w.ofService k f + if task.service = k then f new.activity else 0 := by
  simp only [ofService, tasks, sum_map_set _ ht, sum_map_eq_add _ ht, same]
  omega

theorem ofService_setTask {i : Nat} {task : Task} (ht : w.tasks[i]? = some task) (new : Task)
    (same : new.service = task.service) :
    (w.setTask i new).ofService k f + (if task.service = k then f task.activity else 0) =
      w.ofService k f + if task.service = k then f new.activity else 0 :=
  ofService_set ht new same rfl

theorem ofService_add (w : World) (f g : Activity → Nat) :
    w.ofService k f + w.ofService k g = w.ofService k fun activity => f activity + g activity := by
  rw [ofService, ofService, ← List.sum_map_add]
  refine congrArg List.sum (List.map_congr_left fun task _ => ?_)
  split <;> rfl

theorem ofService_le {g : Activity → Nat}
    (h : ∀ task ∈ w.tasks, f task.activity ≤ g task.activity) :
    w.ofService k f ≤ w.ofService k g := by
  refine List.sum_le_sum fun task ht => ?_
  split
  · exact h task ht
  · exact le_rfl

theorem ofService_eq (tasks : next.tasks.map (fun task => (task.service, task.activity)) =
    w.tasks.map fun task => (task.service, task.activity)) :
    next.ofService k f = w.ofService k f := by
  have sums := congrArg (fun l => (l.map fun pair : Nat × Activity =>
    if pair.1 = k then f pair.2 else 0).sum) tasks
  simp only [List.map_map, Function.comp_def] at sums
  exact sums

theorem Begins.creations {base : World} {activity : Activity} {note : Option Note}
    (hb : w.Begins base activity note) : activity.creations = 0 := by
  cases hb with
  | publish millis topic payload =>
    unfold Activity.begin
    split <;> rfl
  | _ => rfl

theorem Passing.creations (passing : w.Passing passages next) {service later : Service}
    (hs : w.services[k]? = some service) (hl : next.services[k]? = some later) :
    next.creations k + later.pool.created ≤ w.creations k + service.pool.created ∨
    (service.pool.isClosed = false ∧ later.pool.isClosed = false ∧ later.pool.idle = []) := by
  cases passing with
  | still services handles tasks =>
    obtain rfl := Option.some.inj (hs.symm.trans (services ▸ hl))
    exact .inl (by rw [World.creations, World.creations, ofService_eq tasks])
  | @told i task own signal ht ho news =>
    have counts := ofService_set (k := k) (f := Activity.creations) ht
      (w.moved task (move own task signal).activity) rfl (signal_tasks ho)
    rcases signal_services_cases ho hl with ⟨rfl, rfl⟩ | ⟨other, same⟩
    · obtain rfl := Option.some.inj (hs.symm.trans ho)
      simp only [if_true, moved_activity] at counts
      have moves : task.activity.Moves service task.answer (move service task signal) :=
        task.activity.resume_moves service task.cancelled news
      refine (task.activity.resume_creations service task.cancelled signal).imp (fun ⟨_, h⟩ => ?_)
        fun ⟨unclosed, _, empty⟩ => ⟨unclosed, moves.isClosed_eq.trans unclosed, empty⟩
      simp only [World.creations]
      simp only [move] at counts ⊢
      omega
    · obtain rfl := Option.some.inj (hs.symm.trans same)
      simp only [if_neg other, add_zero] at counts
      exact .inl (by rw [World.creations, World.creations, counts])
  | @begun base task note hb drains =>
    rw [addTask_services] at hl
    obtain ⟨old, ho, settles⟩ := hb.settles hl
    obtain rfl := Option.some.inj (hs.symm.trans ho)
    have same : (base.addTask task).creations k = w.creations k := by
      simp [World.creations, ofService, addTask_tasks, hb.tasks, hb.creations]
    exact .inl (by rw [same, settles.created])
  | @crashed i task ht text =>
    obtain rfl := Option.some.inj (hs.symm.trans hl)
    have counts := ofService_setTask (k := k) (f := Activity.creations) ht
      (w.moved task (.ended (.crashed text))) rfl
    refine .inl (Nat.add_le_add_right ?_ _)
    simp only [World.creations, moved_activity, Activity.creations] at counts ⊢
    split at counts <;> omega
  | forgot | spoiled =>
    obtain rfl := Option.some.inj (hs.symm.trans hl)
    exact .inl le_rfl

theorem Begins.lookup_of_returning {base : World} {activity : Activity} {note : Option Note}
    {handle : Handle} {outcome : Outcome} (hb : w.Begins base activity note)
    (returns : activity = .returning handle outcome) :
    ∃ slot, w.handles.lookup slot = some handle := by
  cases hb with
  | release hl =>
    obtain ⟨rfl, -⟩ := Activity.returning.inj returns
    exact ⟨_, hl⟩
  | publish millis topic payload =>
    unfold Activity.begin at returns
    split at returns <;> cases returns
  | _ => cases returns

theorem Passing.kept_of_handedBack (passing : w.Passing passages next) {s : SessionId}
    (hp : .handedBack k s ∈ passages) : s ∈ w.kept := by
  have uncounted {handles : List Handle} : .handedBack k s ∉ drops handles := by simp [drops]
  cases passing with
  | still | spoiled => cases hp
  | @told i task service signal ht hs news =>
    rcases List.mem_append.mp hp with own | lost
    · exfalso
      unfold Activity.passages at own
      split at own <;> simp at own
    · exfalso
      unfold replaced at lost
      split at lost
      · cases lost
      · exact uncounted lost
  | @begun base task note hb drains =>
    unfold entryPassages at hp
    split at hp
    · rename_i handle outcome activity
      obtain ⟨-, rfl⟩ : k = task.service ∧ s = handle.session := by simpa using hp
      obtain ⟨slot, hl⟩ := hb.lookup_of_returning activity
      exact mem_kept.mpr ⟨handle, mem_producers.mpr (.inr (.inr ⟨_, mem_of_lookup hl, rfl⟩)), rfl⟩
    · cases hp
  | crashed | forgot => exact absurd hp uncounted

def Returned (reg : Register) : Prop := ∀ k s, .handedBack k s ∈ reg → s ∈ arrivals reg

theorem Returned.step (h : Returned reg) (complete : w.Complete reg)
    (passing : w.Passing passages next) : Returned (passages ++ reg) := by
  intro k s hp
  rw [arrivals_append]
  refine Multiset.mem_add.mpr (.inr ?_)
  rcases List.mem_append.mp hp with new | old
  · rw [← complete.balanced]
    exact Multiset.mem_add.mpr (.inl (passing.kept_of_handedBack new))
  · exact h k s old

end World

theorem Faithful.earlier {passages reg : Register} (h : Faithful (passages ++ reg))
    (once : (arrivals (passages ++ reg)).Nodup) (returned : World.Returned reg) :
    Faithful reg := by
  intro p hp
  cases p with
  | handedBack k s =>
    have made := h _ (List.mem_append_right passages hp)
    simp only [Passage.isFaithful, decide_eq_true_eq] at made ⊢
    refine (List.mem_append.mp made).resolve_left fun new => ?_
    have arrives : s ∈ arrivals passages :=
      Multiset.mem_coe.mpr (List.mem_filterMap.mpr ⟨_, new, rfl⟩)
    rw [arrivals_append, Multiset.nodup_add] at once
    exact Multiset.disjoint_left.mp once.2.2 arrives (returned k s hp)
  | _ => rfl

namespace World

theorem highest_append_one (f : World → Register → Nat) (w : World) (reg : Register)
    (before : List Occurrence) (o : Occurrence) :
    w.highest f reg (before ++ [o]) = max (w.highest f reg before)
      (f ((w.follow before).undergo o) (w.register reg (before ++ [o]))) := by
  induction before generalizing w reg with
  | nil => rfl
  | cons first before ih =>
    simp only [List.cons_append, highest, ih, max_assoc]
    rfl

end World

namespace FreeRun

variable (r : FreeRun)

theorem highest_extend_one (f : World → Register → Nat) (o : Occurrence) :
    (r.extend [o]).highest f =
      max (r.highest f) (f (r.extend [o]).world (r.extend [o]).register) := by
  rw [extend_one]
  exact World.highest_append_one f r.start [] r.happenings o

variable {r} in
theorem highest_of_idle (nothing : r.happenings = []) (f : World → Register → Nat) :
    r.highest f = f r.world r.register := by
  simp [highest, world, register, nothing, World.follow, World.register, World.highest]

theorem le_highest (f : World → Register → Nat) : f r.world r.register ≤ r.highest f := by
  induction r using by_happenings with
  | idle r nothing => exact (highest_of_idle nothing f).ge
  | happening r o ih =>
    rw [highest_extend_one]
    exact le_max_right _ _

theorem returned : World.Returned r.register := by
  induction r using by_happenings with
  | idle r nothing =>
    rw [(world_of_idle nothing).2]
    intro k s hp
    cases hp
  | happening r o ih =>
    rw [register_extend_one]
    exact ih.step r.complete (r.world.undergo_passes o)

/-- The producers that a pool has created and not discarded are as many as its idle ones and those
that are out, until the pool is closed. -/
theorem numbers (new : ∀ service ∈ r.services, service.pool = {}) (faithful : Faithful r.register)
    {k : Nat} {service : Service} (hs : r.world.services[k]? = some service)
    (unclosed : service.pool.isClosed = false) :
    service.pool.created = service.pool.idle.length +
      ((r.world.lentBy r.register k).card + (droppedBy r.register k).card) +
      service.pool.discarded := by
  have bookkept := r.bookkept new
  obtain ⟨created, discarded⟩ := bookkept.counters hs
  have parts := congrArg Multiset.card (World.partition r.complete r.attributed faithful hs)
  have closed : r.world.closedBy r.register k = 0 := by
    by_contra closes
    have closed := bookkept.isClosed hs closes
    simp [unclosed] at closed
  rw [created, discarded, parts, closed]
  simp [sessionsOf]

theorem created_le (new : ∀ service ∈ r.services, service.pool = {})
    (faithful : Faithful r.register) {k : Nat} {service : Service}
    (hs : r.world.services[k]? = some service) :
    r.world.creations k + service.pool.created ≤ service.pool.discarded + r.peak k := by
  induction r using by_happenings generalizing service with
  | idle r nothing =>
    obtain ⟨start, -⟩ := world_of_idle nothing
    rw [start] at hs ⊢
    have empty := new service (List.mem_of_getElem? hs)
    simp [empty, World.creations, World.ofService, World.initial]
  | happening r o ih =>
    have passing := r.world.undergo_passes o
    have earlier : Faithful r.register := by
      rw [register_extend_one] at faithful
      exact faithful.earlier (r.register_extend_one o ▸ (r.extend [o]).complete.once) r.returned
    obtain ⟨old, ho, -⟩ := (r.world.undergo_step o).keeps (r.extend_one o ▸ hs)
    have before := ih new earlier ho
    have peak : (r.extend [o]).peak k = max (r.peak k) ((r.extend [o]).outstanding k) :=
      r.highest_extend_one _ o
    rcases passing.creations ho (r.extend_one o ▸ hs) with fewer | ⟨-, unclosed, empty⟩
    · have discarded : old.pool.discarded ≤ service.pool.discarded := by
        rw [((r.extend [o]).bookkept new |>.pools k service hs).discarded,
          ((r.bookkept new).pools k old ho).discarded, register_extend_one, List.countP_append]
        exact Nat.le_add_left _ _
      rw [extend_one]
      omega
    · -- A borrow has found no idle producer: whatever the pool has created is out.
      have numbers := (r.extend [o]).numbers new faithful hs unclosed
      have out : (r.extend [o]).outstanding k = (r.extend [o]).world.creations k +
          (((r.extend [o]).world.lentBy (r.extend [o]).register k).card +
            (droppedBy (r.extend [o]).register k).card) := rfl
      rw [empty, List.length_nil] at numbers
      omega

theorem idle_of_creation (o : Occurrence) {i : Nat} {task later : Task} {service : Service}
    (ht : r.world.tasks[i]? = some task) (hl : (r.extend [o]).world.tasks[i]? = some later)
    (hs : r.world.service? task = some service) (before : task.activity.creations = 0)
    (creates : later.activity.creations = 1) : service.pool.idle = [] := by
  rw [extend_one] at hl
  obtain ⟨next, hn, becomes⟩ := World.undergo_task r.regular ht o
  obtain rfl := Option.some.inj (hn.symm.trans hl)
  generalize r.world.hears? o i = heard at becomes
  cases becomes with
  | waits activity =>
    rw [activity, before] at creates
    cases creates
  | @told own signal ho ends =>
    obtain rfl := Option.some.inj (hs.symm.trans ho)
    rcases task.activity.resume_creations service task.cancelled signal with
      ⟨fewer, -⟩ | ⟨-, empty, -⟩
    · rw [before] at fewer
      exact absurd (creates.symm.trans_le fewer) (by decide)
    · exact empty
  | crashed => cases creates

end FreeRun

def Occurrence.isPublishing : Occurrence → Bool
  | .event e => e.isPublishing
  | .answer _ _ => true

namespace Activity

theorem ofPool_of_lent {activity : Activity} (serves : activity.serves = true) {g : Handle}
    (hg : g ∈ activity.lent) : g ∈ activity.ofPool := by
  cases activity with
  | operating => simp [Activity.serves, isPublish] at serves
  | draining => cases hg
  | _ => exact hg

theorem outstanding_le {activity : Activity} (serves : activity.serves = true) :
    activity.creations + activity.lent.length ≤ activity.isPublish.toNat := by
  cases activity with
  | creating purpose id creation =>
    have publishes : purpose.isPublish = true := serves
    simp [creations, lent, handles, isPublish, publishes]
  | returning handle outcome =>
    have publishes : outcome.isPublished = true := serves
    simp [creations, lent, handles, isPublish, publishes]
  | retiring handle discarded outcome =>
    have publishes : outcome.isPublished = true := serves
    simp [creations, lent, handles, isPublish, publishes]
  | transacting t => exact le_rfl
  | operating | making => simp [Activity.serves, isPublish] at serves
  | _ => exact Nat.zero_le _

end Activity

namespace World

variable {w : World} {reg : Register} {k : Nat} {o : Occurrence}

theorem Confined.undergo (h : w.Confined) (ho : o.isPublishing = true) :
    (w.undergo o).Confined := by
  cases o with
  | event event => exact h.apply ho
  | answer i reply =>
    simp only [World.undergo]
    cases ht : w.tasks[i]? with
    | none => exact h
    | some task =>
      have serves := h.serves task (List.mem_of_getElem? ht)
      have around (cluster : Cluster) : (w.putCluster cluster).Confined :=
        ⟨h.handles, h.sessions, h.serves⟩
      simp only [answerTask]
      split
      · exact h
      · split
        · exact (around _).setTask serves
        · exact h.setTask serves
        · exact h.setTask serves
        · exact h

end World

def Passage.isInternal : Passage → Bool
  | handedBack _ _ => false
  | dropped _ => false
  | _ => true

theorem Activity.passages_internal (activity : Activity) (k : Nat) (m : Move) :
    ∀ p ∈ activity.passages k m, p.isInternal = true := by
  cases activity with
  | creating | making | retiring => simp [passages, Passage.isInternal]
  | returning handle outcome =>
    simp only [passages]
    split <;> simp [Passage.isInternal]
  | draining handles closed => cases handles <;> simp [passages, Passage.isInternal]
  | _ => simp [passages]

namespace World

variable {w : World} {reg : Register} {k : Nat} {o : Occurrence}

theorem Confined.taskPassages_internal (h : w.Confined) {task : Task} (ht : task ∈ w.tasks)
    {event : Event} (he : event.isPublishing = true) :
    ∀ p ∈ w.taskPassages task event, p.isInternal = true := by
  unfold taskPassages
  split
  · cases he
  · split
    · rename_i signal service _ hs
      have lent : (move service task signal).lent = none :=
        (Activity.resume_serves service task.cancelled (h.serves task ht) signal).2
      intro p hp
      rw [movePassages, lent, replaced, List.append_nil] at hp
      exact task.activity.passages_internal _ _ p hp
    · simp

theorem Confined.start_internal (h : w.Confined) (k : Nat) (job : Job) (cancelled : Bool) :
    ((w.start k job cancelled).tasks.drop w.tasks.length).flatMap entryPassages = [] := by
  rcases w.start_cases k job cancelled with same | ⟨base, task, note, started, hb, -⟩
  · simp [same]
  · rw [started, addTask_tasks, hb.tasks, List.drop_left, List.flatMap_singleton, entryPassages,
      moved_activity]
    split
    · rename_i handle outcome activity
      obtain ⟨slot, hl⟩ := hb.lookup_of_returning activity
      rw [h.handles] at hl
      cases hl
    · rfl

theorem Confined.passages_internal (h : w.Confined) (ho : o.isPublishing = true) :
    ∀ p ∈ w.passages o, p.isInternal = true := by
  cases o with
  | answer i reply => simp [passages]
  | event event =>
    simp only [passages]
    cases he : eventTask? event with
    | some i =>
      cases ht : w.tasks[i]? with
      | none => simp only [ht, List.not_mem_nil, false_imp_iff, implies_true]
      | some task =>
        simp only [ht]
        exact h.taskPassages_internal (List.mem_of_getElem? ht) ho
    | none =>
      cases event with
      | start k job cancelled =>
        change ∀ p ∈ ((w.start k job cancelled).tasks.drop w.tasks.length).flatMap entryPassages, _
        simp [h.start_internal]
      | forget slot => cases ho
      | _ => simp

theorem Confined.lentBy_le (h : w.Confined) (attributed : w.Attributed reg)
    (faithful : Faithful reg) (once : (arrivals reg).Nodup) (k : Nat) :
    (w.lentBy reg k).card ≤ w.ofService k fun activity => activity.lent.length := by
  have slots : sessionsOf (Slots.contents w.handles) = 0 := by
    rw [h.handles]
    rfl
  rw [lentBy, lent, slots, add_zero, ← Multiset.countP_eq_card_filter]
  refine (map_list_sum (Multiset.countPAddMonoidHom (· ∈ createdBy reg k)) _).trans_le ?_
  rw [List.map_map]
  refine List.sum_le_sum fun task ht => ?_
  change Multiset.countP _ (sessionsOf task.activity.lent) ≤ _
  split
  · exact (Multiset.countP_le_card _ _).trans_eq (by simp [sessionsOf])
  · rename_i other
    refine (Multiset.countP_eq_zero.mpr fun s hs created => other ?_).le
    obtain ⟨g, hg, rfl⟩ := List.mem_map.mp (Multiset.mem_coe.mp hs)
    have own := attributed.tasks task ht g (Activity.ofPool_of_lent (h.serves task ht) hg)
    exact created_once once (own.created faithful) (mem_createdBy.mp created)

end World

namespace FreeRun

variable {r : FreeRun} (publishing : ∀ o ∈ r.happenings, o.isPublishing = true)

include publishing

theorem confined : r.world.Confined := by
  induction r using by_happenings with
  | idle r nothing =>
    rw [(world_of_idle nothing).1]
    exact ⟨rfl, rfl, by simp [World.initial]⟩
  | happening r o ih =>
    rw [extend_one]
    exact (ih fun other ho => publishing other (List.mem_append_left _ ho)).undergo
      (publishing o (List.mem_append_right _ List.mem_cons_self))

theorem register_internal : ∀ p ∈ r.register, p.isInternal = true := by
  induction r using by_happenings with
  | idle r nothing => simp [(world_of_idle nothing).2]
  | happening r o ih =>
    have earlier : ∀ other ∈ r.happenings, other.isPublishing = true :=
      fun other ho => publishing other (List.mem_append_left _ ho)
    have here := (confined earlier).passages_internal
      (publishing o (List.mem_append_right _ List.mem_cons_self))
    intro p hp
    rw [register_extend_one] at hp
    exact (List.mem_append.mp hp).elim (here p) (ih earlier p)

theorem faithful_of_publishing : Faithful r.register := by
  intro p hp
  have internal := register_internal publishing p hp
  cases p with
  | handedBack => cases internal
  | _ => rfl

theorem droppedBy_eq_zero (k : Nat) : droppedBy r.register k = 0 := by
  have none_dropped : r.register.filter (·.isDrop) = [] := by
    refine List.filter_eq_nil_iff.mpr fun p hp => ?_
    have internal := register_internal publishing p hp
    cases p with
    | dropped => cases internal
    | _ => simp [Passage.isDrop]
  rw [droppedBy, droppedIn, none_dropped]
  rfl

theorem outstanding_le_inFlight (k : Nat) : r.outstanding k ≤ r.world.inFlight k := by
  have confined := confined publishing
  have lent := confined.lentBy_le r.attributed (faithful_of_publishing publishing) r.complete.once k
  calc r.outstanding k = r.world.creations k + (r.world.lentBy r.register k).card := by
        rw [outstanding, World.outstanding, droppedBy_eq_zero publishing, Multiset.card_zero,
          add_zero]
    _ ≤ r.world.creations k + r.world.ofService k fun activity => activity.lent.length :=
        Nat.add_le_add_left lent _
    _ = r.world.ofService k fun activity => activity.creations + activity.lent.length :=
        World.ofService_add _ _ _
    _ ≤ r.world.inFlight k :=
        World.ofService_le fun task ht => Activity.outstanding_le (confined.serves task ht)

theorem peak_le_inFlight (k : Nat) : r.peak k ≤ r.highest fun w _ => w.inFlight k := by
  induction r using by_happenings with
  | idle r nothing =>
    rw [peak, highest_of_idle nothing, highest_of_idle nothing]
    exact outstanding_le_inFlight publishing k
  | happening r o ih =>
    have earlier : ∀ other ∈ r.happenings, other.isPublishing = true :=
      fun other ho => publishing other (List.mem_append_left _ ho)
    rw [peak, highest_extend_one, highest_extend_one]
    exact max_le_max (ih earlier) (outstanding_le_inFlight publishing k)

end FreeRun

/-- Services with new pools, whose handles go back to the pool that has created them. The idle
producers of a pool and the borrows that are outstanding are never more than the borrows that
have been outstanding at one time, and no more producers have been created, besides those that
were discarded. A borrow begins to create a producer only when none is idle. As long as only
publishes go on and no two of one service are in flight at once, a pool that has discarded no
producer has created one at the most. -/
theorem FreeRun.bounded_by_peak (r : FreeRun) (new : ∀ service ∈ r.services, service.pool = {}) :
    (Faithful r.register → ∀ (k : Nat) (service : Service), r.world.services[k]? = some service →
      service.pool.idle.length + r.outstanding k ≤ r.peak k ∧
      service.pool.created ≤ service.pool.discarded + r.peak k) ∧
    (∀ (o : Occurrence) (i : Nat) (task later : Task) (service : Service),
      r.world.tasks[i]? = some task → (r.extend [o]).world.tasks[i]? = some later →
      r.world.service? task = some service → task.activity.creations = 0 →
      later.activity.creations = 1 → service.pool.idle = []) ∧
    ((∀ o ∈ r.happenings, o.isPublishing = true) →
      ∀ (k : Nat) (service : Service), r.world.services[k]? = some service →
        (r.highest fun w _ => w.inFlight k) ≤ 1 → service.pool.discarded = 0 →
        service.pool.created ≤ 1) := by
  refine ⟨fun faithful k service hs => ?_, fun o i task later service => r.idle_of_creation o,
    fun publishing k service hs alone kept => ?_⟩
  · have created := r.created_le new faithful hs
    refine ⟨?_, by omega⟩
    cases closed : service.pool.isClosed with
    | true =>
      rw [r.emptied service (List.mem_of_getElem? hs) closed, List.length_nil, zero_add]
      exact r.le_highest _
    | false =>
      have numbers := r.numbers new faithful hs closed
      have out : r.outstanding k = r.world.creations k +
          ((r.world.lentBy r.register k).card + (droppedBy r.register k).card) := rfl
      omega
  · have created := r.created_le new (faithful_of_publishing publishing) hs
    have peak := peak_le_inFlight publishing k
    omega

namespace Run

/-- Two borrows create a producer each, one of which is given back before the other is there; a
third borrow takes an idle one. -/
def twoAtOnce : Run :=
  hasty 0 [.start 0 (.borrow "a") false, .start 0 (.borrow "b") false, .proceed 0, .proceed 1,
    .effect 0, .deliver 0, .effect 0, .deliver 0, .start 0 (.release "a") false, .proceed 2,
    .effect 1, .deliver 1, .effect 1, .deliver 1, .start 0 (.release "b") false, .proceed 3,
    .start 0 (.borrow "c") false, .proceed 4]

/-- One publish after another. -/
def oneByOne : Run :=
  hasty 0 [.start 0 (.publish 0 "results" ⟨#[1]⟩) false, .proceed 0, .effect 0, .deliver 0,
    .effect 0, .deliver 0, .effect 0, .deliver 0, .effect 0, .deliver 0, .effect 0, .deliver 0,
    .proceed 0, .start 0 (.publish 0 "results" ⟨#[2]⟩) false, .proceed 1, .effect 1, .deliver 1,
    .effect 1, .deliver 1, .effect 1, .deliver 1, .proceed 1]

theorem twoAtOnce_bounded :
    (∃ service, twoAtOnce.free.world.services[0]? = some service ∧
      twoAtOnce.free.peak 0 = 2 ∧ service.pool.created = 2 ∧
      service.pool.idle.length + twoAtOnce.free.outstanding 0 ≤ twoAtOnce.free.peak 0 ∧
      service.pool.created ≤ service.pool.discarded + twoAtOnce.free.peak 0) ∧
    ∃ service, oneByOne.free.world.services[0]? = some service ∧
      oneByOne.free.world.result? 0 = some (.ok ()) ∧
      oneByOne.free.world.result? 1 = some (.ok ()) ∧ service.pool.created ≤ 1 := by
  have counts : twoAtOnce.free.world.services[0]?.map (·.pool.created) = some 2 := by
    decide +kernel
  have discards : oneByOne.free.world.services[0]?.map (·.pool.discarded) = some 0 := by
    decide +kernel
  obtain ⟨two, hs, created⟩ := Option.map_eq_some_iff.mp counts
  obtain ⟨one, ho, discarded⟩ := Option.map_eq_some_iff.mp discards
  have bounded := twoAtOnce.free.bounded_by_peak (by decide +kernel)
  have single := oneByOne.free.bounded_by_peak (by decide +kernel)
  obtain ⟨idle, most⟩ := bounded.1 (by decide +kernel) 0 two hs
  refine ⟨⟨two, hs, by decide +kernel, created, idle, most⟩, one, ho, by decide +kernel,
    by decide +kernel, ?_⟩
  exact single.2.2 (by decide +kernel) 0 one ho (by decide +kernel) discarded

end Run

end OutcomeRelay
