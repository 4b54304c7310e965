import OutcomeRelay.Proofs.Passages

set_option autoImplicit false

namespace OutcomeRelay

namespace IdSource

theorem dash_not_mem_digits (n : Nat) : '-' ∉ (toString n).toList := by
  intro dash
  rw [Nat.toString_eq_ofList_toDigits, String.toList_ofList] at dash
  have digit := Nat.isDigit_of_mem_toDigits (by decide) (by decide) dash
  simp [Char.isDigit] at digit

theorem digits_inj {m n : Nat} (h : (toString m).toList = (toString n).toList) : m = n := by
  simp only [Nat.toString_eq_ofList_toDigits, String.toList_ofList] at h
  have value := congrArg (Nat.ofDigitChars 10 · 0) h
  simpa using value

theorem idText_toList (base : String) (n : Nat) :
    (idText base n).toList = base.toList ++ '-' :: (toString n).toList := by
  simp [idText]

/-- An id determines its base and its number, even if the base ends in a number itself. -/
theorem idText_inj {base base' : String} {n n' : Nat} :
    idText base n = idText base' n' ↔ base = base' ∧ n = n' := by
  constructor
  · intro same
    have texts := congrArg String.toList same
    rw [idText_toList, idText_toList] at texts
    obtain ⟨bases, digits⟩ :=
      append_cons_inj texts (dash_not_mem_digits n) (dash_not_mem_digits n')
    exact ⟨String.toList_injective bases, digits_inj digits⟩
  · rintro ⟨rfl, rfl⟩
    rfl

end IdSource

def namesOf (handles : List Handle) : Multiset String := ↑(handles.map Handle.id)

@[simp] theorem namesOf_nil : namesOf [] = 0 := rfl

@[simp] theorem namesOf_cons (handle : Handle) (handles : List Handle) :
    namesOf (handle :: handles) = {handle.id} + namesOf handles := rfl

def Activity.names : Activity → Multiset String
  | creating _ id _ => {id}
  | making _ id _ => {id}
  | activity => namesOf activity.handles

theorem Activity.mem_names_of_handles {activity : Activity} {g : Handle}
    (hg : g ∈ activity.handles) : g.id ∈ activity.names := by
  have own : g.id ∈ namesOf activity.handles := Multiset.mem_coe.mpr (List.mem_map_of_mem hg)
  cases activity with
  | creating | making => simp [handles] at hg
  | _ => exact own

def Move.names (m : Move) : Multiset String :=
  m.activity.names + namesOf m.pool.idle + namesOf (m.lent.map Prod.snd).toList

namespace Activity

variable (service : Service) (pool : Pool)

theorem serve_names (handle : Handle) (purpose : Purpose) :
    (serve pool handle purpose).names = {handle.id} + namesOf pool.idle := by
  cases purpose <;> simp [serve, Move.names, names, handles, add_comm]

theorem refuse_names (error : PoolError) (purpose : Purpose) :
    (refuse pool error purpose).names = namesOf pool.idle ∧
      (refuse pool error purpose).pool = pool := by
  cases purpose <;> simp [refuse, Move.names, names, handles]

theorem afterCreation_names (purpose : Purpose) (id : String) (next : Creation.Next) :
    (afterCreation service pool purpose id next).names ≤ {id} + namesOf pool.idle ∧
      (afterCreation service pool purpose id next).pool.ids = pool.ids := by
  cases next with
  | ongoing creation => simp [afterCreation, Move.names, names]
  | made session =>
    rw [afterCreation, serve_names, serve_pool]
    exact ⟨le_rfl, rfl⟩
  | failed error =>
    obtain ⟨names, same⟩ := refuse_names pool error purpose
    rw [afterCreation, names, same]
    exact ⟨Multiset.le_add_left _ _, rfl⟩

/-- What a move does to the ids of a pool: it keeps them, or takes the next one into use. -/
inductive Draws (service : Service) (old : Multiset String) (m : Move) : Prop
  | none (ids : m.pool.ids = service.pool.ids) (names : m.names ≤ old)
  | next (ids : m.pool.ids = ⟨service.pool.ids.issued + 1⟩)
      (names : m.names ≤ old +
        {IdSource.idText service.options.baseId (service.pool.ids.issued + 1)})

theorem borrow_draws (cancelled : Bool) (purpose : Purpose) :
    Draws service (namesOf service.pool.idle) (borrow service cancelled purpose) := by
  by_cases closed : service.pool.isClosed = true
  · have found : service.pool.lookup service.options.baseId = (.closed, service.pool) := by
      simp [Pool.lookup, closed]
    obtain ⟨names, same⟩ := refuse_names service.pool .closed purpose
    rw [borrow, found]
    exact .none (congrArg Pool.ids same) names.le
  · cases hi : service.pool.idle with
    | nil =>
      have found : service.pool.lookup service.options.baseId =
          (.miss (service.pool.ids.nextId service.options.baseId).1,
            { service.pool with ids := (service.pool.ids.nextId service.options.baseId).2 }) := by
        simp [Pool.lookup, closed, hi]
      obtain ⟨names, ids⟩ := afterCreation_names service
        { service.pool with ids := (service.pool.ids.nextId service.options.baseId).2 } purpose
        (service.pool.ids.nextId service.options.baseId).1 (Creation.begin cancelled 0)
      rw [borrow, found]
      refine .next ids (names.trans_eq ?_)
      simp [hi, IdSource.nextId, IdSource.next]
    | cons handle idle =>
      have found : service.pool.lookup service.options.baseId =
          (.hit handle, { service.pool with idle := idle }) := by
        simp [Pool.lookup, closed, hi]
      rw [borrow, found]
      dsimp only
      refine .none (by rw [serve_pool]) ?_
      rw [serve_names]
      exact le_rfl

/-- A move hands handles on and may let go of some. It takes no id into use but the next one. -/
theorem resume_draws (cancelled : Bool) (activity : Activity) (signal : Signal) :
    Draws service (activity.names + namesOf service.pool.idle)
      (activity.resume service cancelled signal) := by
  cases activity with
  | borrowing purpose =>
    simpa [resume, names, handles] using borrow_draws service cancelled purpose
  | creating purpose id creation =>
    obtain ⟨names, ids⟩ := afterCreation_names service service.pool purpose id
      (creation.resume service.options.operationLimit service.creation cancelled signal)
    exact .none ids names
  | transacting t =>
    have same := (t.resume_alike service.retry cancelled signal).id
    refine .none ?_ ?_ <;> simp only [resume, afterTransaction] <;> split <;>
      simp [Move.names, names, handles, same]
  | returning handle outcome =>
    rcases giveBack_cases service.pool handle outcome with ⟨-, h⟩ | ⟨discarded, -, h⟩
    · refine .none ?_ ?_ <;> simp [resume, h, Move.names, names, handles]
    · refine .none ?_ ?_ <;> simp [resume, h, Move.names, names, handles]
  | retiring handle discarded outcome =>
    refine .none ?_ ?_ <;> cases discarded <;>
      simp [resume, afterRetiring, Move.names, names, handles, Pool.countDiscarded,
        Multiset.le_cons_self]
  | draining rest closed =>
    cases rest with
    | nil => exact .none rfl (by simp [resume, Move.names, names, handles])
    | cons handle rest =>
      refine .none rfl ?_
      simp only [resume, Move.names, names, handles, namesOf_cons, Option.map_none,
        Option.toList_none, namesOf_nil, add_zero]
      exact add_le_add_left (Multiset.le_add_left _ _) _
  | operating slot handle request =>
    refine .none rfl ?_
    simp [resume, afterOperating, Move.names, names, handles, add_comm]
  | making slot id attempt =>
    simp only [resume]
    cases attempt.resume service.options.operationLimit signal with
    | ongoing attempt => exact .none rfl (by simp [afterMaking, Move.names, names])
    | made session =>
      refine .none rfl ?_
      simp [afterMaking, Move.names, names, handles, Attempt.handle, add_comm]
    | failed error =>
      refine .none rfl ?_
      simp [afterMaking, Move.names, names, handles, Multiset.le_cons_self]
  | waiting | ended => exact .none rfl (by simp [resume, Move.names, names, handles])

end Activity

/-- Ids come from the pools: nobody makes a producer or a session under an id of his own. -/
def Event.drawsIds : Event → Bool
  | .start _ (.create _ (some _)) _ => false
  | .openSession _ _ => false
  | _ => true

theorem namesOf_contents (slots : Slots Handle) :
    namesOf (Slots.contents slots) = (heldInSlots slots).map fun hold => hold.2.getD "" := by
  simp only [namesOf, Slots.contents, heldInSlots, Multiset.map_coe, List.map_map]
  rfl

theorem names_take {slots : Slots Handle} {slot : String} {handle : Handle}
    (hl : slots.lookup slot = some handle) :
    namesOf (Slots.contents (slots.clear slot)) + {handle.id} ≤ namesOf (Slots.contents slots) := by
  have taken := Multiset.map_le_map (f := fun hold : Hold => hold.2.getD "") (heldInSlots_take hl)
  rw [Multiset.map_add, Multiset.map_singleton] at taken
  rw [namesOf_contents, namesOf_contents]
  exact taken

theorem names_clear_le (slots : Slots Handle) (slot : String) :
    namesOf (Slots.contents (slots.clear slot)) ≤ namesOf (Slots.contents slots) := by
  rw [namesOf_contents, namesOf_contents]
  exact Multiset.map_le_map (heldInSlots_clear_le slots slot)

namespace World

def names (w : World) : Multiset String :=
  (w.services.map fun service => namesOf service.pool.idle).sum +
    (w.tasks.map fun task => task.activity.names).sum + namesOf (Slots.contents w.handles)

def issuers (w : World) : List (String × Nat) :=
  w.services.map fun service => (service.options.baseId, service.pool.ids.issued)

inductive Naming (w next : World) : Prop
  | kept (issuers : next.issuers = w.issuers) (names : next.names ≤ w.names)
  | issued {k : Nat} {base : String} {n : Nat} (hk : w.issuers[k]? = some (base, n))
      (issuers : next.issuers = w.issuers.set k (base, n + 1))
      (names : next.names ≤ w.names + {IdSource.idText base (n + 1)})

variable {w : World} {i k : Nat} {task : Task} {service : Service}

theorem Naming.refl (w : World) : w.Naming w := .kept rfl le_rfl

theorem issuers_getElem? (hs : w.services[k]? = some service) :
    w.issuers[k]? = some (service.options.baseId, service.pool.ids.issued) := by
  simp [issuers, hs]

theorem issuers_modify (hs : w.services[k]? = some service) (pool : Pool) {next : World}
    (services : next.services = w.services.modify k fun s => { s with pool := pool }) :
    next.issuers = w.issuers.set k (service.options.baseId, pool.ids.issued) := by
  rw [issuers, services, modify_eq_set _ hs, List.map_set]
  rfl

theorem issuers_kept (hs : w.services[k]? = some service) (pool : Pool)
    (same : pool.ids = service.pool.ids) {next : World}
    (services : next.services = w.services.modify k fun s => { s with pool := pool }) :
    next.issuers = w.issuers := by
  rw [issuers_modify hs pool services, same]
  exact set_getElem?_self (issuers_getElem? hs)

theorem signal_naming {signal : Signal} (ht : w.tasks[i]? = some task)
    (hs : w.service? task = some service) : w.Naming (w.signal i task signal) := by
  have draws : Activity.Draws service (task.activity.names + namesOf service.pool.idle)
      (move service task signal) := task.activity.resume_draws service task.cancelled signal
  obtain ⟨pools, hp, hp'⟩ := exists_pools_rest (fun pool => namesOf pool.idle) hs
  have slots : namesOf (Slots.contents (w.signal i task signal).handles) ≤
      namesOf ((move service task signal).lent.map Prod.snd).toList +
        namesOf (Slots.contents w.handles) := by
    rw [signal_handles hs]
    cases (move service task signal).lent with
    | none => simp
    | some lent => exact Multiset.cons_le_cons lent.2.id (names_clear_le w.handles lent.1)
  -- The ids that a move adds are those that the world gains.
  have gained (fresh : Multiset String)
      (moved : (move service task signal).names ≤
        task.activity.names + namesOf service.pool.idle + fresh) :
      (w.signal i task signal).names ≤ w.names + fresh := by
    unfold names
    rw [signal_services hs, signal_tasks hs, hp, hp', sum_map_eq_add _ ht, sum_map_set _ ht]
    apply Multiset.le_iff_count.mpr
    intro name
    have counts := Multiset.le_iff_count.mp moved name
    have slot_counts := Multiset.le_iff_count.mp slots name
    simp only [Move.names, Multiset.count_add, moved_activity] at counts slot_counts ⊢
    omega
  cases draws with
  | none ids names =>
    refine .kept (issuers_kept hs _ ids (signal_services hs)) ?_
    simpa using gained 0 (by simpa using names)
  | next ids names =>
    refine .issued (issuers_getElem? hs) ?_ (gained _ names)
    rw [issuers_modify hs _ (signal_services hs), ids]

theorem addTask_names (base : World) (task : Task) :
    (base.addTask task).names = base.names + task.activity.names := by
  simp only [names, addTask_services, addTask_tasks, addTask_handles, List.map_append,
    List.map_cons, List.map_nil, List.sum_append, List.sum_singleton, moved_activity]
  abel

theorem addTask_issuers (base : World) (task : Task) :
    (base.addTask task).issuers = base.issuers := by
  rw [issuers, issuers, addTask_services]

theorem addTask_naming (base : World) {new : Task} (issuers : base.issuers = w.issuers)
    (names : base.names + new.activity.names ≤ w.names) : w.Naming (base.addTask new) :=
  .kept ((addTask_issuers _ _).trans issuers) (by rwa [addTask_names])

theorem start_naming (w : World) (k : Nat) {job : Job} {cancelled : Bool}
    (hj : (Event.start k job cancelled).drawsIds = true) :
    w.Naming (w.start k job cancelled) := by
  have taken {slot : String} {handle : Handle} (hl : w.handles.lookup slot = some handle)
      {activity : Activity} (names : activity.names = {handle.id}) :
      World.names { w with handles := w.handles.clear slot } + activity.names ≤ w.names := by
    rw [names]
    simp only [World.names]
    rw [add_assoc]
    exact add_le_add le_rfl (names_take hl)
  unfold start
  cases hs : w.services[k]? with
  | none => exact .refl w
  | some s =>
    cases job with
    | publish after topic payload =>
      refine addTask_naming _ rfl ?_
      simp only [Activity.begin]
      split <;> simp [Activity.names, Activity.handles]
    | report message stamp =>
      dsimp only
      split <;> exact addTask_naming _ rfl (by simp [Activity.names, Activity.handles])
    | borrow slot => exact addTask_naming _ rfl (by simp [Activity.names, Activity.handles])
    | release slot =>
      dsimp only
      cases hl : w.handles.lookup slot with
      | none => exact .refl w
      | some handle => exact addTask_naming _ rfl (taken hl rfl)
    | operate slot request =>
      dsimp only
      cases hl : w.handles.lookup slot with
      | none => exact .refl w
      | some handle => exact addTask_naming _ rfl (taken hl rfl)
    | shutdown =>
      obtain ⟨pools, hp, hp'⟩ := exists_pools_rest (fun pool => namesOf pool.idle) hs
      have drained : namesOf s.pool.idle.reverse = namesOf s.pool.idle := by simp [namesOf]
      refine addTask_naming (w.setPool k s.pool.drain.2) (issuers_kept hs s.pool.drain.2 rfl rfl) ?_
      simp only [names, setPool, hp, hp', Activity.names, Activity.handles, Pool.drain, drained,
        namesOf_nil]
      exact le_of_eq (by abel)
    | create slot id =>
      cases id with
      | some id => simp [Event.drawsIds] at hj
      | none =>
        obtain ⟨pools, hp, hp'⟩ := exists_pools_rest (fun pool => namesOf pool.idle) hs
        have issued : (w.setPool k { s.pool with ids := s.pool.ids.next.2 }).issuers =
            w.issuers.set k (s.options.baseId, s.pool.ids.issued + 1) :=
          issuers_modify hs { s.pool with ids := s.pool.ids.next.2 } rfl
        refine .issued (issuers_getElem? hs) ((addTask_issuers _ _).trans issued) ?_
        rw [addTask_names]
        simp only [names, setPool, hp, hp', Activity.names]
        exact le_rfl

theorem apply_naming (w : World) {event : Event} (he : event.drawsIds = true) :
    w.Naming (w.apply event) := by
  cases hi : eventTask? event with
  | some i =>
    rcases apply_touches hi with same | ⟨task, ht, touches⟩
    · exact same ▸ .refl w
    · have replaced {new : Task} (cluster : Cluster)
          (less : new.activity.names ≤ task.activity.names) :
          w.Naming ((w.putCluster cluster).setTask i new) := by
        refine .kept rfl ?_
        simp only [names, setTask_services, setTask_tasks, setTask_handles, putCluster,
          sum_map_eq_add _ ht, sum_map_set _ ht]
        exact add_le_add (add_le_add le_rfl (add_le_add less le_rfl)) le_rfl
      generalize w.apply event = next at touches
      cases touches with
      | @told s heard =>
        cases hs : w.service? task with
        | none =>
          rw [signal_of_no_service hs]
          exact .refl w
        | some service => exact signal_naming ht hs
      | flagged new cluster same cancelled answer unheard calm =>
        have activity : new.activity = task.activity := congrArg Prod.snd same
        exact replaced cluster (by rw [activity])
      | crashed hd panics => exact replaced w.cluster (Multiset.zero_le _)
  | none =>
    simp only [apply, hi]
    cases event with
    | start k job cancelled => exact w.start_naming k he
    | tick | toggleOffline | refuse | inject => exact .kept rfl le_rfl
    | forget slot => exact .kept rfl (add_le_add le_rfl (names_clear_le _ _))
    | markFatal slot =>
      change w.Naming (w.markFatal slot)
      unfold markFatal
      split
      · exact .refl w
      · rename_i handle hl
        refine .kept rfl (add_le_add le_rfl ?_)
        have put := names_take hl
        rw [add_comm, ← handle.markFatal_id] at put
        exact put
    | openSession slot settings => simp [Event.drawsIds] at he
    | request slot request =>
      change w.Naming (w.request slot request).2
      unfold World.request
      split <;> exact .kept rfl le_rfl
    | _ => simp [eventTask?] at hi

/-- Every id is in use in one place, and it is one that a service has issued. -/
structure Named (w : World) : Prop where
  once : w.names.Nodup
  issued : ∀ name ∈ w.names, ∃ base last n,
    (base, last) ∈ w.issuers ∧ n ≤ last ∧ name = IdSource.idText base n
  bases : (w.issuers.map Prod.fst).Nodup

theorem Named.step (h : w.Named) {next : World} (naming : w.Naming next) : next.Named := by
  cases naming with
  | kept issuers names =>
    refine ⟨Multiset.nodup_of_le names h.once, fun name hn => ?_, issuers ▸ h.bases⟩
    rw [issuers]
    exact h.issued name (Multiset.mem_of_le names hn)
  | @issued k base n hk issuers names =>
    have entry : (base, n) ∈ w.issuers := List.mem_of_getElem? hk
    have here : k < w.issuers.length := (List.getElem?_eq_some_iff.mp hk).1
    -- The next number of a service has not been issued by it, and its name is nobody else's.
    have fresh : IdSource.idText base (n + 1) ∉ w.names := by
      intro used
      obtain ⟨base', last, m, among, below, same⟩ := h.issued _ used
      obtain ⟨rfl, rfl⟩ := IdSource.idText_inj.mp same
      have one := List.inj_on_of_nodup_map h.bases among entry rfl
      obtain rfl : last = n := congrArg Prod.snd one
      omega
    refine ⟨?_, ?_, ?_⟩
    · refine Multiset.nodup_of_le names ?_
      rw [add_comm, Multiset.singleton_add, Multiset.nodup_cons]
      exact ⟨fresh, h.once⟩
    · rw [issuers]
      intro name hn
      rcases Multiset.mem_add.mp (Multiset.mem_of_le names hn) with old | new
      · obtain ⟨base', last, m, among, below, rfl⟩ := h.issued name old
        rcases eq_or_ne (base', last) (base, n) with same | other
        · obtain ⟨rfl, rfl⟩ := Prod.mk.inj same
          exact ⟨base', last + 1, m, List.mem_set here _, by omega, rfl⟩
        · obtain ⟨j, hj⟩ := List.mem_iff_getElem?.mp among
          have apart : k ≠ j := by
            rintro rfl
            exact other (Option.some.inj (hj.symm.trans hk))
          refine ⟨base', last, m, List.mem_of_getElem? (i := j) ?_, below, rfl⟩
          rw [List.getElem?_set_ne apart, hj]
      · exact ⟨base, n + 1, n + 1, List.mem_set here _, le_rfl, Multiset.mem_singleton.mp new⟩
    · rw [issuers, List.map_set]
      have same : (w.issuers.map Prod.fst).set k base = w.issuers.map Prod.fst :=
        set_getElem?_self (by simp [hk])
      rw [same]
      exact h.bases

def namesBesides (w : World) (i : Nat) : Multiset String :=
  (w.services.map fun service => namesOf service.pool.idle).sum +
    ((w.tasks.eraseIdx i).map fun task => task.activity.names).sum +
    namesOf (Slots.contents w.handles)

theorem Named.apart (h : w.Named) (ht : w.tasks[i]? = some task) {name : String}
    (mem : name ∈ task.activity.names) : name ∉ w.namesBesides i := by
  have parts : w.names = task.activity.names + w.namesBesides i := by
    rw [names, namesBesides, sum_map_eq_add _ ht]
    abel
  have once := h.once
  rw [parts, Multiset.nodup_add] at once
  exact Multiset.disjoint_left.mp once.2.2 mem

theorem mem_namesBesides_of_task {j : Nat} (ht : w.tasks[j]? = some task) (other : j ≠ i)
    {name : String} (mem : name ∈ task.activity.names) : name ∈ w.namesBesides i := by
  simp only [namesBesides, Multiset.mem_add]
  exact .inl (.inr (mem_sum_map (f := fun task : Task => task.activity.names)
    (List.mem_eraseIdx_iff_getElem?.mpr ⟨j, other, ht⟩) mem))

theorem mem_namesBesides_of_producer {g : Handle} (hg : g ∈ w.producers)
    (ht : w.tasks[i]? = some task) (none_held : task.activity.handles = []) :
    g.id ∈ w.namesBesides i := by
  have own {handles : List Handle} (mem : g ∈ handles) : g.id ∈ namesOf handles :=
    Multiset.mem_coe.mpr (List.mem_map_of_mem mem)
  rcases mem_producers.mp hg with ⟨service, hs, idle⟩ | ⟨user, hu, has⟩ | ⟨slot, hs, rfl⟩
  · simp only [namesBesides, Multiset.mem_add]
    exact .inl (.inl (mem_sum_map (f := fun service : Service => namesOf service.pool.idle) hs
      (own idle)))
  · obtain ⟨j, hj⟩ := List.mem_iff_getElem?.mp hu
    refine mem_namesBesides_of_task hj ?_ (Activity.mem_names_of_handles has)
    rintro rfl
    obtain rfl := Option.some.inj (hj.symm.trans ht)
    simp [none_held] at has
  · simp only [namesBesides, Multiset.mem_add]
    exact .inr (own (List.mem_map_of_mem hs))

theorem Named.initial (partitions : Nat) {services : List Service}
    (empty : ∀ service ∈ services, service.pool.idle = [])
    (bases : (services.map (·.options.baseId)).Nodup) :
    (World.initial partitions services).Named := by
  have unused : (World.initial partitions services).names = 0 := by
    have pools : (services.map fun service => namesOf service.pool.idle).sum = 0 := by
      refine List.sum_eq_zero fun names hn => ?_
      obtain ⟨service, hs, rfl⟩ := List.mem_map.mp hn
      simp [empty service hs]
    simp [names, World.initial, pools, Slots.contents]
  refine ⟨by simp [unused], by simp [unused], ?_⟩
  simpa [issuers, World.initial, Function.comp_def] using bases

end World

/-- The ids in a run come from the pools, and no two services have one name. -/
structure Run.DrawsIds (r : Run) : Prop where
  events : ∀ event ∈ r.events, event.drawsIds = true
  bases : (r.services.map (·.options.baseId)).Nodup

theorem Run.DrawsIds.of_extend {r : Run} {e : Event} (h : (r.extend [e]).DrawsIds) :
    r.DrawsIds ∧ e.drawsIds = true :=
  ⟨⟨fun other ho => h.events other (List.mem_append_left _ ho), h.bases⟩,
    h.events e (List.mem_append_right _ List.mem_cons_self)⟩

theorem Run.DrawsIds.named {r : Run} (h : r.DrawsIds) : r.world.Named := by
  induction r using by_events with
  | idle r nothing => exact world_of_idle nothing ▸ .initial _ r.fresh h.bases
  | event r e ih =>
    obtain ⟨before, draws⟩ := h.of_extend
    rw [extend_world]
    exact (ih before).step (World.apply_naming _ draws)

end OutcomeRelay
