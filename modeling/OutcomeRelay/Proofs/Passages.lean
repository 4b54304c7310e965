import OutcomeRelay.Proofs.Release

set_option autoImplicit false

/-!
# Where handles come from and where they go

A handle comes into being when a session is registered, and it is gone when it was closed or
dropped; in between it changes hands. Main statement: whatever happens, the handles that there are
afterwards and those that have gone are the handles that there were and those that were made.
-/

namespace OutcomeRelay

/-- How handles come into being, are given back and go. -/
inductive Passage where
  /-- A borrow from the pool created it. -/
  | created (pool : Nat) (session : SessionId)
  /-- It was made without a borrow. -/
  | madeAside (session : SessionId)
  /-- A lent handle goes back to the pool. -/
  | handedBack (pool : Nat) (session : SessionId)
  /-- Giving it back has come to its end; it is closed unless the pool keeps it. -/
  | released (pool : Nat) (handle : Handle) (kept : Bool)
  /-- It was idle when the pool was closed, and it was closed with it. -/
  | shut (pool : Nat) (session : SessionId)
  /-- Whoever had it has let go of it. -/
  | dropped (session : SessionId)
deriving DecidableEq

namespace Passage

def made? : Passage → Option SessionId
  | created _ session => some session
  | madeAside session => some session
  | _ => none

def gone? : Passage → Option SessionId
  | released _ handle kept => if kept then none else some handle.session
  | shut _ session => some session
  | dropped session => some session
  | _ => none

def isCreation (pool : Nat) : Passage → Bool
  | created k _ => k = pool
  | _ => false

def isDiscard (pool : Nat) : Passage → Bool
  | released k handle _ => k = pool && handle.status ≠ .ready
  | _ => false

end Passage

def arrivals (passages : List Passage) : Multiset SessionId := ↑(passages.filterMap Passage.made?)

def departures (passages : List Passage) : Multiset SessionId := ↑(passages.filterMap Passage.gone?)

@[simp] theorem arrivals_nil : arrivals [] = 0 := rfl

@[simp] theorem departures_nil : departures [] = 0 := rfl

theorem arrivals_append (before after : List Passage) :
    arrivals (before ++ after) = arrivals before + arrivals after := by
  simp [arrivals]

theorem departures_append (before after : List Passage) :
    departures (before ++ after) = departures before + departures after := by
  simp [departures]

def sessionsOf (handles : List Handle) : Multiset SessionId := ↑(handles.map Handle.session)

@[simp] theorem sessionsOf_nil : sessionsOf [] = 0 := rfl

@[simp] theorem sessionsOf_cons (handle : Handle) (handles : List Handle) :
    sessionsOf (handle :: handles) = {handle.session} + sessionsOf handles := rfl

theorem sessionsOf_append (before after : List Handle) :
    sessionsOf (before ++ after) = sessionsOf before + sessionsOf after := by
  simp [sessionsOf]

theorem sessionsOf_flatMap {α : Type} (f : α → List Handle) (l : List α) :
    sessionsOf (l.flatMap f) = (l.map fun a => sessionsOf (f a)).sum := by
  induction l with
  | nil => rfl
  | cons a l ih => rw [List.flatMap_cons, sessionsOf_append, ih, List.map_cons, List.sum_cons]

def drops (handles : List Handle) : List Passage :=
  handles.map fun handle => .dropped handle.session

@[simp] theorem arrivals_drops (handles : List Handle) : arrivals (drops handles) = 0 := by
  induction handles with
  | nil => rfl
  | cons handle handles ih => exact ih

@[simp] theorem departures_drops (handles : List Handle) :
    departures (drops handles) = sessionsOf handles := by
  induction handles with
  | nil => rfl
  | cons handle handles ih =>
    rw [sessionsOf_cons, ← ih]
    rfl

namespace Slots

def contents (slots : Slots Handle) : List Handle := slots.map Prod.snd

def within (slots : Slots Handle) (name : String) : List Handle :=
  contents (slots.filter (·.1 = name))

def Distinct (slots : Slots Handle) : Prop := (slots.map Prod.fst).Nodup

variable {slots : Slots Handle} {name : String}

theorem Distinct.clear (h : Distinct slots) (name : String) : Distinct (slots.clear name) :=
  h.sublist (List.filter_sublist.map _)

theorem Distinct.put (h : Distinct slots) (name : String) (handle : Handle) :
    Distinct (slots.put name handle) := by
  refine List.nodup_cons.mpr ⟨?_, h.clear name⟩
  simp [List.mem_filter]

theorem contents_clear (slots : Slots Handle) (name : String) :
    sessionsOf (contents (slots.clear name)) + sessionsOf (within slots name) =
      sessionsOf (contents slots) := by
  have split := (List.filter_append_perm (fun slot : String × Handle => slot.1 = name) slots).map
    fun slot => slot.2.session
  rw [add_comm, ← sessionsOf_append]
  refine Multiset.coe_eq_coe.mpr ?_
  simpa [within, contents, clear, Function.comp_def] using split

theorem within_of_lookup (h : Distinct slots) {handle : Handle}
    (hl : slots.lookup name = some handle) : within slots name = [handle] := by
  obtain ⟨before, after, rfl, unlike⟩ := List.lookup_eq_some_iff.mp hl
  have first : before.filter (·.1 = name) = [] := by
    refine List.filter_eq_nil_iff.mpr fun slot hs => ?_
    have other : name ≠ slot.1 := by simpa using unlike slot hs
    simpa using other.symm
  have last : after.filter (·.1 = name) = [] := by
    refine List.filter_eq_nil_iff.mpr fun slot hs => ?_
    have apart : name ∉ after.map Prod.fst := by
      have names : (before.map Prod.fst ++ name :: after.map Prod.fst).Nodup := by
        simpa [Distinct] using h
      exact (List.nodup_cons.mp names.of_append_right).1
    have other : slot.1 ≠ name := fun same => apart (same ▸ List.mem_map_of_mem hs)
    simpa using other
  simp [within, contents, first, last]

end Slots

/-! ### One move -/

namespace Activity

/-- What a move of a task of the pool does to the handles, but for those that it drops. -/
def passages (pool : Nat) (activity : Activity) (m : Move) : List Passage :=
  match activity with
  | creating _ _ _ => m.handles.map fun g => .created pool g.session
  | making _ _ _ => m.handles.map fun g => .madeAside g.session
  | returning handle _ => if m.activity.outcome?.isSome then [.released pool handle true] else []
  | retiring handle _ _ => [.released pool handle false]
  | draining (handle :: _) _ => [.shut pool handle.session]
  | _ => []

/-- What is closed is not ready, or its pool is closed. -/
def Orderly (pool : Pool) : Activity → Prop
  | retiring handle discarded _ =>
    (discarded = true ↔ handle.status ≠ .ready) ∧ (discarded = false → pool.isClosed = true)
  | draining (_ :: _) _ => pool.isClosed = true
  | _ => True

theorem Orderly.mono {pool later : Pool} (h : pool.isClosed = true → later.isClosed = true)
    {activity : Activity} (orderly : activity.Orderly pool) : activity.Orderly later := by
  cases activity with
  | retiring handle discarded outcome => exact ⟨orderly.1, fun kept => h (orderly.2 kept)⟩
  | draining handles closed =>
    cases handles with
    | nil => trivial
    | cons handle handles => exact h orderly
  | _ => trivial

theorem Orderly.of_closed {pool : Pool} (closed : pool.isClosed = true) (handles : List Handle)
    (count : Nat) : (draining handles count).Orderly pool := by
  cases handles with
  | nil => trivial
  | cons handle handles => exact closed

namespace Moves

variable {service : Service} {answer : Option Signal} {activity : Activity} {m : Move}

theorem passages_on {next : Activity} (before : activity.handles = []) (after : next.handles = [])
    (k : Nat) (pool : Pool) : activity.passages k { activity := next, pool := pool } = [] := by
  cases activity with
  | creating | making => simp [passages, Move.handles, after]
  | returning | retiring => simp [handles] at before
  | draining hs closed =>
    obtain rfl : hs = [] := before
    rfl
  | _ => rfl

/-- The handles that there are after a move, and those that are gone, are those that there were
before, and those that were made. -/
theorem conserved (h : Moves service answer activity m) (k : Nat) :
    sessionsOf m.handles + sessionsOf m.pool.idle + departures (activity.passages k m) =
      sessionsOf activity.handles + sessionsOf service.pool.idle +
        arrivals (activity.passages k m) := by
  cases h with
  | on ids before after attempt =>
    rw [passages_on before after]
    simp [Move.handles, before, after]
  | lent taken =>
    simp [serve_handles, serve_pool, taken, passages, handles]
  | made opened =>
    simp [serve_handles, serve_pool, passages, handles, arrivals, departures, Passage.made?,
      Passage.gone?, Pool.countCreated, add_comm]
  | madeAside opened =>
    simp [passages, handles, Move.handles, arrivals, departures, Passage.made?, Passage.gone?,
      add_comm]
  | transacted ages | finished ages | operated ages =>
    simp [passages, handles, Move.handles, ages.session]
  | kept ready =>
    simp [passages, handles, Move.handles, outcome?, arrivals, departures, Passage.made?,
      Passage.gone?]
  | setAside why => simp [passages, handles, Move.handles, outcome?]
  | @retired handle outcome discarded =>
    cases discarded <;>
      simp [passages, handles, Move.handles, afterRetiring, arrivals, departures, Passage.made?,
        Passage.gone?, Pool.countDiscarded, add_comm]
  | drained =>
    simp [-Multiset.singleton_add, passages, handles, Move.handles, arrivals, departures,
      List.filterMap_cons, Passage.made?, Passage.gone?]
    abel

theorem arrivals_le (h : Moves service answer activity m) (k : Nat) :
    arrivals (activity.passages k m) ≤ (activity.attempted answer).map Prod.fst := by
  have one {attempted : Multiset Hold} {session : SessionId} {id : Option String}
      (opened : (session, id) ∈ attempted) : {session} ≤ attempted.map Prod.fst :=
    Multiset.singleton_le.mpr (Multiset.mem_map.mpr ⟨_, opened, rfl⟩)
  cases h with
  | on ids before after attempt =>
    rw [passages_on before after]
    exact Multiset.zero_le _
  | made opened =>
    refine le_of_eq_of_le ?_ (one opened)
    simp [serve_handles, passages, arrivals, Passage.made?, Attempt.handle]
  | madeAside opened =>
    refine le_of_eq_of_le ?_ (one opened)
    simp [Move.handles, handles, passages, arrivals, Passage.made?, Attempt.handle]
  | lent | transacted | finished | operated => exact Multiset.zero_le _
  | kept ready => simp [passages, outcome?, arrivals, List.filterMap_cons, Passage.made?]
  | setAside why => simp [passages, outcome?]
  | retired | drained => simp [passages, arrivals, List.filterMap_cons, Passage.made?]

theorem counted (h : Moves service answer activity m) (orderly : activity.Orderly service.pool)
    (k : Nat) :
    m.pool.created = service.pool.created + (activity.passages k m).countP (·.isCreation k) ∧
    m.pool.discarded =
      service.pool.discarded + (activity.passages k m).countP (·.isDiscard k) := by
  cases h with
  | on ids before after attempt =>
    rw [passages_on before after]
    exact ⟨rfl, rfl⟩
  | made opened =>
    simp [serve_handles, serve_pool, passages, Passage.isCreation, Passage.isDiscard,
      Pool.countCreated]
  | madeAside opened =>
    simp [Move.handles, handles, passages, Passage.isCreation, Passage.isDiscard]
  | lent taken => simp [serve_pool, passages]
  | transacted | finished | operated => simp [passages]
  | kept ready =>
    simp [passages, outcome?, Passage.isCreation, Passage.isDiscard, ready]
  | setAside why => simp [passages, outcome?]
  | @retired handle outcome discarded =>
    have why := orderly.1
    cases discarded with
    | false =>
      have ready : handle.status = .ready := by simpa using why
      simp [passages, afterRetiring, Passage.isCreation, Passage.isDiscard, ready]
    | true =>
      have unready : handle.status ≠ .ready := by simpa using why
      simp [passages, afterRetiring, Passage.isCreation, Passage.isDiscard, unready,
        Pool.countDiscarded]
  | drained => simp [passages, Passage.isCreation, Passage.isDiscard]

theorem ready_of_kept (h : Moves service answer activity m) {j k : Nat} {handle : Handle}
    (kept : .released j handle true ∈ activity.passages k m) : handle.status = .ready := by
  cases h with
  | on ids before after attempt =>
    rw [passages_on before after] at kept
    simp at kept
  | @kept own outcome ready =>
    obtain ⟨-, rfl⟩ : j = k ∧ handle = own := by simpa [passages, outcome?] using kept
    exact ready
  | setAside why => simp [passages, outcome?] at kept
  | _ => simp [passages] at kept

theorem isClosed_eq (h : Moves service answer activity m) :
    m.pool.isClosed = service.pool.isClosed := by
  cases h with
  | lent => rw [serve_pool]
  | made =>
    rw [serve_pool]
    rfl
  | @retired handle outcome discarded => cases discarded <;> rfl
  | _ => rfl

theorem orderly_of_handles {activity : Activity} (h : activity.handles = []) (pool : Pool) :
    activity.Orderly pool := by
  cases activity with
  | retiring => simp [handles] at h
  | draining handles closed =>
    obtain rfl : handles = [] := h
    trivial
  | _ => trivial

theorem serve_orderly (pool pool' : Pool) (handle : Handle) (purpose : Purpose) :
    (serve pool handle purpose).activity.Orderly pool' := by
  cases purpose <;> trivial

theorem orderly (h : Moves service answer activity m) (old : activity.Orderly service.pool) :
    m.activity.Orderly m.pool := by
  cases h with
  | on ids before after attempt => exact orderly_of_handles after _
  | lent | made => exact serve_orderly _ _ _ _
  | setAside why => exact why
  | @drained handle handles closed =>
    cases handles with
    | nil => trivial
    | cons next handles => exact old
  | madeAside | transacted | finished | kept | retired | operated => trivial

theorem ofPool_of_serve {pool : Pool} {handle g : Handle} {purpose : Purpose}
    (hg : g ∈ (serve pool handle purpose).activity.ofPool) : g = handle := by
  cases purpose with
  | publish topic payload => simpa [serve, ofPool, handles] using hg
  | lend slot => simp [serve, ofPool, handles] at hg

theorem ofPool_origin (h : Moves service answer activity m) {g : Handle}
    (hg : g ∈ m.activity.ofPool) (k : Nat) :
    (∃ handle ∈ activity.ofPool, handle.session = g.session) ∨
      (∃ handle ∈ service.pool.idle, handle.session = g.session) ∨
      .created k g.session ∈ activity.passages k m := by
  cases h with
  | on ids before after attempt =>
    have none_left := handles_of_ofPool hg
    simp [after] at none_left
  | lent taken =>
    obtain rfl := ofPool_of_serve hg
    exact .inr (.inl ⟨g, taken ▸ List.mem_cons_self, rfl⟩)
  | made opened =>
    obtain rfl := ofPool_of_serve hg
    exact .inr (.inr (by simp [passages, serve_handles]))
  | transacted ages | finished ages =>
    obtain rfl : g = _ := by simpa [ofPool, handles] using hg
    exact .inl ⟨_, List.mem_singleton_self _, ages.session.symm⟩
  | setAside why => exact .inl ⟨g, hg, rfl⟩
  | drained => exact .inl ⟨g, List.mem_cons_of_mem _ hg, rfl⟩
  | madeAside | kept | retired | operated => simp [ofPool, handles, afterRetiring] at hg

end Moves

theorem ofPool_of_passage (activity : Activity) (k : Nat) (m : Move) :
    (∀ j handle kept, .released j handle kept ∈ activity.passages k m →
      j = k ∧ handle ∈ activity.ofPool) ∧
    ∀ j s, .shut j s ∈ activity.passages k m →
      j = k ∧ ∃ handle ∈ activity.ofPool, handle.session = s := by
  cases activity with
  | draining rest closed =>
    cases rest with
    | nil => simp [passages]
    | cons handle rest => simp +contextual [passages, ofPool, handles]
  | returning handle outcome =>
    simp only [passages]
    split <;> simp +contextual [ofPool, handles]
  | retiring handle discarded outcome => simp +contextual [passages, ofPool, handles]
  | _ => simp [passages]

theorem arrivals_le_handles (k : Nat) (activity : Activity) (m : Move) :
    arrivals (activity.passages k m) ≤ sessionsOf m.handles := by
  have all {f : Handle → Passage} (makes : ∀ g, (f g).made? = some g.session) :
      arrivals (m.handles.map f) = sessionsOf m.handles := by
    simp [arrivals, sessionsOf, List.filterMap_map, makes, List.filterMap_eq_map']
  cases activity with
  | creating | making => exact (all fun _ => rfl).le
  | returning handle outcome =>
    simp only [passages]
    split <;> exact Multiset.zero_le _
  | draining rest closed => cases rest <;> exact Multiset.zero_le _
  | _ => exact Multiset.zero_le _

theorem countP_passages {j k : Nat} (other : k ≠ j) (activity : Activity) (m : Move) :
    (activity.passages k m).countP (·.isCreation j) = 0 ∧
      (activity.passages k m).countP (·.isDiscard j) = 0 := by
  simp only [List.countP_eq_zero]
  cases activity with
  | creating | making => simp [passages, Passage.isCreation, Passage.isDiscard, other]
  | returning handle outcome =>
    simp only [passages]
    split <;> simp [Passage.isCreation, Passage.isDiscard, other]
  | retiring => simp [passages, Passage.isCreation, Passage.isDiscard, other]
  | draining rest closed =>
    cases rest <;> simp [passages, Passage.isCreation, Passage.isDiscard]
  | _ => simp [passages]

theorem Orderly.closed {pool : Pool} {activity : Activity} (h : activity.Orderly pool) {k : Nat}
    {m : Move} :
    (∀ j handle, .released j handle false ∈ activity.passages k m → handle.status = .ready →
      pool.isClosed = true) ∧
    ∀ j s, .shut j s ∈ activity.passages k m → pool.isClosed = true := by
  cases activity with
  | draining rest closed =>
    cases rest with
    | nil => simp [passages]
    | cons handle rest =>
      have closed : pool.isClosed = true := h
      simp [passages, closed]
  | returning handle outcome =>
    simp only [passages]
    split <;> simp
  | retiring handle discarded outcome =>
    obtain ⟨unready, closed⟩ := h
    refine ⟨?_, by simp [passages]⟩
    intro j other released ready
    obtain ⟨-, rfl⟩ : j = k ∧ other = handle := by simpa [passages] using released
    exact closed (by simpa [ready] using unready)
  | _ => simp [passages]

end Activity

/-! ### One step -/

namespace World

variable {w next : World}

def replaced (w : World) : Option (String × Handle) → List Passage
  | none => []
  | some (slot, _) => drops (Slots.within w.handles slot)

def movePassages (w : World) (task : Task) (m : Move) : List Passage :=
  task.activity.passages task.service m ++ w.replaced m.lent

def entryPassages (task : Task) : List Passage :=
  match task.activity with
  | .returning handle _ => [.handedBack task.service handle.session]
  | _ => []

def taskPassages (w : World) (task : Task) (event : Event) : List Passage :=
  match event with
  | .crash _ _ =>
    if (w.demand task).isCall then drops task.activity.handles else []
  | event =>
    match task.hears? (w.demand task) event, w.service? task with
    | some signal, some service => w.movePassages task (move service task signal)
    | _, _ => []

def passages (w : World) (o : Occurrence) : List Passage :=
  match o with
  | .answer _ _ => []
  | .event event =>
    match eventTask? event with
    | some i =>
      match w.tasks[i]? with
      | some task => w.taskPassages task event
      | none => []
    | none =>
      match event with
      | .start k job cancelled =>
        ((w.start k job cancelled).tasks.drop w.tasks.length).flatMap entryPassages
      | .forget slot => drops (Slots.within w.handles slot)
      | _ => []

/-- The ways in which what happens bears on the handles. -/
inductive Passing (w : World) : List Passage → World → Prop where
  | still {next : World} (services : next.services = w.services)
      (handles : next.handles = w.handles)
      (tasks : next.tasks.map (fun task => (task.service, task.activity)) =
        w.tasks.map fun task => (task.service, task.activity)) : Passing w [] next
  | told {i : Nat} {task : Task} {service : Service} {signal : Signal}
      (ht : w.tasks[i]? = some task) (hs : w.service? task = some service)
      (news : signal.IsNews task.answer) :
      Passing w (w.movePassages task (move service task signal)) (w.signal i task signal)
  | begun {base : World} {task : Task} {note : Option Note}
      (hb : w.Begins base task.activity note) (drains : w.Drains base task) :
      Passing w (entryPassages task) (base.addTask task)
  | crashed {i : Nat} {task : Task} (ht : w.tasks[i]? = some task) (text : String) :
      Passing w (drops task.activity.handles)
        (w.setTask i (w.moved task (.ended (.crashed text))))
  | forgot (slot : String) :
      Passing w (drops (Slots.within w.handles slot))
        ({ w with handles := w.handles.clear slot } : World)
  | spoiled {slot : String} {handle : Handle} (hl : w.handles.lookup slot = some handle) :
      Passing w [] ({ w with handles := w.handles.put slot handle.markFatal } : World)

def kept (w : World) : Multiset SessionId := sessionsOf w.producers

theorem kept_eq (w : World) : w.kept =
    (w.services.map fun service => sessionsOf service.pool.idle).sum +
      (w.tasks.map fun task => sessionsOf task.activity.handles).sum +
      sessionsOf (Slots.contents w.handles) := by
  simp only [kept, producers, sessionsOf_append, sessionsOf_flatMap]
  rfl

theorem mem_kept {s : SessionId} : s ∈ w.kept ↔ ∃ g ∈ w.producers, g.session = s := by
  simp [kept, sessionsOf]

theorem Passing.refl (w : World) : w.Passing [] w := .still rfl rfl rfl

theorem Passing.flagged {i : Nat} {task : Task} (ht : w.tasks[i]? = some task) (new : Task)
    (same : (new.service, new.activity) = (task.service, task.activity)) (cluster : Cluster) :
    w.Passing [] ((w.putCluster cluster).setTask i new) := by
  refine .still rfl rfl ?_
  have tasks := congrArg (List.map fun t => (t.service, t.activity)) (set_getElem?_self ht)
  rw [List.map_set, ← same, ← List.map_set] at tasks
  exact tasks

theorem taskPassages_of_hears {i : Nat} {task : Task} {event : Event} {signal : Signal}
    (ht : w.tasks[i]? = some task) (heard : task.hears? (w.demand task) event = some signal) :
    w.Passing (w.taskPassages task event) (w.signal i task signal) := by
  have passages : w.taskPassages task event = (w.service? task).elim []
      fun service => w.movePassages task (move service task signal) := by
    unfold taskPassages
    split
    · simp [Task.hears?] at heard
    · rw [heard]
      cases w.service? task <;> rfl
  rw [passages]
  cases hs : w.service? task with
  | none =>
    rw [signal_of_no_service hs]
    exact .refl w
  | some service =>
    obtain ⟨note, told⟩ := told_of_hears i heard
    exact .told ht hs told.isNews

theorem applyTask_passes {i : Nat} {task : Task} {event : Event} (ht : w.tasks[i]? = some task)
    (he : eventTask? event = some i) :
    w.Passing (w.taskPassages task event) (w.applyTask i task event) := by
  have touches := applyTask_touches ht he
  generalize w.applyTask i task event = next at touches
  cases touches with
  | told heard => exact taskPassages_of_hears ht heard
  | flagged new cluster same cancelled answer unheard calm =>
    have nothing : w.taskPassages task event = [] := by
      unfold taskPassages
      split
      · simp [calm _ _ rfl]
      · rw [unheard]
    rw [nothing]
    exact .flagged ht new same cluster
  | crashed hd panics =>
    subst panics
    simp only [taskPassages, hd, if_true]
    exact .crashed ht _

theorem answerTask_passes {i : Nat} {task : Task} (ht : w.tasks[i]? = some task) (reply : Reply) :
    w.Passing [] (w.answerTask i task reply) := by
  unfold answerTask
  split
  · exact .refl w
  · have given (answer : Signal) (cluster : Cluster) : w.Passing []
        ((w.putCluster cluster).setTask i { task with answer := some answer }) :=
      .flagged ht { task with answer := some answer } rfl cluster
    split
    · exact given _ _
    · exact given _ w.cluster
    · exact given _ w.cluster
    · exact .refl w

theorem start_passes (w : World) (k : Nat) (job : Job) (cancelled : Bool) :
    w.Passing (((w.start k job cancelled).tasks.drop w.tasks.length).flatMap entryPassages)
      (w.start k job cancelled) := by
  rcases w.start_cases k job cancelled with same | ⟨base, task, note, h, hb, drains, -⟩
  · simpa [same] using Passing.refl w
  · have entry : ((base.addTask task).tasks.drop w.tasks.length).flatMap entryPassages =
        entryPassages task := by
      simp [hb.tasks, entryPassages, moved]
    rw [h, entry]
    exact .begun hb drains

theorem undergo_passes (w : World) (o : Occurrence) : w.Passing (w.passages o) (w.undergo o) := by
  cases o with
  | answer i reply =>
    simp only [undergo, passages]
    cases ht : w.tasks[i]? with
    | none => exact .refl w
    | some task => exact answerTask_passes ht reply
  | event event =>
    simp only [undergo, passages]
    cases he : eventTask? event with
    | some i =>
      simp only [apply, he]
      cases ht : w.tasks[i]? with
      | none => exact .refl w
      | some task => exact applyTask_passes ht he
    | none =>
      cases event with
      | start k job cancelled => exact w.start_passes k job cancelled
      | forget slot => exact .forgot slot
      | markFatal slot =>
        change w.Passing [] (w.markFatal slot)
        unfold markFatal
        split
        · exact .refl w
        · exact .spoiled ‹_›
      | openSession slot settings =>
        change w.Passing [] (w.openSession slot settings).2
        unfold openSession
        split <;> exact .still rfl rfl rfl
      | request slot request =>
        change w.Passing [] (w.request slot request).2
        unfold World.request
        split <;> exact .still rfl rfl rfl
      | tick | toggleOffline | refuse | inject => exact .still rfl rfl rfl
      | _ => simp [eventTask?] at he

/-! ### Nothing is lost -/

theorem arrivals_replaced (w : World) (lent : Option (String × Handle)) :
    arrivals (w.replaced lent) = 0 := by
  cases lent with
  | none => rfl
  | some lent => exact arrivals_drops _

theorem contents_putLent (w : World) (lent : Option (String × Handle)) :
    sessionsOf (Slots.contents (w.putLent lent).handles) + departures (w.replaced lent) =
      sessionsOf (Slots.contents w.handles) + sessionsOf (lent.map Prod.snd).toList := by
  cases lent with
  | none => rfl
  | some lent =>
    have others := Slots.contents_clear w.handles lent.1
    have put : sessionsOf (Slots.contents (w.handles.put lent.1 lent.2)) =
        {lent.2.session} + sessionsOf (Slots.contents (w.handles.clear lent.1)) := rfl
    simp only [putLent, replaced, departures_drops, put, ← others, Option.map_some,
      Option.toList_some, sessionsOf_cons, sessionsOf_nil]
    abel

theorem told_kept {i : Nat} {task : Task} {service : Service} {signal : Signal}
    (ht : w.tasks[i]? = some task) (hs : w.service? task = some service)
    (news : signal.IsNews task.answer) :
    (w.signal i task signal).kept + departures (w.movePassages task (move service task signal)) =
      w.kept + arrivals (w.movePassages task (move service task signal)) := by
  have moves : task.activity.Moves service task.answer (move service task signal) :=
    task.activity.resume_moves service task.cancelled news
  have conserved := moves.conserved task.service
  have slots := w.contents_putLent (move service task signal).lent
  obtain ⟨pools, hp, hp'⟩ := exists_pools_rest (fun pool => sessionsOf pool.idle) hs
  have handles : (w.signal i task signal).handles =
      (w.putLent (move service task signal).lent).handles := by
    rw [signal_handles hs]
    cases (move service task signal).lent <;> rfl
  rw [kept_eq, kept_eq, signal_services hs, signal_tasks hs, handles, hp, hp',
    sum_map_eq_add _ ht, sum_map_set _ ht, movePassages, arrivals_append, departures_append,
    arrivals_replaced]
  -- Compared session by session, the sums are numbers.
  ext s
  have counts := congrArg (Multiset.count s) conserved
  have slot_counts := congrArg (Multiset.count s) slots
  simp only [Move.handles, sessionsOf_append, Multiset.count_add, moved_activity,
    Multiset.count_zero] at counts slot_counts ⊢
  omega

theorem begun_kept {base : World} {task : Task} {note : Option Note}
    (hb : w.Begins base task.activity note) (distinct : Slots.Distinct w.handles) :
    (base.addTask task).kept = w.kept := by
  have added : (base.addTask task).kept =
      base.kept + sessionsOf task.activity.handles := by
    simp only [kept_eq, addTask_services, addTask_tasks, addTask_handles, List.map_append,
      List.map_cons, List.map_nil, List.sum_append, List.sum_singleton, moved_activity]
    abel
  rw [added]
  generalize task.activity = activity at hb
  cases hb with
  | publish millis topic payload =>
    by_cases now : millis = 0 <;> simp [Activity.begin, now, Activity.handles]
  | reject | borrow | create => simp [Activity.handles]
  | @release slot handle hl | @operate slot handle hl request =>
    have others := Slots.contents_clear w.handles slot
    rw [Slots.within_of_lookup distinct hl] at others
    simp only [kept_eq, Activity.handles, ← others]
    abel
  | @shutdown service s hs =>
    obtain ⟨pools, hp, hp'⟩ := exists_pools_rest (fun pool => sessionsOf pool.idle) hs
    have drained : sessionsOf s.pool.idle.reverse = sessionsOf s.pool.idle := by
      simp [sessionsOf]
    rw [kept_eq, kept_eq, setPool, hp, hp']
    simp only [Activity.handles, Pool.drain, drained, sessionsOf_nil]
    abel
  | createNext hs slot ids id =>
    obtain ⟨pools, hp, hp'⟩ := exists_pools_rest (fun pool => sessionsOf pool.idle) hs
    rw [kept_eq, kept_eq, setPool, hp, hp']
    simp [Activity.handles]

/-- Whatever happens, the handles that there are afterwards and those that are gone are the handles
that there were and those that were made. -/
theorem Passing.balanced {passages : List Passage} (h : w.Passing passages next)
    (distinct : Slots.Distinct w.handles) :
    next.kept + departures passages = w.kept + arrivals passages := by
  cases h with
  | still services handles tasks =>
    have activities := congrArg (List.map fun pair => sessionsOf pair.2.handles) tasks
    simp only [List.map_map, Function.comp_def] at activities
    simp [kept_eq, services, handles, activities]
  | told ht hs news => exact told_kept ht hs news
  | @begun base task note hb drains =>
    rw [begun_kept hb distinct]
    unfold entryPassages
    split <;> rfl
  | crashed ht text =>
    simp only [kept_eq, setTask_services, setTask_tasks, setTask_handles, sum_map_eq_add _ ht,
      sum_map_set _ ht, moved_activity, departures_drops, arrivals_drops]
    simp only [Activity.handles, sessionsOf_nil]
    abel
  | forgot slot =>
    have others := Slots.contents_clear w.handles slot
    simp only [kept_eq, departures_drops, arrivals_drops, ← others]
    abel
  | @spoiled slot handle hl =>
    have others := Slots.contents_clear w.handles slot
    rw [Slots.within_of_lookup distinct hl] at others
    have put : sessionsOf (Slots.contents (w.handles.put slot handle.markFatal)) =
        {handle.session} + sessionsOf (Slots.contents (w.handles.clear slot)) := by
      rw [← handle.markFatal_ages.session]
      rfl
    simp only [kept_eq, put, ← others, sessionsOf_cons, sessionsOf_nil, departures_nil,
      arrivals_nil]
    abel

end World

end OutcomeRelay
