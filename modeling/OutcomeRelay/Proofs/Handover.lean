import OutcomeRelay.Proofs.AnyAnswer

set_option autoImplicit false

namespace OutcomeRelay

theorem Status.isTerminal_after {s : Status} (h : s.isTerminal = true) (operation : Operation)
    (reply : Reply) : (s.after operation reply).isTerminal = true := by
  unfold after
  split
  · rfl
  · simp [h]

/-- The same producer, at some later time: what has come to its end stays there. -/
structure Handle.Ages (h g : Handle) : Prop where
  session : g.session = h.session
  terminal : h.status.isTerminal = true → g.status.isTerminal = true

namespace Handle

theorem Ages.rfl {h : Handle} : h.Ages h := ⟨.refl _, fun terminal => terminal⟩

theorem Ages.trans {h g f : Handle} (a : h.Ages g) (b : g.Ages f) : h.Ages f :=
  ⟨b.session.trans a.session, fun terminal => b.terminal (a.terminal terminal)⟩

theorem record_ages (h : Handle) (operation : Operation) (reply : Reply) :
    h.Ages (h.record operation reply) :=
  ⟨.refl _, fun terminal => Status.isTerminal_after terminal operation reply⟩

theorem markFatal_ages (h : Handle) : h.Ages h.markFatal := by
  unfold markFatal
  split
  · exact .rfl
  · exact ⟨.refl _, fun _ => .refl _⟩

theorem perform_ages (h : Handle) (request : Request) (answer : Option Reply) :
    h.Ages (h.perform request answer).2 := by
  unfold perform
  split
  · exact .rfl
  · exact h.record_ages _ _

end Handle

namespace Transaction

variable (t : Transaction) (retry : Backoff) (cancelled : Bool)

theorem afterReply_handle (reply : Reply) :
    (t.afterReply retry cancelled reply).handle = t.handle ∨
      (t.afterReply retry cancelled reply).handle = t.handle.markFatal := by
  unfold afterReply
  split
  · cases reply with
    | ok _ => exact .inl rfl
    | error error =>
      simp only [afterBegin]
      split <;> exact .inl rfl
  · rename_i step failures _
    cases reply with
    | ok _ =>
      cases step with
      | commit => exact .inl rfl
      | send =>
        simp only [afterStep]
        split <;> exact .inl rfl
    | error error =>
      simp only [afterStep, afterFailure]
      split
      · exact .inl rfl
      · exact .inl rfl
      · split <;> exact .inl rfl
  · cases reply with
    | ok _ => exact .inl rfl
    | error error =>
      simp only [afterAbort]
      split
      · exact .inl rfl
      · split
        · exact .inl rfl
        · split
          · exact .inl rfl
          · exact .inr rfl
  · exact .inl rfl

theorem settle_ages (answer : Option Reply) :
    t.handle.Ages (t.settle retry cancelled answer).handle := by
  unfold settle
  split
  · exact .rfl
  · rename_i request _
    have performed := t.handle.perform_ages request answer
    rcases afterReply_handle { t with handle := (t.handle.perform request answer).2 } retry
      cancelled (t.handle.perform request answer).1 with same | spent
    · rw [same]
      exact performed
    · rw [spent]
      exact performed.trans (Handle.markFatal_ages _)

theorem resume_ages (signal : Signal) :
    t.handle.Ages (t.resume retry cancelled signal).handle := by
  unfold resume
  split
  · split <;> exact .rfl
  · exact .rfl
  · exact t.settle_ages retry cancelled _
  · exact t.settle_ages retry cancelled none
  · split
    · exact t.settle_ages retry cancelled none
    · exact .rfl
  · exact .rfl

end Transaction

namespace Activity

def handles : Activity → List Handle
  | transacting transaction => [transaction.handle]
  | returning handle _ => [handle]
  | retiring handle _ _ => [handle]
  | draining handles _ => handles
  | operating _ handle _ => [handle]
  | _ => []

/-- The handles that its pool has lent to a task or gets back from it, or that are closed with the
pool. -/
def ofPool : Activity → List Handle
  | operating _ _ _ => []
  | activity => activity.handles

theorem handles_of_ofPool {activity : Activity} {g : Handle} (hg : g ∈ activity.ofPool) :
    g ∈ activity.handles := by
  cases activity with
  | operating slot handle request => simp [ofPool] at hg
  | _ => exact hg

def attempted (answer : Option Signal) : Activity → Multiset Hold
  | creating _ id creation => creation.held id answer
  | making _ id attempt => attempt.held id answer
  | _ => 0

theorem held_eq (answer : Option Signal) (activity : Activity) :
    activity.held answer = ↑(activity.handles.map Handle.hold) + activity.attempted answer := by
  cases activity <;> simp [held, handles, attempted]

/-- One move of an activity of the service, seen from the handles. -/
inductive Moves (service : Service) (answer : Option Signal) : Activity → Move → Prop
  | on (ids : IdSource) {activity next : Activity} (before : activity.handles = [])
      (after : next.handles = []) (attempt : next.attempted none ≤ activity.attempted answer) :
      Moves service answer activity
        { activity := next, pool := { service.pool with ids := ids } }
  | lent {purpose : Purpose} {handle : Handle} {idle : List Handle}
      (taken : service.pool.idle = handle :: idle) :
      Moves service answer (borrowing purpose)
        (serve { service.pool with idle := idle } handle purpose)
  | made {purpose : Purpose} {id : String} {creation : Creation} {session : SessionId}
      (opened : (session, some id) ∈ creation.held id answer) :
      Moves service answer (creating purpose id creation)
        (serve service.pool.countCreated (Attempt.handle service.options id session) purpose)
  | madeAside {slot id : String} {attempt : Attempt} {session : SessionId}
      (opened : (session, some id) ∈ attempt.held id answer) :
      Moves service answer (making slot id attempt)
        { activity := ended (.replied (.ok ()))
          pool := service.pool
          lent := some (slot, Attempt.handle service.options id session) }
  | transacted {t u : Transaction} (ages : t.handle.Ages u.handle) :
      Moves service answer (transacting t) { activity := transacting u, pool := service.pool }
  | finished {t : Transaction} {handle : Handle} {result : PublishResult}
      (ages : t.handle.Ages handle) :
      Moves service answer (transacting t)
        { activity := returning handle (.published result), pool := service.pool }
  | kept {handle : Handle} {outcome : Outcome} (ready : handle.status = .ready) :
      Moves service answer (returning handle outcome)
        { activity := ended outcome
          pool := { service.pool with idle := handle :: service.pool.idle } }
  | setAside {handle : Handle} {outcome : Outcome} {discarded : Bool}
      (why : (discarded = true ↔ handle.status ≠ .ready) ∧
        (discarded = false → service.pool.isClosed = true)) :
      Moves service answer (returning handle outcome)
        { activity := retiring handle discarded outcome, pool := service.pool }
  | retired {handle : Handle} {outcome : Outcome} {discarded : Bool} :
      Moves service answer (retiring handle discarded outcome)
        (afterRetiring service.pool discarded outcome)
  | drained {handle : Handle} {handles : List Handle} {closed : Nat} :
      Moves service answer (draining (handle :: handles) closed)
        { activity := draining handles closed, pool := service.pool }
  | operated {slot : String} {handle used : Handle} {request : Request} {outcome : Outcome}
      (ages : handle.Ages used) :
      Moves service answer (operating slot handle request)
        { activity := ended outcome, pool := service.pool, lent := some (slot, used) }

variable {service : Service} {cancelled : Bool} {answer : Option Signal}

theorem Moves.created (ids : IdSource) {activity : Activity} {purpose : Purpose} {id : String}
    {next : Creation.Next} (before : activity.handles = [])
    (held : next.held id ≤ activity.attempted answer) (ongoing : ∀ s, next ≠ .made s) :
    Moves service answer activity
      (afterCreation service { service.pool with ids := ids } purpose id next) := by
  cases next with
  | ongoing creation => exact .on ids before rfl held
  | made session => exact absurd rfl (ongoing session)
  | failed error =>
    cases purpose with
    | publish topic payload => exact .on ids before rfl (Multiset.zero_le _)
    | lend slot => exact .on ids before rfl (Multiset.zero_le _)

theorem borrow_moves (service : Service) (cancelled : Bool) (answer : Option Signal)
    (purpose : Purpose) :
    Moves service answer (borrowing purpose) (borrow service cancelled purpose) := by
  rcases borrow_cases service cancelled purpose with h | ⟨handle, idle, taken, h⟩ | ⟨id, ids, h⟩
  · rw [h]
    cases purpose with
    | publish topic payload => exact .on service.pool.ids rfl rfl (Multiset.zero_le _)
    | lend slot => exact .on service.pool.ids rfl rfl (Multiset.zero_le _)
  · rw [h]
    exact .lent taken
  · rw [h]
    refine .created ids rfl (by rw [Creation.begin_held]; exact Multiset.zero_le _) ?_
    intro session
    unfold Creation.begin
    split <;> simp

theorem creating_moves (service : Service) (cancelled : Bool) {signal : Signal}
    (news : signal.IsNews answer) (purpose : Purpose) (id : String) (creation : Creation) :
    Moves service answer (creating purpose id creation)
      (resume service cancelled (creating purpose id creation) signal) := by
  have held := creation.resume_held id service.options.operationLimit service.creation cancelled
    news
  simp only [resume]
  generalize creation.resume _ _ _ signal = next at held
  cases next with
  | made session => exact .made (Multiset.mem_of_le held (Multiset.mem_singleton_self _))
  | ongoing | failed => exact .created service.pool.ids rfl held (by simp)

theorem making_moves (service : Service) (cancelled : Bool) {signal : Signal}
    (news : signal.IsNews answer) (slot id : String) (attempt : Attempt) :
    Moves service answer (making slot id attempt)
      (resume service cancelled (making slot id attempt) signal) := by
  have held := attempt.resume_held id service.options.operationLimit news
  simp only [resume]
  generalize attempt.resume _ signal = next at held
  cases next with
  | made session => exact .madeAside (Multiset.mem_of_le held (Multiset.mem_singleton_self _))
  | ongoing attempt => exact .on service.pool.ids rfl rfl held
  | failed error => exact .on service.pool.ids rfl rfl (Multiset.zero_le _)

/-- Whatever a task is told, its activity makes one of these moves. -/
theorem resume_moves (service : Service) (cancelled : Bool) {signal : Signal}
    (news : signal.IsNews answer) (activity : Activity) :
    Moves service answer activity (activity.resume service cancelled signal) := by
  cases activity with
  | waiting millis purpose => exact .on service.pool.ids rfl rfl le_rfl
  | borrowing purpose => exact borrow_moves service cancelled answer purpose
  | creating purpose id creation => exact creating_moves service cancelled news purpose id creation
  | transacting t =>
    have ages := t.resume_ages service.retry cancelled signal
    simp only [resume, afterTransaction]
    split
    · exact .transacted ages
    · exact .finished ages
  | returning handle outcome =>
    simp only [resume]
    rcases giveBack_cases service.pool handle outcome with ⟨ready, h⟩ | ⟨discarded, why, h⟩
    · rw [h]
      exact .kept ready
    · rw [h]
      exact .setAside why
  | retiring handle discarded outcome => exact .retired
  | draining handles closed =>
    cases handles with
    | nil => exact .on service.pool.ids rfl rfl le_rfl
    | cons handle handles => exact .drained
  | operating slot handle request => exact .operated (handle.perform_ages request _)
  | making slot id attempt => exact making_moves service cancelled news slot id attempt
  | ended outcome => exact .on service.pool.ids rfl rfl le_rfl

end Activity

namespace Move

def handles (m : Move) : List Handle := m.activity.handles ++ (m.lent.map Prod.snd).toList

end Move

theorem Activity.serve_handles (pool : Pool) (handle : Handle) (purpose : Purpose) :
    (serve pool handle purpose).handles = [handle] := by
  cases purpose <;> rfl

theorem Activity.serve_attempted (pool : Pool) (handle : Handle) (purpose : Purpose) :
    (serve pool handle purpose).activity.attempted none = 0 := by
  cases purpose <;> rfl

theorem Activity.serve_pool (pool : Pool) (handle : Handle) (purpose : Purpose) :
    (serve pool handle purpose).pool = pool := by
  cases purpose <;> rfl

namespace Activity.Moves

variable {service : Service} {answer : Option Signal} {activity : Activity} {m : Move}

theorem origin (h : Moves service answer activity m) {g : Handle} (hg : g ∈ m.handles) :
    (∃ handle ∈ activity.handles, handle.Ages g) ∨ g ∈ service.pool.idle ∨
      ∃ hold ∈ activity.attempted answer, hold.1 = g.session := by
  have one {handle : Handle} (ages : handle.Ages g) (here : handle ∈ activity.handles) :
      (∃ handle ∈ activity.handles, handle.Ages g) ∨ g ∈ service.pool.idle ∨
        ∃ hold ∈ activity.attempted answer, hold.1 = g.session :=
    .inl ⟨handle, here, ages⟩
  cases h with
  | on ids before after attempt => simp [Move.handles, after] at hg
  | lent taken =>
    obtain rfl : g = _ := by simpa [serve_handles] using hg
    exact .inr (.inl (taken ▸ List.mem_cons_self))
  | made opened =>
    obtain rfl : g = _ := by simpa [serve_handles] using hg
    exact .inr (.inr ⟨_, opened, rfl⟩)
  | madeAside opened =>
    obtain rfl : g = _ := by simpa [Move.handles, handles] using hg
    exact .inr (.inr ⟨_, opened, rfl⟩)
  | transacted ages | finished ages | operated ages =>
    obtain rfl : g = _ := by simpa [Move.handles, handles] using hg
    exact one ages (List.mem_singleton_self _)
  | setAside why =>
    obtain rfl : g = _ := by simpa [Move.handles, handles] using hg
    exact one .rfl (List.mem_singleton_self _)
  | drained =>
    have rest := by simpa [Move.handles, handles] using hg
    exact one .rfl (List.mem_cons_of_mem _ rest)
  | kept | retired => simp [Move.handles, handles, afterRetiring] at hg

theorem pooled (h : Moves service answer activity m) {g : Handle} (hg : g ∈ m.pool.idle) :
    g ∈ service.pool.idle ∨ (g ∈ activity.ofPool ∧ g.status = .ready) := by
  cases h with
  | lent taken =>
    rw [serve_pool] at hg
    exact .inl (taken ▸ List.mem_cons_of_mem _ hg)
  | made opened =>
    rw [serve_pool] at hg
    exact .inl hg
  | kept ready =>
    rcases List.mem_cons.mp hg with rfl | old
    · exact .inr ⟨List.mem_singleton_self _, ready⟩
    · exact .inl old
  | @retired handle outcome discarded => cases discarded <;> exact .inl hg
  | on | madeAside | transacted | finished | setAside | drained | operated => exact .inl hg

theorem attempted (h : Moves service answer activity m) :
    m.activity.attempted none ≤ activity.attempted answer := by
  cases h with
  | on ids before after attempt => exact attempt
  | lent | made =>
    rw [serve_attempted]
    exact Multiset.zero_le _
  | madeAside | transacted | finished | kept | setAside | retired | drained | operated =>
    exact Multiset.zero_le _

end Activity.Moves

namespace World

def producers (w : World) : List Handle :=
  w.services.flatMap (·.pool.idle) ++ w.tasks.flatMap (·.activity.handles) ++
    w.handles.map Prod.snd

def attempts (w : World) : Multiset Hold :=
  (w.tasks.map fun task => task.activity.attempted task.answer).sum

variable {w next : World} {g : Handle}

theorem mem_producers : g ∈ w.producers ↔ (∃ service ∈ w.services, g ∈ service.pool.idle) ∨
    (∃ task ∈ w.tasks, g ∈ task.activity.handles) ∨ ∃ slot ∈ w.handles, slot.2 = g := by
  simp only [producers, List.mem_append, List.mem_flatMap, List.mem_map, or_assoc]

theorem mem_attempts {hold : Hold} : hold ∈ w.attempts ↔
    ∃ task ∈ w.tasks, hold ∈ task.activity.attempted task.answer := by
  unfold attempts
  induction w.tasks with
  | nil => simp
  | cons task tasks ih => simp [ih]

theorem held_eq (w : World) :
    w.held = ↑(w.producers.map Handle.hold) + w.attempts + heldBare w.sessions := by
  have pools : w.heldIdle = ↑((w.services.flatMap (·.pool.idle)).map Handle.hold) := by
    unfold heldIdle
    induction w.services with
    | nil => rfl
    | cons service services ih =>
      rw [List.map_cons, List.sum_cons, ih, List.flatMap_cons, List.map_append, ← Multiset.coe_add]
      rfl
  have tasks : (w.tasks.map Task.held).sum =
      ↑((w.tasks.flatMap (·.activity.handles)).map Handle.hold) + w.attempts := by
    unfold attempts
    induction w.tasks with
    | nil => rfl
    | cons task tasks ih =>
      simp only [List.map_cons, List.sum_cons, ih, Task.held, Activity.held_eq,
        List.flatMap_cons, List.map_append, ← Multiset.coe_add]
      abel
  have slots : heldInSlots w.handles = ↑((w.handles.map Prod.snd).map Handle.hold) := by
    simp only [heldInSlots, List.map_map]
    rfl
  simp only [held, pools, tasks, slots, producers, List.map_append, ← Multiset.coe_add]
  abel

theorem Owned.sessions_nodup (h : w.Owned) :
    (↑(w.producers.map Handle.session) + w.attempts.map Prod.fst : Multiset SessionId).Nodup := by
  refine Multiset.nodup_of_le ?_ h.nodup
  rw [held_eq, Multiset.map_add, Multiset.map_add]
  refine le_of_eq_of_le ?_ (Multiset.le_add_right _ _)
  simp [Handle.hold, Function.comp_def]

theorem Owned.opened (h : w.Owned) {hold : Hold} (hm : hold ∈ w.held) :
    hold.1 < w.cluster.sessions.length := by
  obtain ⟨id, known, -⟩ := h.known hold hm
  exact w.cluster.lt_of_producer? _ known

def Stems (w : World) (g : Handle) : Prop :=
  (∃ handle ∈ w.producers, handle.Ages g) ∨ ∃ hold ∈ w.attempts, hold.1 = g.session

def Pools (w : World) (g : Handle) : Prop :=
  (∃ service ∈ w.services, g ∈ service.pool.idle) ∨ (w.Stems g ∧ g.status = .ready)

/-- Every handle of the next world stems from this one, and so does every attempt, unless its
session is new. -/
structure Descends (w next : World) : Prop where
  idle : ∀ service ∈ next.services, ∀ g ∈ service.pool.idle, w.Pools g
  tasks : ∀ task ∈ next.tasks, ∀ g ∈ task.activity.handles, w.Stems g
  slots : ∀ slot ∈ next.handles, w.Stems slot.2
  attempts : ∀ task ∈ next.tasks, ∀ hold ∈ task.activity.attempted task.answer,
    hold ∈ w.attempts ∨ hold.1 = w.cluster.sessions.length

theorem stems_of_mem (hg : g ∈ w.producers) : w.Stems g := .inl ⟨g, hg, .rfl⟩

theorem stems_of_idle {service : Service} (hs : service ∈ w.services)
    (hg : g ∈ service.pool.idle) : w.Stems g :=
  stems_of_mem (mem_producers.mpr (.inl ⟨service, hs, hg⟩))

theorem stems_of_task {task : Task} (ht : task ∈ w.tasks) (hg : g ∈ task.activity.handles) :
    w.Stems g :=
  stems_of_mem (mem_producers.mpr (.inr (.inl ⟨task, ht, hg⟩)))

theorem stems_of_slot {slot : String × Handle} (hs : slot ∈ w.handles) : w.Stems slot.2 :=
  stems_of_mem (mem_producers.mpr (.inr (.inr ⟨slot, hs, rfl⟩)))

theorem Pools.stems (h : w.Pools g) : w.Stems g := by
  rcases h with ⟨service, hs, hg⟩ | ⟨stem, -⟩
  · exact stems_of_idle hs hg
  · exact stem

namespace Descends

variable {index : Nat} {task : Task}

theorem rfl (w : World) : w.Descends w where
  idle service hs _ hg := .inl ⟨service, hs, hg⟩
  tasks _ ht _ hg := stems_of_task ht hg
  slots _ hs := stems_of_slot hs
  attempts task ht _ hm := .inl (mem_attempts.mpr ⟨task, ht, hm⟩)

theorem congr (h : w.Descends next) {other : World} (services : other.services = next.services)
    (tasks : other.tasks = next.tasks) (handles : other.handles = next.handles) :
    w.Descends other where
  idle := services ▸ h.idle
  tasks := tasks ▸ h.tasks
  slots := handles ▸ h.slots
  attempts := tasks ▸ h.attempts

theorem withTask (h : w.Descends next) (new : Task)
    (handles : ∀ g ∈ new.activity.handles, w.Stems g)
    (attempted : ∀ hold ∈ new.activity.attempted new.answer,
      hold ∈ w.attempts ∨ hold.1 = w.cluster.sessions.length)
    {tasks : List Task} (among : ∀ task ∈ tasks, task ∈ next.tasks ∨ task = new) :
    w.Descends { next with tasks := tasks } where
  idle := h.idle
  tasks task ht g hg := by
    rcases among task ht with old | rfl
    · exact h.tasks task old g hg
    · exact handles g hg
  slots := h.slots
  attempts task ht hold hm := by
    rcases among task ht with old | rfl
    · exact h.attempts task old hold hm
    · exact attempted hold hm

theorem setTask (h : w.Descends next) (new : Task)
    (handles : ∀ g ∈ new.activity.handles, w.Stems g)
    (attempted : ∀ hold ∈ new.activity.attempted new.answer,
      hold ∈ w.attempts ∨ hold.1 = w.cluster.sessions.length) (index : Nat) :
    w.Descends (next.setTask index new) :=
  h.withTask new handles attempted fun _ ht => List.mem_or_eq_of_mem_set ht

theorem addTask (h : w.Descends next) {new : Task}
    (handles : ∀ g ∈ new.activity.handles, w.Stems g)
    (attempted : new.activity.attempted none = 0) : w.Descends (next.addTask new) := by
  have added : w.Descends ({ next with tasks := next.tasks ++ [next.moved new new.activity] }) :=
    h.withTask (next.moved new new.activity) handles
      (by rw [moved_activity, moved_answer, attempted]; simp) (by simp)
  exact added.congr (by simp) (by simp) (by simp)

theorem setPool (h : w.Descends next) {pool : Pool} (idle : ∀ g ∈ pool.idle, w.Pools g)
    (service : Nat) : w.Descends (next.setPool service pool) where
  idle s hs g hg := by
    obtain ⟨i, hi⟩ := List.mem_iff_getElem?.mp hs
    rcases setPool_services_cases hi with ⟨-, old, -, rfl⟩ | ⟨-, kept⟩
    · exact idle g hg
    · exact h.idle s (List.mem_of_getElem? kept) g hg
  tasks := h.tasks
  slots := h.slots
  attempts := h.attempts

theorem withSlots (h : w.Descends next) {handles : Slots Handle}
    (slots : ∀ slot ∈ handles, slot ∈ next.handles ∨ w.Stems slot.2) :
    w.Descends { next with handles := handles } where
  idle := h.idle
  tasks := h.tasks
  slots slot hs := by
    rcases slots slot hs with old | new
    · exact h.slots slot old
    · exact new
  attempts := h.attempts

theorem clear (h : w.Descends next) (slot : String) :
    w.Descends { next with handles := next.handles.clear slot } :=
  h.withSlots fun _ hs => .inl (List.mem_of_mem_filter hs)

theorem put (h : w.Descends next) {handle : Handle} (stem : w.Stems handle) (slot : String) :
    w.Descends { next with handles := next.handles.put slot handle } := by
  refine h.withSlots fun other hs => ?_
  rcases List.mem_cons.mp hs with rfl | old
  · exact .inr stem
  · exact .inl (List.mem_of_mem_filter old)

theorem putLent (h : w.Descends next) {lent : Option (String × Handle)}
    (stem : ∀ g ∈ (lent.map Prod.snd).toList, w.Stems g) : w.Descends (next.putLent lent) := by
  cases lent with
  | none => exact h
  | some lent => exact h.put (stem _ (by simp)) lent.1

theorem stems (h : w.Descends next) (hg : g ∈ next.producers) : w.Stems g := by
  rcases mem_producers.mp hg with ⟨service, hs, idle⟩ | ⟨task, ht, given⟩ | ⟨slot, hs, rfl⟩
  · exact (h.idle service hs g idle).stems
  · exact h.tasks task ht g given
  · exact h.slots slot hs

end Descends

theorem signal_descends {index : Nat} {task : Task} {service : Service} {signal : Signal}
    (ht : w.tasks[index]? = some task) (hs : w.service? task = some service)
    (news : signal.IsNews task.answer) : w.Descends (w.signal index task signal) := by
  have moves : task.activity.Moves service task.answer (move service task signal) :=
    task.activity.resume_moves service task.cancelled news
  have member : task ∈ w.tasks := List.mem_of_getElem? ht
  have serves : service ∈ w.services := List.mem_of_getElem? hs
  have own : ∀ g ∈ (move service task signal).handles, w.Stems g := by
    intro g hg
    rcases moves.origin hg with ⟨handle, hh, ages⟩ | idle | ⟨hold, hm, session⟩
    · exact .inl ⟨handle, mem_producers.mpr (.inr (.inl ⟨task, member, hh⟩)), ages⟩
    · exact stems_of_idle serves idle
    · exact .inr ⟨hold, mem_attempts.mpr ⟨task, member, hm⟩, session⟩
  have pool : ∀ g ∈ (move service task signal).pool.idle, w.Pools g := by
    intro g hg
    rcases moves.pooled hg with idle | ⟨given, ready⟩
    · exact .inl ⟨service, serves, idle⟩
    · exact .inr ⟨stems_of_task member (Activity.handles_of_ofPool given), ready⟩
  have lent := ((Descends.rfl w).setPool pool task.service).putLent
    fun g hg => own g (List.mem_append_right _ hg)
  have moved := lent.setTask (w.moved task (move service task signal).activity)
    (fun g hg => own g (List.mem_append_left _ hg))
    (fun hold hm => .inl (mem_attempts.mpr ⟨task, member, Multiset.mem_of_le moves.attempted hm⟩))
    index
  rw [signal_eq hs]
  exact moved.congr (by simp) (by simp) (by simp)

theorem begins_descends {base : World} {task : Task} {note : Option Note}
    (h : w.Begins base task.activity note) : w.Descends (base.addTask task) := by
  have here : w.Descends w := .rfl w
  generalize ha : task.activity = activity at h
  cases h with
  | publish millis topic payload =>
    by_cases now : millis = 0 <;>
      exact here.addTask (by simp [ha, Activity.begin, now, Activity.handles])
        (by simp [ha, Activity.begin, now, Activity.attempted])
  | reject error | borrow slot =>
    exact here.addTask (by simp [ha, Activity.handles]) (by simp [ha, Activity.attempted])
  | create slot id =>
    exact here.addTask (by simp [ha, Activity.handles])
      (by simp [ha, Activity.attempted, Attempt.held])
  | @release slot handle hl =>
    have stem : w.Stems handle := stems_of_slot (mem_of_lookup hl)
    exact (here.clear slot).addTask (by simpa [ha, Activity.handles] using stem)
      (by simp [ha, Activity.attempted])
  | @operate slot handle hl request =>
    have stem : w.Stems handle := stems_of_slot (mem_of_lookup hl)
    exact (here.clear slot).addTask (by simpa [ha, Activity.handles] using stem)
      (by simp [ha, Activity.attempted])
  | @shutdown service s hs =>
    refine (here.setPool (by simp [Pool.drain]) service).addTask ?_
      (by simp [ha, Activity.attempted])
    intro g hg
    have idle : g ∈ s.pool.idle := by simpa [ha, Activity.handles, Pool.drain] using hg
    exact stems_of_idle (List.mem_of_getElem? hs) idle
  | @createNext service s hs slot ids id =>
    refine (here.setPool (fun g hg => ?_) service).addTask (by simp [ha, Activity.handles])
      (by simp [ha, Activity.attempted, Attempt.held])
    exact .inl ⟨s, List.mem_of_getElem? hs, hg⟩

theorem given_descends {index : Nat} {task : Task} {answer : Signal} (news : Multiset Hold)
    (ht : w.tasks[index]? = some task)
    (held : Task.held { task with answer := some answer } ≤ task.held + news)
    (fresh : ∀ hold ∈ news, hold.1 = w.cluster.sessions.length) :
    w.Descends (w.setTask index { task with answer := some answer }) := by
  have member : task ∈ w.tasks := List.mem_of_getElem? ht
  refine (Descends.rfl w).setTask { task with answer := some answer }
    (fun g hg => stems_of_task member hg) ?_ index
  intro hold hm
  have attempted : task.activity.attempted (some answer) ≤
      task.activity.attempted task.answer + news := by
    simp only [Task.held, Activity.held_eq, add_assoc] at held
    exact le_of_add_le_add_left held
  rcases Multiset.mem_add.mp (Multiset.mem_of_le attempted hm) with old | new
  · exact .inl (mem_attempts.mpr ⟨task, member, old⟩)
  · exact .inr (fresh hold new)

theorem answered_descends {index : Nat} {task : Task} (ht : w.tasks[index]? = some task)
    (reply : Reply) :
    w.Descends (w.setTask index { task with answer := some (.answered reply) }) :=
  given_descends 0 ht (by simpa using task.answered_held reply) (by simp)

theorem Step.descends {note : Option Note} (hstep : w.Step note next) : w.Descends next := by
  have here : w.Descends w := .rfl w
  cases hstep with
  | same => exact here
  | tick time => exact here.congr rfl rfl rfl
  | begun hb => exact begins_descends hb
  | told ht hs told => exact signal_descends ht hs told.isNews
  | opened ht hd ha =>
    refine (given_descends _ ht (opened_held hd _) ?_).congr rfl rfl rfl
    intro hold hm
    rw [Multiset.mem_singleton.mp hm]
  | refused ht hd ha refusals error =>
    exact (answered_descends ht (.error error)).congr rfl rfl rfl
  | answered ht hd ha => exact (answered_descends ht _).congr rfl rfl rfl
  | @crashed index task ht hd text =>
    exact here.setTask _ (by simp [Activity.handles]) (by simp [Activity.attempted]) index
  | @flagged index task ht =>
    have member : task ∈ w.tasks := List.mem_of_getElem? ht
    exact here.setTask { task with cancelled := true } (here.tasks task member)
      (here.attempts task member) index
  | adjusted | requested | joined => exact here.congr rfl rfl rfl
  | forgot slot => exact here.clear slot
  | @spoiled slot handle hl =>
    refine here.put (.inl ⟨handle, ?_, handle.markFatal_ages⟩) slot
    exact mem_producers.mpr (.inr (.inr ⟨_, mem_of_lookup hl, rfl⟩))

/-- In a step every handle comes from one that was there before, or from an attempt to create a
producer, whatever the sessions answer. -/
theorem FreeStep.descends (hstep : w.FreeStep next) : w.Descends next := by
  cases hstep with
  | step h => exact h.descends
  | replied ht hd ha reply => exact answered_descends ht reply

end World

end OutcomeRelay
