import OutcomeRelay.Proofs.Custody
import OutcomeRelay.Proofs.Naming

set_option autoImplicit false

/-!
# Epochs

A registration fences the sessions that were registered for its transactional id before. A pool
registers an id again only after an attempt that came to nothing, so that nobody is fenced who can
still be used. Main statement: as long as ids come from the pools and no two services have one name,
the session of every producer has the current epoch of its id, and nothing fails because of a fence
unless such a failure was injected.
-/

namespace OutcomeRelay

/-! ### The epoch of a session -/

theorem Broker.epoch_register (b : Broker) (id other : String) :
    (b.register id).epoch other = if other = id then b.epoch id + 1 else b.epoch other := by
  by_cases same : other = id
  · simp [register, epoch, same]
  · have kept (epochs : List (String × Nat)) :
        (epochs.filter (·.1 ≠ id)).lookup other = epochs.lookup other := by
      induction epochs with
      | nil => rfl
      | cons entry epochs ih =>
        obtain ⟨name, n⟩ := entry
        by_cases own : name = id
        · have gone : ((name, n) :: epochs).filter (·.1 ≠ id) = epochs.filter (·.1 ≠ id) := by
            simp [own]
          rw [gone, ih, List.lookup_cons, beq_eq_false_iff_ne.mpr (own ▸ same)]
        · have here : ((name, n) :: epochs).filter (·.1 ≠ id) =
              (name, n) :: epochs.filter (·.1 ≠ id) := by simp [own]
          rw [here, List.lookup_cons, List.lookup_cons, ih]
    simp only [register, epoch, same, if_false, List.lookup_cons, beq_eq_false_iff_ne.mpr same,
      kept]

namespace Cluster

variable {c : Cluster} {s t : SessionId}

/-- No later session has been registered for the transactional id of this one. -/
def Current (c : Cluster) (s : SessionId) : Prop :=
  ∃ session, c.sessions[s]? = some session ∧ session.epoch = c.broker.epoch session.id

theorem Current.join (h : c.Current s) (id : String) : (c.join id).Current s := by
  obtain ⟨session, hs, epoch⟩ := h
  exact ⟨session, Cluster.join_older hs id, epoch⟩

theorem Current.fail (h : c.Current t) (s : SessionId) (failure : Option String)
    (faults : List (Operation × BrokerError)) : (c.fail s failure faults).Current t := by
  obtain ⟨session, hs, epoch⟩ := h
  by_cases same : s = t
  · exact ⟨{ session with failure := failure }, by simp [Cluster.fail, same, hs], epoch⟩
  · exact ⟨session, by simp [Cluster.fail, same, hs], epoch⟩

theorem Current.perform (h : c.Current t) (s : SessionId) (request : Request)
    (apart : request = .init → s ≠ t → c.producer? s ≠ c.producer? t) :
    (c.perform s request).2.Current t := by
  rcases c.perform_cases s request with ⟨error, failure, faults, hp⟩ | ⟨asked, ha, -, hp⟩
  · rw [hp]
    exact h.fail s failure faults
  · rw [hp]
    obtain ⟨session, hs, epoch⟩ := h
    by_cases same : s = t
    · subst t
      obtain rfl := Option.some.inj (ha.symm.trans hs)
      refine ⟨(request.effect asked c.broker).1, apply_self hs request, ?_⟩
      cases request with
      | init => rfl
      | close =>
        simp only [apply, Request.effect]
        split <;> exact epoch
      | _ => exact epoch
    · refine ⟨session, (c.apply_ne same asked request).trans hs, ?_⟩
      cases request with
      | init =>
        have other : session.id ≠ asked.id := by
          simpa [producer?, ha, hs, eq_comm] using apart rfl same
        simp only [apply, Request.effect, Broker.epoch_register, other, if_false]
        exact epoch
      | _ => exact epoch

theorem current_of_registered (h : (c.perform s .init).1 = .ok ()) :
    (c.perform s .init).2.Current s := by
  rcases c.perform_cases s .init with ⟨error, failure, faults, hp⟩ | ⟨asked, ha, -, hp⟩
  · simp [hp] at h
  · rw [hp]
    exact ⟨(Request.init.effect asked c.broker).1, apply_self ha .init, rfl⟩

end Cluster

/-! ### What a fatal failure comes from -/

namespace Session

variable {s : Session} {b : Broker} {reason : String}

def Owes (s : Session) (b : Broker) (reason : String) : Prop :=
  s.failure = some reason ∨ ∃ operation, (operation, .fatal reason) ∈ b.faults

theorem fault?_cases {operation : Operation} {error : BrokerError} {rest : Broker}
    (h : b.fault? operation = some (error, rest)) :
    (operation, error) ∈ b.faults ∧ ∀ fault ∈ rest.faults, fault ∈ b.faults := by
  unfold Broker.fault? at h
  split at h
  · simp at h
  · rename_i queued
    cases h
    exact ⟨mem_of_lookup queued, fun fault hf => List.mem_of_mem_eraseP hf⟩

def Traces (s : Session) (b : Broker) (reason : String) (result : Reply × Session × Broker) :
    Prop :=
  result.1 = .error (.fatal reason) ∨ result.2.1.Owes result.2.2 reason → s.Owes b reason

theorem check_traces (unlike : .fatal reason ≠ closedError) (unfenced : ¬ s.epoch < b.epoch s.id)
    (operation : Operation) : s.Traces b reason (s.check b operation) := by
  intro h
  unfold check at h
  split at h
  · refine h.resolve_left fun failed => unlike ?_
    simpa using failed.symm
  · split at h
    · rename_i known remembered
      rcases h with failed | owes
      · obtain rfl : known = reason := by simpa using failed
        exact .inl remembered
      · exact owes
    · split at h
      · rename_i error rest injected
        obtain ⟨queued, fewer⟩ := fault?_cases injected
        rcases h with failed | remembered | ⟨other, queued'⟩
        · obtain rfl : error = .fatal reason := by simpa using failed
          exact .inr ⟨operation, queued⟩
        · cases error with
          | fatal known =>
            obtain rfl : known = reason := by simpa [failWith] using remembered
            exact .inr ⟨operation, queued⟩
          | _ => exact .inl remembered
        · exact .inr ⟨other, fewer _ queued'⟩
      · exact h.resolve_left (by simp)

theorem guarded_traces (unlike : .fatal reason ≠ closedError) (unfenced : ¬ s.epoch < b.epoch s.id)
    (operation : Operation) {effect : Session → Broker → Session × Broker}
    (keeps : ∀ s b, (effect s b).1.failure = s.failure ∧ (effect s b).2.faults = b.faults) :
    s.Traces b reason (s.guarded b operation effect) := by
  have traces := check_traces unlike unfenced operation
  intro h
  unfold guarded at h
  split at h
  · rename_i passed broker checked
    obtain ⟨failure, faults⟩ := keeps passed broker
    rw [checked] at traces
    refine traces (.inr ?_)
    simpa [Owes, failure, faults] using h
  · exact traces h

theorem perform_traces (unlike : .fatal reason ≠ closedError) (request : Request)
    (unfenced : request ≠ .init → request ≠ .close → ¬ s.epoch < b.epoch s.id) :
    s.Traces b reason (s.perform b request) := by
  cases request with
  | init =>
    intro h
    simp only [perform, init] at h
    split at h
    · refine h.resolve_left fun failed => unlike ?_
      simpa using failed.symm
    · split at h
      · rename_i error rest injected
        obtain ⟨queued, fewer⟩ := fault?_cases injected
        rcases h with failed | remembered | ⟨other, queued'⟩
        · obtain rfl : error = .fatal reason := by simpa using failed
          exact .inr ⟨.init, queued⟩
        · exact .inl remembered
        · exact .inr ⟨other, fewer _ queued'⟩
      · exact h.resolve_left (by simp)
  | close =>
    intro h
    simp only [perform] at h
    split at h <;> exact h.resolve_left (by simp)
  | begin | send | commit | abort =>
    refine guarded_traces unlike (unfenced (by simp) (by simp)) _ ?_
    exact fun _ _ => ⟨rfl, rfl⟩

theorem append_ne_of_length_lt {first middle last text : String}
    (h : text.length < first.length) : first ++ middle ++ last ≠ text := by
  rintro rfl
  simp only [String.length_append] at h
  omega

theorem fencedReason_ne (id : String) : .fatal (fencedReason id) ≠ closedError := fun same =>
  append_ne_of_length_lt (by decide) (BrokerError.fatal.inj same)

end Session

namespace Cluster

variable {c : Cluster} {s : SessionId} {reason : String}

/-- A fatal failure for this reason is queued, or a session remembers it. -/
inductive Remembers (c : Cluster) (reason : String) : Prop
  | queued {operation : Operation} (h : (operation, .fatal reason) ∈ c.broker.faults)
  | failed {s : SessionId} {session : Session} (hs : c.sessions[s]? = some session)
      (h : session.failure = some reason)

theorem Remembers.of_eq {later : Cluster} (h : later.Remembers reason)
    (sessions : later.sessions = c.sessions) (faults : later.broker.faults = c.broker.faults) :
    c.Remembers reason := by
  cases h with
  | queued queued => exact .queued (faults ▸ queued)
  | failed hs remembered => exact .failed (sessions ▸ hs) remembered

theorem remembers_of_owes {session : Session} (hs : c.sessions[s]? = some session)
    (h : session.Owes c.broker reason) : c.Remembers reason := by
  rcases h with remembered | ⟨operation, queued⟩
  · exact .failed hs remembered
  · exact .queued queued

theorem perform_remembers (unlike : .fatal reason ≠ Session.closedError) (request : Request)
    (current : request ≠ .init → request ≠ .close → c.Current s)
    (h : (c.perform s request).1 = .error (.fatal reason) ∨
      (c.perform s request).2.Remembers reason) : c.Remembers reason := by
  unfold perform at h
  cases hs : c.sessions[s]? with
  | none =>
    simp only [hs] at h
    refine h.resolve_left fun failed => unlike ?_
    simpa using failed.symm
  | some session =>
    have unfenced : request ≠ .init → request ≠ .close →
        ¬ session.epoch < c.broker.epoch session.id := by
      intro other other'
      obtain ⟨same, hs', epoch⟩ := current other other'
      obtain rfl := Option.some.inj (hs.symm.trans hs')
      exact epoch ▸ lt_irrefl _
    have traces := Session.perform_traces unlike request unfenced
    simp only [hs] at h
    rcases h with failed | later
    · exact remembers_of_owes hs (traces (.inl failed))
    · cases later with
      | queued queued => exact remembers_of_owes hs (traces (.inr (.inr ⟨_, queued⟩)))
      | @failed other session' hs' remembered =>
        by_cases same : s = other
        · subst other
          have here : s < c.sessions.length := (List.getElem?_eq_some_iff.mp hs).1
          obtain rfl : (session.perform c.broker request).2.1 = session' := by
            simpa [List.getElem?_set_self here] using hs'
          exact remembers_of_owes hs (traces (.inr (.inl remembered)))
        · rw [List.getElem?_set_ne same] at hs'
          exact .failed hs' remembered

theorem join_remembers {id : String} (h : (c.join id).Remembers reason) : c.Remembers reason := by
  cases h with
  | queued queued => exact .queued queued
  | failed hs remembered =>
    rcases List.mem_append.mp (List.mem_of_getElem? hs) with old | new
    · obtain ⟨s, hs⟩ := List.mem_iff_getElem?.mp old
      exact .failed hs remembered
    · obtain rfl := List.mem_singleton.mp new
      simp at remembered

end Cluster

/-! ### One event -/

namespace World

variable {w next : World} {i : Nat} {task : Task} {s : SessionId} {id : String} {request : Request}

theorem Asks.mem_names {activity : Activity} (h : Asks activity s id request) :
    id ∈ activity.names := by
  cases h with
  | drain handle handles closed => exact Multiset.mem_coe.mpr List.mem_cons_self
  | _ => exact Multiset.mem_singleton_self _

theorem Asks.handles_eq {activity : Activity} (h : Asks activity s id .init) :
    activity.handles = [] := by
  cases h with
  | register | registerLent => rfl
  | @transact t _ hr =>
    rcases Transaction.request?_cases hr with ⟨-, h⟩ | ⟨_, -, h⟩ | ⟨_, -, h⟩ | ⟨_, _, -, h⟩ <;>
      simp at h
  | operate slot permits => simp [Status.permits, Request.operation] at permits

/-- A session that was registered for a producer: the handle of it has been made, or the task that
is to make it has not heard yet. -/
inductive Registered (w : World) : SessionId → String → Prop
  | made {g : Handle} (hg : g ∈ w.producers) : Registered w g.session g.id
  | confirmed {task : Task} {s : SessionId} {id : String} (ht : task ∈ w.tasks)
      (answer : task.answer = some (.answered (.ok ()))) (asks : Asks task.activity s id .init) :
      Registered w s id

/-- No session that was registered for a producer has been fenced. -/
def UpToDate (w : World) : Prop := ∀ s id, w.Registered s id → w.cluster.Current s

theorem Registered.producer? (h : w.Registered s id) (owned : w.Owned) :
    w.cluster.producer? s = some id := by
  have held : (s, some id) ∈ w.held := by
    cases h with
    | made hg =>
      rw [held_eq, add_assoc]
      exact Multiset.mem_add.mpr (.inl (Multiset.mem_coe.mpr (List.mem_map_of_mem hg)))
    | confirmed ht answer asks =>
      obtain ⟨i, hi⟩ := List.mem_iff_getElem?.mp ht
      exact mem_held_of_task hi (asks.mem_held _)
  obtain ⟨name, known, bears⟩ := owned.known _ held
  rw [known, bears id rfl]

theorem Registered.apart (h : w.Registered s id) (named : w.Named) (ht : w.tasks[i]? = some task)
    {other : String} {asked : SessionId} (asks : Asks task.activity asked other .init)
    (unanswered : task.answer = none) : other ≠ id := by
  rintro rfl
  refine named.apart ht asks.mem_names ?_
  cases h with
  | made hg => exact mem_namesBesides_of_producer hg ht asks.handles_eq
  | @confirmed user _ _ hu answer asks' =>
    obtain ⟨j, hj⟩ := List.mem_iff_getElem?.mp hu
    refine mem_namesBesides_of_task hj ?_ asks'.mem_names
    rintro rfl
    obtain rfl := Option.some.inj (hj.symm.trans ht)
    simp [unanswered] at answer

theorem Asks.of_init {activity : Activity} {s' : SessionId} {id' : String}
    (h : Asks activity s id .init) (h' : Asks activity s' id' request) :
    s' = s ∧ request = .init := by
  have empty := h.handles_eq
  cases h' with
  | transact | retire | drain | operate => simp [Activity.handles] at empty
  | register | registerLent =>
    cases h
    exact ⟨rfl, rfl⟩
  | dismiss | dismissLent => cases h

theorem upToDate_of_tasks
    (current : ∀ s id, w.Registered s id → next.cluster.Current s)
    (made : ∀ g ∈ next.producers, ∃ id, w.Registered g.session id)
    (tasks : ∀ task ∈ next.tasks, task ∈ w.tasks ∨ (task.answer = some (.answered (.ok ())) →
      ∀ s id, Asks task.activity s id .init → next.cluster.Current s)) : next.UpToDate := by
  intro s id registered
  cases registered with
  | made hg =>
    obtain ⟨id, before⟩ := made _ hg
    exact current _ id before
  | confirmed ht answer asks =>
    rcases tasks _ ht with old | new
    · exact current s id (.confirmed old answer asks)
    · exact new answer s id asks

end World

theorem Attempt.resume_made {limit : Span} {attempt : Attempt} {signal : Signal} {s : SessionId}
    (h : attempt.resume limit signal = .made s) :
    attempt = .registering s ∧ signal = .answered (.ok ()) := by
  unfold resume at h
  split at h <;> simp at h
  subst h
  exact ⟨rfl, rfl⟩

theorem Creation.resume_made {limit : Span} {policy : Backoff} {cancelled : Bool}
    {creation : Creation} {signal : Signal} {s : SessionId}
    (h : creation.resume limit policy cancelled signal = .made s) :
    (∃ failures, creation = .trying failures (.registering s)) ∧ signal = .answered (.ok ()) := by
  cases creation with
  | trying failures attempt =>
    simp only [resume] at h
    split at h
    · simp at h
    · rename_i made
      cases h
      obtain ⟨rfl, rfl⟩ := Attempt.resume_made made
      exact ⟨⟨failures, rfl⟩, rfl⟩
    · simp only [fail] at h
      split at h <;> simp at h
  | pausing failures =>
    cases signal with
    | resumed =>
      simp only [resume, begin] at h
      split at h <;> simp at h
    | opened | answered | silence => simp [resume] at h

theorem Activity.mem_arrivals {service : Service} {cancelled : Bool} {activity : Activity}
    {signal : Signal} {k : Nat} {s : SessionId}
    (arrived : s ∈ arrivals (activity.passages k (activity.resume service cancelled signal))) :
    signal = .answered (.ok ()) ∧ ∃ id, World.Asks activity s id .init := by
  have handled := Multiset.mem_of_le (arrivals_le_handles k activity _) arrived
  cases activity with
  | creating purpose id creation =>
    simp only [resume] at handled
    cases hn : creation.resume service.options.operationLimit service.creation cancelled signal with
    | ongoing next => simp [hn, afterCreation, Move.handles, handles] at handled
    | failed error =>
      cases purpose <;> simp [hn, afterCreation, refuse, Move.handles, handles] at handled
    | made session =>
      obtain rfl : s = session := by
        simpa [hn, afterCreation, serve_handles, Attempt.handle] using handled
      obtain ⟨⟨failures, rfl⟩, rfl⟩ := Creation.resume_made hn
      exact ⟨rfl, id, .register purpose id failures s⟩
  | making slot id attempt =>
    simp only [resume] at handled
    cases hn : attempt.resume service.options.operationLimit signal with
    | ongoing next => simp [hn, afterMaking, Move.handles, handles] at handled
    | failed error => simp [hn, afterMaking, Move.handles, handles] at handled
    | made session =>
      obtain rfl : s = session := by
        simpa [hn, afterMaking, Move.handles, handles, Attempt.handle] using handled
      obtain ⟨rfl, rfl⟩ := Attempt.resume_made hn
      exact ⟨rfl, id, .registerLent slot id s⟩
  | returning handle outcome =>
    simp only [passages] at arrived
    split at arrived <;> simp [arrivals, List.filterMap_cons, Passage.made?] at arrived
  | retiring handle discarded outcome =>
    simp [passages, arrivals, List.filterMap_cons, Passage.made?] at arrived
  | draining rest closed =>
    cases rest <;> simp [passages, arrivals, List.filterMap_cons, Passage.made?] at arrived
  | _ => simp [passages] at arrived

namespace World

variable {w next : World} {i : Nat} {task : Task}

theorem Passing.registered {passages : List Passage} (h : w.Passing passages next)
    (distinct : Slots.Distinct w.handles) {g : Handle} (hg : g ∈ next.producers) :
    ∃ id, w.Registered g.session id := by
  have here : g.session ∈ w.kept + arrivals passages := by
    rw [← h.balanced distinct]
    exact Multiset.mem_add.mpr (.inl (mem_kept.mpr ⟨g, hg, rfl⟩))
  rcases Multiset.mem_add.mp here with old | arrived
  · obtain ⟨before, hb, same⟩ := mem_kept.mp old
    exact ⟨before.id, same ▸ .made hb⟩
  · cases h with
    | still | spoiled => simp at arrived
    | @told i task service signal ht hs news =>
      rw [movePassages, arrivals_append, arrivals_replaced, add_zero] at arrived
      obtain ⟨rfl, id, asks⟩ := Activity.mem_arrivals arrived
      have answer : task.answer = some (.answered (.ok ())) := by simpa [Signal.IsNews] using news
      exact ⟨id, .confirmed (List.mem_of_getElem? ht) answer asks⟩
    | begun hb drains =>
      unfold entryPassages at arrived
      split at arrived <;> simp [arrivals, List.filterMap_cons, Passage.made?] at arrived
    | crashed | forgot => simp at arrived

/-- Nobody is fenced whose session was registered for a producer. -/
theorem UpToDate.apply (h : w.UpToDate) (owned : w.Owned) (named : w.Named)
    (distinct : Slots.Distinct w.handles) (bare : w.sessions = []) (event : Event) :
    (w.apply event).UpToDate := by
  have made : ∀ g ∈ (w.apply event).producers, ∃ id, w.Registered g.session id :=
    fun g hg => (w.undergo_passes (.event event)).registered distinct hg
  have step := w.step_apply event
  generalize w.note? event = note at step
  generalize w.apply event = next at made step
  have replaced {i : Nat} {new : Task} (heard : new.answer = some (.answered (.ok ())) →
      ∀ s id, Asks new.activity s id .init → next.cluster.Current s) :
      ∀ task ∈ w.tasks.set i new, task ∈ w.tasks ∨ (task.answer = some (.answered (.ok ())) →
        ∀ s id, Asks task.activity s id .init → next.cluster.Current s) := by
    intro task ht
    rcases List.mem_or_eq_of_mem_set ht with old | rfl
    · exact .inl old
    · exact .inr heard
  cases step with
  | same | tick | adjusted | forgot | spoiled =>
    exact upToDate_of_tasks h made fun task ht => .inl ht
  | @begun base task note hb =>
    refine upToDate_of_tasks ?_ made fun other ho => ?_
    · rw [addTask_cluster, hb.cluster]
      exact h
    · rw [addTask_tasks, hb.tasks] at ho
      rcases List.mem_append.mp ho with old | new
      · exact .inl old
      · obtain rfl := List.mem_singleton.mp new
        exact .inr (by simp)
  | told ht hs told =>
    refine upToDate_of_tasks ?_ made (signal_tasks hs ▸ replaced (by simp))
    rw [signal_cluster hs]
    exact h
  | opened ht hd ha =>
    exact upToDate_of_tasks (fun s id hr => (h s id hr).join _) made (replaced (by simp))
  | refused | crashed => exact upToDate_of_tasks h made (replaced (by simp))
  | flagged ht =>
    exact upToDate_of_tasks h made (replaced fun answer s id asks =>
      h s id (.confirmed (List.mem_of_getElem? ht) answer asks))
  | @answered i task asked id request limit ht hd ha =>
    have asks := asks_of_demand hd
    have known : w.cluster.producer? asked = some id := by
      obtain ⟨name, known, bears⟩ := owned.known _ (mem_held_of_task ht (asks.mem_held _))
      rw [known, bears id rfl]
    refine upToDate_of_tasks (fun s name hr => ?_) made (replaced fun answer s name asks' => ?_)
    · -- A registration fences no session of another id, and nobody else uses this one.
      refine (h s name hr).perform asked request fun registers _ => ?_
      subst registers
      rw [known, hr.producer? owned]
      exact fun same => hr.apart named ht asks ha (Option.some.inj same)
    · obtain ⟨rfl, rfl⟩ := asks'.of_init asks
      exact Cluster.current_of_registered (by simpa using answer)
  | joined slot id =>
    exact upToDate_of_tasks (fun s id hr => (h s id hr).join _) made fun task ht => .inl ht
  | requested hl request => simp [bare] at hl

theorem UpToDate.initial (partitions : Nat) {services : List Service}
    (empty : ∀ service ∈ services, service.pool.idle = []) :
    (World.initial partitions services).UpToDate := by
  intro s id registered
  cases registered with
  | @made g hg =>
    rcases mem_producers.mp hg with ⟨service, hs, idle⟩ | ⟨task, ht, -⟩ | ⟨slot, hs, -⟩
    · simp [empty service hs] at idle
    · simp [World.initial] at ht
    · simp [World.initial] at hs
  | confirmed ht => simp [World.initial] at ht

theorem UpToDate.asked (h : w.UpToDate) (ht : w.tasks[i]? = some task) {s : SessionId} {id : String}
    {request : Request} (asks : Asks task.activity s id request) (other : request ≠ .init)
    (other' : request ≠ .close) : w.cluster.Current s := by
  have current {handle : Handle} (has : handle ∈ task.activity.handles) :
      w.cluster.Current handle.session :=
    h _ _ (.made (mem_producers.mpr (.inr (.inl ⟨task, List.mem_of_getElem? ht, has⟩))))
  generalize task.activity = activity at asks current
  cases asks with
  | transact | operate => exact current List.mem_cons_self
  | register | registerLent => exact absurd rfl other
  | dismiss | retire | drain | dismissLent => exact absurd rfl other'

variable {reason : String}

theorem callEffect_remembers (h : w.UpToDate) (unlike : .fatal reason ≠ Session.closedError)
    (ht : w.tasks[i]? = some task) {answer : Signal} {cluster : Cluster}
    (effect : w.callEffect task = some (answer, cluster)) (later : cluster.Remembers reason) :
    w.cluster.Remembers reason := by
  have called := w.callEffect_cases task
  rw [effect] at called
  cases called with
  | refused hd refusals error => exact later.of_eq rfl rfl
  | opened hd => exact Cluster.join_remembers later
  | answered hd =>
    exact Cluster.perform_remembers unlike _
      (fun other other' => h.asked ht (asks_of_demand hd) other other') (.inr later)

theorem signal_cluster_eq (w : World) (i : Nat) (task : Task) (signal : Signal) :
    (w.signal i task signal).cluster = w.cluster := by
  cases hs : w.service? task with
  | none => rw [signal_of_no_service hs]
  | some service => exact signal_cluster hs

theorem applyTask_cluster (w : World) (i : Nat) (task : Task) (event : Event) :
    (w.applyTask i task event).cluster = w.cluster ∨
      ∃ answer, w.callEffect task = some (answer, (w.applyTask i task event).cluster) := by
  cases event with
  | effect =>
    simp only [applyTask]
    split
    · exact .inl rfl
    · split
      · exact .inl rfl
      · rename_i answer cluster effect
        exact .inr ⟨answer, effect⟩
  | proceed | expire | crash =>
    simp only [applyTask]
    split
    · exact .inl (by simp [signal_cluster_eq])
    · exact .inl rfl
  | deliver | wake =>
    simp only [applyTask]
    split <;> exact .inl (by simp [signal_cluster_eq])
  | _ => exact .inl rfl

theorem UpToDate.apply_remembers (h : w.UpToDate) (bare : w.sessions = [])
    (unlike : .fatal reason ≠ Session.closedError) {event : Event} (he : event.drawsIds = true)
    (later : (w.apply event).cluster.Remembers reason) :
    w.cluster.Remembers reason ∨ ∃ operation, event = .inject operation (.fatal reason) := by
  cases hi : eventTask? event with
  | some i =>
    refine .inl ?_
    simp only [World.apply, hi] at later
    cases ht : w.tasks[i]? with
    | none => simpa [ht] using later
    | some task =>
      simp only [ht] at later
      rcases w.applyTask_cluster i task event with same | ⟨answer, effect⟩
      · exact same ▸ later
      · exact callEffect_remembers h unlike ht effect later
  | none =>
    simp only [World.apply, hi] at later
    cases event with
    | inject operation error =>
      cases later with
      | @queued other queued =>
        rcases List.mem_append.mp queued with old | new
        · exact .inl (.queued old)
        · obtain ⟨-, rfl⟩ := Prod.mk.inj (List.mem_singleton.mp new)
          exact .inr ⟨operation, rfl⟩
      | failed hs remembered => exact .inl (.failed hs remembered)
    | start k job cancelled =>
      refine .inl ?_
      dsimp only at later
      rcases w.start_cases k job cancelled with same | ⟨base, task, note, started, hb, -⟩
      · exact same ▸ later
      · rwa [started, addTask_cluster, hb.cluster] at later
    | markFatal slot =>
      refine .inl (later.of_eq ?_ ?_) <;> (dsimp only; unfold markFatal; split <;> rfl)
    | request slot request =>
      refine .inl ?_
      simpa [World.request, bare] using later
    | openSession => simp [Event.drawsIds] at he
    | tick | toggleOffline | refuse | forget => exact .inl (later.of_eq rfl rfl)
    | _ => simp [eventTask?] at hi

/-- Who is told that a session failed for good is told a reason that was known before. -/
theorem UpToDate.called_remembers (h : w.UpToDate) (bare : w.sessions = [])
    (unlike : .fatal reason ≠ Session.closedError) {note : Option Note} (step : w.Step note next)
    {caller : Option Nat} {s : SessionId} {producer : String} {request : Request}
    (called : note = some (.called caller s producer request (.error (.fatal reason)))) :
    w.cluster.Remembers reason := by
  cases step with
  | @answered i task asked id request limit ht hd ha =>
    have failed : (w.cluster.perform asked request).1 = .error (.fatal reason) := by
      simp only [noteOf, Option.some.injEq, Note.called.injEq] at called
      obtain ⟨-, -, -, -, reply⟩ := called
      exact reply
    exact Cluster.perform_remembers unlike request
      (fun other other' => h.asked ht (asks_of_demand hd) other other') (.inl failed)
  | begun hb => rcases hb.note_cases with rfl | ⟨topic, payload, rfl⟩ <;> simp at called
  | told ht hs told => rcases told.note_cases with rfl | ⟨request, reply, rfl⟩ <;> simp at called
  | requested hl request => simp [bare] at hl
  | _ => simp at called

theorem apply_bare (bare : w.sessions = []) {event : Event} (he : event.drawsIds = true) :
    (w.apply event).sessions = [] := by
  cases hi : eventTask? event with
  | some i =>
    rcases apply_touches hi with same | ⟨task, ht, touches⟩
    · exact same ▸ bare
    · generalize w.apply event = next at touches
      cases touches with
      | @told s heard =>
        cases hs : w.service? task with
        | none => rwa [signal_of_no_service hs]
        | some service => rwa [signal_sessions hs]
      | flagged | crashed => exact bare
  | none =>
    simp only [World.apply, hi]
    cases event with
    | start k job cancelled =>
      dsimp only
      rcases w.start_cases k job cancelled with same | ⟨base, task, note, started, hb, -⟩
      · exact (congrArg World.sessions same).trans bare
      · rw [started, addTask_sessions, ← bare]
        generalize task.activity = activity at hb
        cases hb <;> rfl
    | markFatal slot =>
      dsimp only
      unfold markFatal
      split <;> exact bare
    | request slot request => simp [World.request, bare]
    | openSession => simp [Event.drawsIds] at he
    | tick | toggleOffline | refuse | inject | forget => exact bare
    | _ => simp [eventTask?] at hi

end World

/-! ### Whole runs -/

namespace Run

variable {r : Run}

theorem DrawsIds.bare (h : r.DrawsIds) : r.world.sessions = [] := by
  induction r using by_events with
  | idle r nothing => exact congrArg World.sessions (world_of_idle nothing)
  | event r e ih =>
    obtain ⟨before, draws⟩ := h.of_extend
    rw [extend_world]
    exact World.apply_bare (ih before) draws

theorem DrawsIds.upToDate (h : r.DrawsIds) : r.world.UpToDate := by
  induction r using by_events with
  | idle r nothing => exact world_of_idle nothing ▸ .initial _ r.fresh
  | event r e ih =>
    obtain ⟨before, -⟩ := h.of_extend
    rw [extend_world]
    exact (ih before).apply r.owned before.named (r.free_world ▸ r.free.complete.distinct)
      before.bare e

variable {reason : String} (unlike : .fatal reason ≠ Session.closedError)

include unlike

theorem DrawsIds.injected_of_remembers (h : r.DrawsIds)
    (known : r.world.cluster.Remembers reason) :
    ∃ operation, .inject operation (.fatal reason) ∈ r.events := by
  induction r using by_events with
  | idle r nothing =>
    rw [world_of_idle nothing] at known
    cases known with
    | queued queued => simp [World.initial, Cluster.empty, Broker.empty] at queued
    | failed hs => simp [World.initial, Cluster.empty] at hs
  | event r e ih =>
    obtain ⟨before, draws⟩ := h.of_extend
    rw [extend_world] at known
    rcases before.upToDate.apply_remembers before.bare unlike draws known with
      earlier | ⟨operation, rfl⟩
    · obtain ⟨operation, injected⟩ := ih before earlier
      exact ⟨operation, List.mem_append_left _ injected⟩
    · exact ⟨operation, List.mem_append_right _ List.mem_cons_self⟩

theorem DrawsIds.injected_of_called (h : r.DrawsIds) {caller : Option Nat} {s : SessionId}
    {producer : String} {request : Request}
    (called : .called caller s producer request (.error (.fatal reason)) ∈ r.chronicle) :
    ∃ operation, .inject operation (.fatal reason) ∈ r.events := by
  induction r using by_events with
  | idle r nothing => simp [chronicle, nothing, World.chronicle] at called
  | event r e ih =>
    obtain ⟨before, -⟩ := h.of_extend
    rw [extend_chronicle] at called
    have injected : ∃ operation, .inject operation (.fatal reason) ∈ r.events := by
      rcases List.mem_append.mp called with new | old
      · exact before.injected_of_remembers unlike
          (before.upToDate.called_remembers before.bare unlike (r.world.step_apply e)
            (Option.mem_toList.mp new))
      · exact ih before old
    obtain ⟨operation, injected⟩ := injected
    exact ⟨operation, List.mem_append_left _ injected⟩

omit unlike

variable (r)

/-- Services that draw their ids from pools with names of their own do not fence each other or
themselves, whatever becomes of registrations and their answers: every producer that is idle,
lent or in use has the session that was the last to be registered for its transactional id, and
a session that answers that it has been fenced has been made to fail so. -/
theorem never_fences_itself (events : ∀ event ∈ r.events, event.drawsIds = true)
    (bases : (r.services.map (·.options.baseId)).Nodup) :
    (∀ g ∈ r.world.producers, ∃ session, r.world.cluster.sessions[g.session]? = some session ∧
      session.id = g.id ∧ session.epoch = r.world.cluster.broker.epoch g.id) ∧
    ∀ (caller : Option Nat) (s : SessionId) (producer : String) (request : Request) (id : String),
      .called caller s producer request (.error (.fatal (Session.fencedReason id))) ∈ r.chronicle →
      ∃ operation, .inject operation (.fatal (Session.fencedReason id)) ∈ r.events := by
  have draws : r.DrawsIds := ⟨events, bases⟩
  constructor
  · intro g hg
    obtain ⟨session, hs, epoch⟩ := draws.upToDate _ _ (.made hg)
    have bears : session.id = g.id := by
      have known := (World.Registered.made hg).producer? r.owned
      simpa [Cluster.producer?, hs] using known
    exact ⟨session, hs, bears, bears ▸ epoch⟩
  · intro caller s producer request id called
    exact draws.injected_of_called (Session.fencedReason_ne id) called

/-- A producer is registered twice because the first answer is lost, another service with a name
like its id creates one too, and then a fence is injected. -/
def registeredTwice : Run where
  partitions := 1
  services := ["a", "a-1"].map fun base => {
    options := { brokers := ["b"], baseId := base }
    retry := .immediate 0
    creation := .immediate 1
    topic := "results" }
  events := [.start 0 (.borrow "x") false, .proceed 0, .effect 0, .deliver 0, .effect 0, .expire 0,
    .effect 0, .deliver 0, .wake 0, .effect 0, .deliver 0, .effect 0, .deliver 0,
    .start 1 (.borrow "y") false, .proceed 1, .effect 1, .deliver 1, .effect 1, .deliver 1,
    .inject .begin (.fatal (Session.fencedReason "a-1")), .start 0 (.operate "x" .begin) false,
    .effect 2]
  fresh := by simp

theorem registeredTwice_current :
    registeredTwice.world.cluster.broker.epochs = [("a-1-1", 1), ("a-1", 2)] ∧
    registeredTwice.world.producers.map (fun g => (g.id, g.session)) =
      [("a-1", 1), ("a-1-1", 2)] ∧
    (∀ g ∈ registeredTwice.world.producers, ∃ session,
      registeredTwice.world.cluster.sessions[g.session]? = some session ∧ session.id = g.id ∧
        session.epoch = registeredTwice.world.cluster.broker.epoch g.id) ∧
    .called none 1 "a-1" .begin (.error (.fatal (Session.fencedReason "a-1"))) ∈
      registeredTwice.chronicle ∧
    ∃ operation, .inject operation (.fatal (Session.fencedReason "a-1")) ∈
      registeredTwice.events := by
  have events : ∀ event ∈ registeredTwice.events, event.drawsIds = true := by decide +kernel
  have bases : (registeredTwice.services.map (·.options.baseId)).Nodup := by decide +kernel
  have called : .called none 1 "a-1" .begin (.error (.fatal (Session.fencedReason "a-1"))) ∈
      registeredTwice.chronicle := by decide +kernel
  obtain ⟨current, injected⟩ := registeredTwice.never_fences_itself events bases
  exact ⟨by decide +kernel, by decide +kernel, current, called, injected _ _ _ _ _ called⟩

end Run

end OutcomeRelay
