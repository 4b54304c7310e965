import OutcomeRelay.Proofs.ClusterRun
import OutcomeRelay.Proofs.OpenSessions

set_option autoImplicit false

namespace OutcomeRelay

def Outcome.isRefusal : Outcome → Bool
  | .published (.error (.pool _)) => true
  | .lent (.error _) => true
  | .replied (.error _) => true
  | _ => false

namespace World

def loses (w : World) : Event → Multiset SessionId
  | .expire i =>
    match w.tasks[i]? with
    | none => 0
    | some task =>
      match w.demand task, task.answer with
      | .connection _ _, some (.opened session) => {session}
      | _, _ => 0
  | _ => 0

def ofTask {α : Type} (i : Nat) (f : World → Event → Multiset α) (w : World) (event : Event) :
    Multiset α :=
  if eventTask? event = some i then f w event else 0

def opensSession (w : World) (event : Event) : Multiset SessionId := (w.opens event).map Prod.snd

end World

/-- What a task has of the sessions that it opened, as long as it may still end with a refusal. -/
def Activity.share? (answer : Option Signal) : Activity → Option (Multiset SessionId)
  | waiting _ _ => some 0
  | borrowing _ => some 0
  | creating _ _ creation => some (creation.inUse answer)
  | making _ _ attempt => some (attempt.inUse answer)
  | operating _ _ request => if request = .close then none else some 0
  | ended outcome => if outcome.isRefusal then some 0 else none
  | _ => none

/-- What a task gives up unheard when it is told this. -/
def Attempt.gives (signal : Signal) (answer : Option Signal) : Attempt → Multiset SessionId
  | connecting =>
    match signal, answer with
    | .silence, some (.opened session) => {session}
    | _, _ => 0
  | _ => 0

def Activity.gives (signal : Signal) (answer : Option Signal) : Activity → Multiset SessionId
  | creating _ _ (.trying _ attempt) => attempt.gives signal answer
  | making _ _ attempt => attempt.gives signal answer
  | _ => 0

def Activity.Served : Activity → Prop
  | returning _ outcome => outcome.isRefusal = false
  | retiring _ _ outcome => outcome.isRefusal = false
  | _ => True

theorem Attempt.resume_gives (id : String) (limit limit' : Span) {attempt : Attempt}
    {signal : Signal} {answer : Option Signal} (ends : (attempt.demand id limit).EndsWith signal)
    (news : signal.IsNews answer) :
    (attempt.resume limit' signal).inUse + attempt.gives signal answer = attempt.inUse answer := by
  by_cases silent : attempt = .connecting ∧ signal = .silence
  · obtain ⟨rfl, rfl⟩ := silent
    rcases answer with _ | _ | _ | _ | _ <;> rfl
  · have met : (attempt.demand id limit).mustBeMet = true → signal ≠ .silence := by
      rintro must rfl
      cases attempt with
      | connecting => exact silent ⟨rfl, rfl⟩
      | registering session => cases must
      | closing session error => cases ends
    have nothing : attempt.gives signal answer = 0 := by
      cases attempt with
      | connecting =>
        cases signal with
        | silence => exact absurd ⟨rfl, rfl⟩ silent
        | _ => rfl
      | _ => rfl
    rw [nothing, add_zero, attempt.resume_inUse id limit limit' ends news met]

theorem Creation.resume_gives (id : String) (limit limit' : Span) (policy : Backoff)
    (cancelled : Bool) {creation : Creation} {signal : Signal} {answer : Option Signal}
    (purpose : Purpose) (id' : String)
    (ends : (creation.demand id limit policy).EndsWith signal) (news : signal.IsNews answer) :
    (creation.resume limit' policy cancelled signal).inUse +
        (Activity.creating purpose id' creation).gives signal answer = creation.inUse answer := by
  cases creation with
  | pausing failures =>
    cases ends with
    | rested => exact (add_zero _).trans (begin_inUse cancelled failures)
  | trying failures attempt =>
    have step := attempt.resume_gives id limit limit' ends news
    simp only [resume, inUse, Activity.gives]
    generalize attempt.resume limit' signal = next at step
    cases next with
    | ongoing next => exact step
    | made session => exact step
    | failed error =>
      simp only [fail]
      split <;> exact step

theorem Attempt.gives_eq_zero {attempt : Attempt} {signal : Signal} {answer : Option Signal}
    (heard : signal ≠ .silence ∨ answer = some signal) : attempt.gives signal answer = 0 := by
  cases attempt with
  | connecting =>
    cases signal with
    | silence =>
      obtain rfl := heard.resolve_left (absurd rfl)
      rfl
    | _ => rfl
  | _ => rfl

namespace Activity

variable {service : Service} {cancelled : Bool} {signal : Signal} {answer : Option Signal}
  {activity : Activity} {m : Multiset SessionId}

theorem gives_eq_zero (heard : signal ≠ .silence ∨ answer = some signal) :
    activity.gives signal answer = 0 := by
  cases activity with
  | creating purpose id creation =>
    cases creation with
    | trying failures attempt => exact Attempt.gives_eq_zero heard
    | pausing failures => rfl
  | making slot id attempt => exact Attempt.gives_eq_zero heard
  | _ => rfl

theorem serve_share? (pool : Pool) (handle : Handle) (purpose : Purpose) :
    (serve pool handle purpose).activity.share? none = none := by
  cases purpose <;> rfl

theorem refuse_share? (pool : Pool) (error : PoolError) (purpose : Purpose) :
    (refuse pool error purpose).activity.share? none = some 0 := by
  cases purpose <;> rfl

theorem afterCreation_share? (pool : Pool) (purpose : Purpose) (id : String)
    (next : Creation.Next)
    (h : (afterCreation service pool purpose id next).activity.share? none = some m) :
    m = next.inUse := by
  cases next with
  | ongoing creation => exact (Option.some.inj h).symm
  | made session => simp [afterCreation, serve_share?] at h
  | failed error =>
    rw [afterCreation, refuse_share?] at h
    exact (Option.some.inj h).symm

theorem afterMaking_share? (slot id : String) (next : Attempt.Next)
    (h : (afterMaking service slot id next).activity.share? none = some m) : m = next.inUse := by
  cases next with
  | ongoing attempt => exact (Option.some.inj h).symm
  | made session => simp [afterMaking, share?, Outcome.isRefusal] at h
  | failed error =>
    simp only [afterMaking, share?, Outcome.isRefusal, if_true] at h
    exact (Option.some.inj h).symm

theorem share?_resume (served : activity.Served) (ends : (activity.demand service).EndsWith signal)
    (news : signal.IsNews answer)
    (h : (activity.resume service cancelled signal).activity.share? none = some m) :
    activity.share? answer = some (m + activity.gives signal answer) := by
  cases activity with
  | waiting millis purpose =>
    obtain rfl := Option.some.inj h
    rfl
  | borrowing purpose =>
    simp only [resume] at h
    rcases borrow_cases service cancelled purpose with
      hb | ⟨handle, idle, taken, hb⟩ | ⟨id, ids, hb⟩
    · rw [hb, refuse_share?] at h
      obtain rfl := Option.some.inj h
      rfl
    · rw [hb, serve_share?] at h
      cases h
    · rw [hb] at h
      obtain rfl := afterCreation_share? _ _ _ _ h
      rw [Creation.begin_inUse]
      rfl
  | creating purpose id creation =>
    obtain rfl := afterCreation_share? _ _ _ _ h
    exact congrArg some (creation.resume_gives id _ _ _ _ purpose id ends news).symm
  | making slot id attempt =>
    obtain rfl := afterMaking_share? _ _ _ h
    exact congrArg some (attempt.resume_gives id _ _ ends news).symm
  | operating slot handle request =>
    simp only [resume, afterOperating] at h
    by_cases closing : request = .close
    · simp [closing, share?, Outcome.isRefusal] at h
    · simp only [if_neg closing, share?] at h ⊢
      split at h
      · obtain rfl := Option.some.inj h
        rfl
      · cases h
  | transacting t =>
    simp only [resume, afterTransaction] at h
    split at h <;> cases h
  | returning handle outcome =>
    simp only [resume] at h
    rcases giveBack_cases service.pool handle outcome with ⟨-, hg⟩ | ⟨discarded, -, hg⟩
    · rw [hg] at h
      simp [share?, show outcome.isRefusal = false from served] at h
    · rw [hg] at h
      cases h
  | retiring handle discarded outcome =>
    simp [resume, afterRetiring, share?, show outcome.isRefusal = false from served] at h
  | draining handles closed =>
    cases handles <;> simp [resume, share?, Outcome.isRefusal] at h
  | ended outcome => cases ends

theorem resume_held_of_gives (unheard : activity.gives signal answer ≠ 0) :
    (activity.resume service cancelled signal).held = service.pool.held := by
  have failing (id : String) (policy : Backoff) (failures : UInt32) (error : BrokerError) :
      (Creation.fail policy failures error).held id = 0 := by
    unfold Creation.fail
    split <;> rfl
  have silent {attempt : Attempt} (h : attempt.gives signal answer ≠ 0) :
      attempt = .connecting ∧ signal = .silence := by
    cases attempt with
    | connecting =>
      cases signal with
      | silence => exact ⟨rfl, rfl⟩
      | _ => exact absurd rfl h
    | _ => exact absurd rfl h
  cases activity with
  | creating purpose id creation =>
    cases creation with
    | trying failures attempt =>
      obtain ⟨rfl, rfl⟩ := silent unheard
      rw [resume, afterCreation_held]
      exact (congrArg (· + _) (failing id _ _ _)).trans (zero_add _)
    | pausing failures => exact absurd rfl unheard
  | making slot id attempt =>
    obtain ⟨rfl, rfl⟩ := silent unheard
    rw [resume, afterMaking_held]
    exact zero_add _
  | _ => exact absurd rfl unheard

theorem share?_of_gives {s : SessionId} (hs : s ∈ activity.gives signal answer) :
    ∃ m, activity.share? answer = some m ∧ s ∈ m := by
  have attempts {attempt : Attempt} (h : s ∈ attempt.gives signal answer) :
      s ∈ attempt.inUse answer := by
    cases attempt with
    | connecting =>
      cases signal with
      | silence => rcases answer with _ | _ | _ | _ | _ <;> exact h
      | _ => cases h
    | _ => cases h
  cases activity with
  | creating purpose id creation =>
    cases creation with
    | trying failures attempt => exact ⟨_, rfl, attempts hs⟩
    | pausing failures => cases hs
  | making slot id attempt => exact ⟨_, rfl, attempts hs⟩
  | _ => cases hs

theorem share?_le_held
    (h : activity.share? answer = some m) : m ≤ (activity.held answer).map Prod.fst := by
  have attempts (id : String) (attempt : Attempt) :
      attempt.inUse answer ≤ (attempt.held id answer).map Prod.fst := by
    cases attempt with
    | connecting => rcases answer with _ | _ | _ | _ | _ <;> exact le_rfl
    | registering session => exact le_rfl
    | closing session error =>
      cases answer with
      | none => exact le_rfl
      | some answer => exact Multiset.zero_le _
  cases activity with
  | creating purpose id creation =>
    obtain rfl := Option.some.inj h
    cases creation with
    | trying failures attempt => exact attempts id attempt
    | pausing failures => exact le_rfl
  | making slot id attempt =>
    obtain rfl := Option.some.inj h
    exact attempts id attempt
  | waiting | borrowing =>
    obtain rfl := Option.some.inj h
    exact Multiset.zero_le _
  | operating slot handle request =>
    simp only [Activity.share?] at h
    split at h
    · cases h
    · obtain rfl := Option.some.inj h
      exact Multiset.zero_le _
  | ended outcome =>
    simp only [Activity.share?] at h
    split at h
    · obtain rfl := Option.some.inj h
      exact Multiset.zero_le _
    · cases h
  | transacting | returning | retiring | draining => cases h

end Activity

def Cluster.flag? (c : Cluster) (s : SessionId) : Option Bool := c.sessions[s]?.map (·.closed)

namespace Cluster

variable {c : Cluster} {s : SessionId} {flag : Bool}

theorem lt_of_flag? (h : c.flag? s = some flag) : s < c.sessions.length := by
  obtain ⟨session, hs, -⟩ := Option.map_eq_some_iff.mp h
  exact (List.getElem?_eq_some_iff.mp hs).1

theorem flag?_join (h : c.flag? s = some flag) (id : String) : (c.join id).flag? s = some flag := by
  obtain ⟨session, hs, closed⟩ := Option.map_eq_some_iff.mp h
  exact Option.map_eq_some_iff.mpr ⟨session, join_older hs id, closed⟩

theorem flag?_join_length (c : Cluster) (id : String) :
    (c.join id).flag? c.sessions.length = some false := by
  simp [flag?, join]

theorem flag?_perform (h : c.flag? s = some flag) (own : SessionId) (request : Request) :
    (c.perform own request).2.flag? s = some (flag || decide (request = .close ∧ s = own)) := by
  obtain ⟨old, ho, rfl⟩ := Option.map_eq_some_iff.mp h
  have inside : s < (c.perform own request).2.sessions.length := by
    rw [c.length_perform]
    exact lt_of_flag? h
  obtain ⟨before, hb, closed⟩ := c.perform_closed (List.getElem?_eq_getElem inside)
  obtain rfl := Option.some.inj (ho.symm.trans hb)
  refine Option.map_eq_some_iff.mpr ⟨_, List.getElem?_eq_getElem inside, ?_⟩
  rw [Bool.eq_iff_iff, closed]
  simp

theorem flag?_act (h : c.flag? s = some true) (a : Action) : (c.act a).flag? s = some true := by
  cases a with
  | connect settings =>
    rcases World.connect_cases c settings with ⟨error, refusals, hc⟩ | hc
    · rw [act, hc]
      exact h
    · rw [act, hc]
      exact flag?_join h _
  | request own request => rw [act, flag?_perform h, Bool.true_or]
  | inject | refuse | toggleOffline => exact h

theorem length_le_act (c : Cluster) (a : Action) :
    c.sessions.length ≤ (c.act a).sessions.length := by
  cases a with
  | connect settings =>
    rcases World.connect_cases c settings with ⟨error, refusals, hc⟩ | hc
    · rw [act, hc]
      exact le_rfl
    · rw [act, hc]
      simp [join]
  | request own request => exact (c.length_perform own request).ge
  | inject | refuse | toggleOffline => exact le_rfl

end Cluster

namespace World

variable {w next : World} {i : Nat} {task new : Task} {event : Event} {m : Multiset SessionId}

theorem Begins.share? {base : World} {activity : Activity} {note : Option Note}
    (h : w.Begins base activity note) (hm : activity.share? none = some m) : m = 0 := by
  cases h with
  | publish millis topic payload =>
    unfold Activity.begin at hm
    split at hm <;> exact (Option.some.inj hm).symm
  | operate h request =>
    simp only [Activity.share?] at hm
    split at hm
    · cases hm
    · exact (Option.some.inj hm).symm
  | borrow | create | createNext => exact (Option.some.inj hm).symm
  | reject | release | shutdown => cases hm

theorem apply_aside (regular : w.Regular) (ht : w.tasks[i]? = some task)
    (aside : eventTask? event ≠ some i) : (w.apply event).tasks[i]? = some task := by
  cases he : eventTask? event with
  | some j =>
    have other : j ≠ i := by
      rintro rfl
      exact aside he
    simp only [World.apply, he]
    cases hj : w.tasks[j]? with
    | none => exact ht
    | some own =>
      obtain ⟨_, tasks, -⟩ := applyTask_tasks (regular.answers own (List.mem_of_getElem? hj)) hj he
      rw [tasks, List.getElem?_set_ne other, ht]
  | none =>
    rcases w.apply_tasks_cases he with ⟨same, -⟩ | ⟨base, added, note, started, hb, -⟩
    · rw [same, ht]
    · rw [started, addTask_tasks, hb.tasks,
        List.getElem?_append_left (List.getElem?_eq_some_iff.mp ht).1, ht]

/-- How an event about a task bears on the sessions that the task opens, closes and gives up. -/
inductive Deals (w : World) (i : Nat) (task : Task) :
    Multiset SessionId → Multiset SessionId → Multiset SessionId → World → Prop
  | told {signal : Signal} (ends : (w.demand task).EndsWith signal)
      (news : signal.IsNews task.answer) :
      Deals w i task 0 0 (task.activity.gives signal task.answer) (w.signal i task signal)
  | still (new : Task) (activity : new.activity = task.activity)
      (answer : new.answer = task.answer) : Deals w i task 0 0 0 (w.setTask i new)
  | opened {id : String} {limit : Span} (hd : w.demand task = .connection id limit)
      (ha : task.answer = none) :
      Deals w i task {w.cluster.sessions.length} 0 0
        ((w.putCluster (w.cluster.join id)).setTask i
          { task with answer := some (.opened w.cluster.sessions.length) })
  | refused {id : String} {limit : Span} (hd : w.demand task = .connection id limit)
      (ha : task.answer = none) (refusals : Nat) (error : BrokerError) :
      Deals w i task 0 0 0
        ((w.putCluster (w.cluster.adjust w.cluster.broker.offline refusals
          w.cluster.broker.faults)).setTask i
            { task with answer := some (.answered (.error error)) })
  | asked {session : SessionId} {id : String} {request : Request} {limit : Option Span}
      (hd : w.demand task = .answer session id request limit) (ha : task.answer = none) :
      Deals w i task 0 (if request = .close then {session} else 0) 0
        ((w.putCluster (w.cluster.perform session request).2).setTask i
          { task with answer := some (.answered (w.cluster.perform session request).1) })
  | crashed (text : String) :
      Deals w i task 0 0 0 (w.setTask i (w.moved task (.ended (.crashed text))))

theorem Deals.refl (ht : w.tasks[i]? = some task) : w.Deals i task 0 0 0 w := by
  have same : w.setTask i task = w :=
    congrArg (fun tasks => { w with tasks := tasks }) (set_getElem?_self ht)
  have still : w.Deals i task 0 0 0 (w.setTask i task) := .still task rfl rfl
  rwa [same] at still

theorem effect_deals (ht : w.tasks[i]? = some task) :
    w.Deals i task (w.opensSession (.effect i)) (w.closes (.effect i)) 0
      (w.applyTask i task (.effect i)) := by
  cases ha : task.answer with
  | some answer => simpa [opensSession, opens, closes, ht, ha, applyTask] using Deals.refl ht
  | none =>
    have effect := w.callEffect_cases task
    simp only [opensSession, opens, closes, ht, ha, applyTask, Option.isSome_none]
    generalize w.callEffect task = given at effect
    cases effect with
    | refused hd refusals error =>
      rw [hd]
      exact .refused hd ha refusals error
    | opened hd =>
      rw [hd]
      exact .opened hd ha
    | @answered session id request limit hd =>
      rw [hd]
      have asked := Deals.asked (i := i) hd ha
      cases request <;> exact asked
    | nothing hd =>
      cases called : w.demand task with
      | connection | answer => simp [called, Demand.isCall] at hd
      | pause | turn | rest => exact .refl ht

theorem connecting_of_gives {signal : Signal} {service : Service}
    (hs : w.service? task = some service) (some_ : task.activity.gives signal task.answer ≠ 0) :
    ∃ id limit, w.demand task = .connection id limit := by
  simp only [demand, hs]
  cases ha : task.activity with
  | creating purpose id creation =>
    rcases creation with ⟨_, _ | _ | _⟩ | _
    · exact ⟨_, _, rfl⟩
    all_goals exact absurd (by rw [ha]; rfl) some_
  | making slot id attempt =>
    rcases attempt with _ | _ | _
    · exact ⟨_, _, rfl⟩
    all_goals exact absurd (by rw [ha]; rfl) some_
  | _ => exact absurd (by rw [ha]; rfl) some_

theorem gives_eq_zero_of_demand {signal : Signal} (regular : w.Regular)
    (ht : w.tasks[i]? = some task) (other : ∀ id limit, w.demand task ≠ .connection id limit) :
    task.activity.gives signal task.answer = 0 := by
  obtain ⟨service, hs⟩ := regular.service ht
  by_contra some_
  obtain ⟨id, limit, hd⟩ := connecting_of_gives hs some_
  exact other id limit hd

theorem loses_expire (regular : w.Regular) (ht : w.tasks[i]? = some task) :
    w.loses (.expire i) = task.activity.gives .silence task.answer := by
  simp only [loses, ht]
  cases hd : w.demand task with
  | connection id limit =>
    have gives : task.activity.gives .silence task.answer =
        Attempt.gives .silence task.answer .connecting := by
      rcases connecting_of_demand hd with ⟨purpose, failures, activity⟩ | ⟨slot, activity⟩ <;>
        rw [activity] <;> rfl
    rw [gives]
    rcases task.answer with _ | _ | _ | _ | _ <;> rfl
  | answer | pause | turn | rest => exact (gives_eq_zero_of_demand regular ht (by simp [hd])).symm

/-- What is addressed to a task bears on its sessions in one of these ways. -/
theorem deals (regular : w.Regular) (ht : w.tasks[i]? = some task)
    (he : eventTask? event = some i) :
    w.Deals i task (w.opensSession event) (w.closes event) (w.loses event) (w.apply event) := by
  have hears {s : Signal} (heard : task.hears? (w.demand task) event = some s)
      (known : s ≠ .silence ∨ task.answer = some s) : w.Deals i task 0 0 0 (w.signal i task s) := by
    obtain ⟨note, told⟩ := told_of_hears i heard
    have told := Deals.told (i := i) (told.ends (regular.answers task (List.mem_of_getElem? ht)))
      told.isNews
    rwa [Activity.gives_eq_zero known] at told
  simp only [World.apply, he, ht]
  cases event with
  | effect j =>
    obtain rfl := Option.some.inj he
    exact effect_deals ht
  | proceed j =>
    simp only [applyTask]
    split
    · exact hears (if_pos ‹_›) (.inl (by simp))
    · exact .refl ht
  | deliver j =>
    simp only [applyTask]
    split
    · exact .refl ht
    · exact hears ‹_› (.inr ‹_›)
  | expire j =>
    obtain rfl := Option.some.inj he
    rw [loses_expire regular ht]
    simp only [applyTask]
    split
    · rename_i limited
      exact .told (.silence limited) (.inl rfl)
    · rename_i unlimited
      have other : ∀ id limit, w.demand task ≠ .connection id limit := fun id limit hd =>
        unlimited (by rw [hd]; rfl)
      rw [gives_eq_zero_of_demand regular ht other]
      exact .refl ht
  | wake j =>
    cases hd : w.demand task with
    | pause length cancellable =>
      have told : w.applyTask i task (.wake j) = w.signal i task .resumed := by
        simp [applyTask, hd]
      rw [told]
      exact hears (by simp [Task.hears?, hd]) (.inl (by simp))
    | connection | answer | turn | rest =>
      have same : w.applyTask i task (.wake j) = w := by simp [applyTask, hd]
      rw [same]
      exact .refl ht
  | crash j text =>
    simp only [applyTask]
    split
    · exact .crashed text
    · exact .refl ht
  | cancel j => exact .still { task with cancelled := true } rfl rfl
  | _ => cases he

theorem deals_of_absent (ht : w.tasks[i]? = none) (he : eventTask? event = some i) :
    w.opensSession event = 0 ∧ w.closes event = 0 ∧ w.loses event = 0 ∧ w.apply event = w := by
  refine ⟨?_, ?_, ?_, by simp [World.apply, he, ht]⟩ <;> cases event <;>
    first | rfl | (obtain rfl := Option.some.inj he; simp [opensSession, opens, closes, loses, ht])

theorem opensSession_cases (regular : w.Regular) (event : Event) :
    (w.opensSession event = 0 ∧
      w.cluster.sessions.length ≤ (w.apply event).cluster.sessions.length) ∨
    (w.opensSession event = {w.cluster.sessions.length} ∧
      (w.apply event).cluster.sessions.length = w.cluster.sessions.length + 1) := by
  have grown : w.cluster.sessions.length ≤ (w.apply event).cluster.sessions.length := by
    rcases w.apply_acts event with same | ⟨a, acted⟩
    · rw [same]
    · rw [acted]
      exact Cluster.length_le_act _ a
  cases he : eventTask? event with
  | none =>
    refine .inl ⟨?_, grown⟩
    cases event <;> first | rfl | cases he
  | some i =>
    cases ht : w.tasks[i]? with
    | none => exact .inl ⟨(deals_of_absent ht he).1, grown⟩
    | some task =>
      have deal := deals regular ht he
      generalize w.apply event = next, w.opensSession event = opens, w.closes event = closes,
        w.loses event = loses at deal grown
      cases deal with
      | opened => exact .inr ⟨rfl, by simp [putCluster, Cluster.join]⟩
      | _ => exact .inl ⟨rfl, grown⟩

variable {s : SessionId} {flag : Bool}

theorem share?_of_connection {id : String} {limit : Span}
    (hd : w.demand task = .connection id limit) (answer : Option Signal) :
    task.activity.share? answer = some (Attempt.inUse answer .connecting) := by
  rcases connecting_of_demand hd with ⟨purpose, failures, activity⟩ | ⟨slot, activity⟩ <;>
    rw [activity] <;> rfl

theorem Asks.share? {activity : Activity} {id : String} {request : Request}
    (h : Asks activity s id request) (reply : Reply)
    (hm : activity.share? (some (.answered reply)) = some m) :
    activity.share? none = some (m + if request = .close then {s} else 0) := by
  cases h with
  | register | registerLent | dismiss | dismissLent =>
    obtain rfl := Option.some.inj hm
    rfl
  | operate slot permitted =>
    simp only [Activity.share?] at hm ⊢
    split at hm
    · cases hm
    · obtain rfl := Option.some.inj hm
      simp [*]
  | transact | retire | drain => cases hm

namespace Deals

variable {opens closes loses : Multiset SessionId}

theorem share? (regular : w.Regular) (served : task.activity.Served) (ht : w.tasks[i]? = some task)
    (deal : w.Deals i task opens closes loses next) :
    ∃ new, next.tasks[i]? = some new ∧
      ∀ later, new.activity.share? new.answer = some later →
        ∃ m, task.activity.share? task.answer = some m ∧ m + opens = later + closes + loses := by
  have own (new : Task) : (w.tasks.set i new)[i]? = some new :=
    List.getElem?_set_self (List.getElem?_eq_some_iff.mp ht).1
  cases deal with
  | @told signal ends news =>
    obtain ⟨service, hs⟩ := regular.service ht
    rw [demand_of_service hs] at ends
    refine ⟨_, by rw [signal_tasks hs]; exact own _, fun later hl => ?_⟩
    exact ⟨_, Activity.share?_resume served ends news hl, by simp⟩
  | still new activity answer =>
    refine ⟨new, own new, fun later hl => ⟨later, ?_, by simp⟩⟩
    rwa [activity, answer] at hl
  | opened hd ha =>
    refine ⟨_, own _, fun later hl => ⟨0, ?_, ?_⟩⟩
    · rw [share?_of_connection hd, ha]
      rfl
    · obtain rfl := Option.some.inj ((share?_of_connection hd _).symm.trans hl)
      simp [Attempt.inUse]
  | refused hd ha refusals error =>
    refine ⟨_, own _, fun later hl => ⟨0, ?_, ?_⟩⟩
    · rw [share?_of_connection hd, ha]
      rfl
    · obtain rfl := Option.some.inj ((share?_of_connection hd _).symm.trans hl)
      rfl
  | asked hd ha =>
    refine ⟨_, own _, fun later hl => ⟨_, ?_, rfl⟩⟩
    rw [ha]
    exact (asks_of_demand hd).share? _ hl
  | crashed text => exact ⟨_, own _, fun later hl => by cases hl⟩

theorem flag? (regular : w.Regular) (ht : w.tasks[i]? = some task)
    (deal : w.Deals i task opens closes loses next) (known : w.cluster.flag? s = some flag) :
    next.cluster.flag? s = some (flag || decide (s ∈ closes)) := by
  cases deal with
  | told ends news =>
    obtain ⟨service, hs⟩ := regular.service ht
    rw [signal_cluster hs, known]
    simp
  | still | crashed | refused =>
    rw [Multiset.notMem_zero s |> decide_eq_false, Bool.or_false]
    exact known
  | opened hd ha =>
    rw [Multiset.notMem_zero s |> decide_eq_false, Bool.or_false]
    exact Cluster.flag?_join known _
  | @asked session id request limit hd ha =>
    refine (Cluster.flag?_perform known session request).trans ?_
    by_cases closing : request = .close <;> simp [closing]

end Deals

end World

end OutcomeRelay
