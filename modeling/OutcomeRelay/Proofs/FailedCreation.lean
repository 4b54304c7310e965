import Mathlib.Algebra.BigOperators.Group.Finset.Piecewise
import OutcomeRelay.Proofs.SessionShares

set_option autoImplicit false

namespace OutcomeRelay

namespace World

variable {w next : World} {i : Nat} {task : Task} {event : Event} {m : Multiset SessionId}
  {s : SessionId} {flag : Bool}

/-- Accounts of the sessions that a task has opened, closed and given up: what it has of those that
it opened, as long as it may be refused a producer, and what has become of the others. -/
structure Accounts (w : World) (i : Nat) (opened closed lost : Multiset SessionId) : Prop where
  unborn : w.tasks[i]? = none → opened = 0 ∧ closed = 0 ∧ lost = 0
  balance : ∀ task m, w.tasks[i]? = some task → task.activity.share? task.answer = some m →
    opened = m + closed + lost
  unclosed : ∀ task m, w.tasks[i]? = some task → task.activity.share? task.answer = some m →
    ∀ s ∈ m, w.cluster.flag? s = some false
  closed : ∀ s ∈ closed, w.cluster.flag? s = some true
  lost : ∀ s ∈ lost, w.cluster.flag? s = some false ∧ s ∉ w.held.map Prod.fst

theorem flag?_aside (regular : w.Regular) (aside : eventTask? event ≠ some i)
    (unheld : s ∉ (w.heldBesides i).map Prod.fst) (known : w.cluster.flag? s = some flag) :
    (w.apply event).cluster.flag? s = some flag := by
  have perform (own : SessionId) (request : Request)
      (held : own ∈ (w.heldBesides i).map Prod.fst) :
      (w.cluster.perform own request).2.flag? s = some flag := by
    have other : s ≠ own := by
      rintro rfl
      exact unheld held
    rw [Cluster.flag?_perform known]
    simp [other]
  cases he : eventTask? event with
  | some j =>
    have other : j ≠ i := by
      rintro rfl
      exact aside he
    cases hj : w.tasks[j]? with
    | none => simpa only [World.apply, he, hj] using known
    | some own =>
      have deal := deals regular hj he
      generalize w.apply event = next, w.opensSession event = opens, w.closes event = closes,
        w.loses event = loses at deal
      cases deal with
      | told ends news =>
        obtain ⟨service, hs⟩ := regular.service hj
        rw [signal_cluster hs]
        exact known
      | still | crashed | refused => exact known
      | opened => exact Cluster.flag?_join known _
      | @asked session id request limit hd ha =>
        have held : (session, some id) ∈ w.heldBesides i := by
          have others := mem_heldOthers i hj other ((asks_of_demand hd).mem_held own.answer)
          simp [heldBesides, others]
        exact perform session request (Multiset.mem_map_of_mem Prod.fst held)
  | none =>
    simp only [World.apply, he]
    cases event with
    | start k job cancelled =>
      change (w.start k job cancelled).cluster.flag? s = some flag
      rcases w.start_cases k job cancelled with same | ⟨base, task, note, started, hb, -⟩
      · rw [same]
        exact known
      · rw [started, addTask_cluster, hb.cluster]
        exact known
    | openSession slot settings =>
      simp only [openSession]
      rcases connect_cases w.cluster settings with ⟨error, refusals, hc⟩ | hc
      · rw [hc]
        exact known
      · rw [hc]
        exact Cluster.flag?_join known _
    | request slot request =>
      simp only [World.request]
      cases hl : w.sessions.lookup slot with
      | none => exact known
      | some own =>
        have held : (own, none) ∈ w.heldBesides i := by
          have bare := mem_heldBare (mem_of_lookup hl)
          simp [heldBesides, bare]
        exact perform own request (Multiset.mem_map_of_mem Prod.fst held)
    | markFatal slot =>
      simp only [markFatal]
      split <;> exact known
    | _ => exact known

theorem flag?_apply (h : w.cluster.flag? s = some true) (event : Event) :
    (w.apply event).cluster.flag? s = some true := by
  rcases w.apply_acts event with same | ⟨a, acted⟩
  · rw [same, h]
  · rw [acted, Cluster.flag?_act h]

theorem Step.unheld {note : Option Note} (hstep : w.Step note next)
    (known : w.cluster.flag? s = some flag) (unheld : s ∉ w.held.map Prod.fst) :
    s ∉ next.held.map Prod.fst := by
  rcases hstep.held_cases with ⟨hle, -⟩ | ⟨hold, id, new, -, -, hle⟩
  · exact fun held => unheld (Multiset.mem_of_le (Multiset.map_le_map hle) held)
  · intro held
    have before := Multiset.mem_of_le (Multiset.map_le_map hle) held
    rw [Multiset.map_add, Multiset.map_singleton, Multiset.mem_add,
      Multiset.mem_singleton] at before
    rcases before with old | same
    · exact unheld old
    · have inside := Cluster.lt_of_flag? known
      rw [same, new] at inside
      exact Nat.lt_irrefl _ inside

theorem heldBesides_le (w : World) (i : Nat) : w.heldBesides i ≤ w.held := by
  cases ht : w.tasks[i]? with
  | some task =>
    rw [← held_add_heldBesides ht]
    exact Multiset.le_add_left _ _
  | none =>
    rw [heldBesides, held, List.eraseIdx_of_length_le (List.getElem?_eq_none_iff.mp ht)]

theorem unheld_besides (owned : w.Owned) (ht : w.tasks[i]? = some task)
    (hm : task.activity.share? task.answer = some m) (hs : s ∈ m) :
    s ∉ (w.heldBesides i).map Prod.fst := by
  intro besides
  obtain ⟨mine, hh, rfl⟩ :=
    Multiset.mem_map.mp (Multiset.mem_of_le (Activity.share?_le_held hm) hs)
  obtain ⟨other, ho, same⟩ := Multiset.mem_map.mp besides
  exact owned.apart (held_add_heldBesides ht).le hh ho same.symm

namespace Deals

variable {opens closes loses : Multiset SessionId}

theorem unclosed (owned : w.Owned) (regular : w.Regular) (ht : w.tasks[i]? = some task)
    (deal : w.Deals i task opens closes loses next) {later : Multiset SessionId}
    (hm : task.activity.share? task.answer = some m)
    (even : m + opens = later + closes + loses)
    (before : ∀ s ∈ m, w.cluster.flag? s = some false) :
    ∀ s ∈ later, next.cluster.flag? s = some false := by
  intro s hs
  have kept (nothing : opens = 0) : next.cluster.flag? s = some false := by
    rw [nothing, add_zero, add_assoc] at even
    have once : m.Nodup := by
      refine Multiset.nodup_of_le (Activity.share?_le_held hm) (Multiset.nodup_of_le ?_ owned.nodup)
      rw [← held_add_heldBesides ht]
      exact Multiset.map_le_map (Multiset.le_add_right _ _)
    rw [even, Multiset.nodup_add] at once
    have apart : s ∉ closes := fun closed =>
      Multiset.disjoint_left.mp once.2.2 hs (Multiset.mem_add.mpr (.inl closed))
    rw [deal.flag? regular ht (before s (even ▸ Multiset.mem_add.mpr (.inl hs)))]
    simp [apart]
  cases deal with
  | @opened id limit hd ha =>
    obtain rfl : m = 0 := by
      rw [share?_of_connection hd, ha] at hm
      exact (Option.some.inj hm).symm
    obtain rfl : s = w.cluster.sessions.length := by
      simp only [zero_add, add_zero] at even
      exact Multiset.mem_singleton.mp (even ▸ hs)
    exact Cluster.flag?_join_length _ id
  | _ => exact kept rfl

theorem mem_held_of_closes (ht : w.tasks[i]? = some task)
    (deal : w.Deals i task opens closes loses next) (hs : s ∈ closes) :
    ∃ id, (s, some id) ∈ w.held := by
  cases deal with
  | @asked session id request limit hd ha =>
    obtain rfl : s = session := by
      split at hs
      · exact Multiset.mem_singleton.mp hs
      · cases hs
    exact ⟨id, mem_held_of_task ht ((asks_of_demand hd).mem_held task.answer)⟩
  | _ => cases hs

theorem closed (owned : w.Owned) (regular : w.Regular) (ht : w.tasks[i]? = some task)
    (deal : w.Deals i task opens closes loses next) (hs : s ∈ closes) :
    next.cluster.flag? s = some true := by
  obtain ⟨id, held⟩ := deal.mem_held_of_closes ht hs
  obtain ⟨name, known, -⟩ := owned.known _ held
  have inside := w.cluster.lt_of_producer? s known
  rw [deal.flag? regular ht (congrArg _ (List.getElem?_eq_getElem inside))]
  simp [hs]

theorem lost (owned : w.Owned) (regular : w.Regular) (ht : w.tasks[i]? = some task)
    (deal : w.Deals i task opens closes loses next)
    (before : ∀ m, task.activity.share? task.answer = some m →
      ∀ s ∈ m, w.cluster.flag? s = some false) (hs : s ∈ loses) :
    next.cluster.flag? s = some false ∧ s ∉ next.held.map Prod.fst := by
  cases deal with
  | @told signal ends news =>
    obtain ⟨service, hservice⟩ := regular.service ht
    obtain ⟨m, hm, mine⟩ := Activity.share?_of_gives hs
    rw [signal_cluster hservice]
    refine ⟨before m hm s mine, fun held => unheld_besides owned ht hm mine ?_⟩
    have unheard : task.activity.gives signal task.answer ≠ 0 := fun nothing => by
      rw [nothing] at hs
      cases hs
    have rest : (w.signal i task signal).held ≤ 0 + w.heldBesides i :=
      signal_held_le ht hservice
        ((Activity.resume_held_of_gives unheard).trans (zero_add _).symm).le
    rw [zero_add] at rest
    exact Multiset.mem_of_le (Multiset.map_le_map rest) held
  | _ => cases hs

end Deals

namespace Accounts

variable {opened closed lost : Multiset SessionId}

theorem aside (h : w.Accounts i opened closed lost) (regular : w.Regular) (owned : w.Owned)
    (elsewhere : eventTask? event ≠ some i) : (w.apply event).Accounts i opened closed lost := by
  have closed (s : SessionId) (hs : s ∈ closed) : (w.apply event).cluster.flag? s = some true :=
    flag?_apply (h.closed s hs) event
  have lost (s : SessionId) (hs : s ∈ lost) : (w.apply event).cluster.flag? s = some false ∧
      s ∉ (w.apply event).held.map Prod.fst := by
    obtain ⟨known, unheld⟩ := h.lost s hs
    have besides : s ∉ (w.heldBesides i).map Prod.fst := fun held =>
      unheld (Multiset.mem_of_le (Multiset.map_le_map (w.heldBesides_le i)) held)
    exact ⟨flag?_aside regular elsewhere besides known,
      (w.step_apply event).unheld known unheld⟩
  cases ht : w.tasks[i]? with
  | some task =>
    have same := apply_aside regular ht elsewhere
    refine ⟨fun absent => absurd (same.symm.trans absent) (by simp), ?_, ?_, closed, lost⟩
    · rintro new m hn hm
      obtain rfl := Option.some.inj (same.symm.trans hn)
      exact h.balance task m ht hm
    · rintro new m hn hm s hs
      obtain rfl := Option.some.inj (same.symm.trans hn)
      exact flag?_aside regular elsewhere (unheld_besides owned ht hm hs)
        (h.unclosed task m ht hm s hs)
  | none =>
    obtain ⟨rfl, rfl, rfl⟩ := h.unborn ht
    have nothing {new : Task} {m : Multiset SessionId} (hn : (w.apply event).tasks[i]? = some new)
        (hm : new.activity.share? new.answer = some m) : m = 0 := by
      obtain ⟨-, silent, -, base, note, hb⟩ := undergo_new regular (.event event)
        (List.getElem?_eq_none_iff.mp ht) hn
      rw [silent] at hm
      exact hb.share? hm
    refine ⟨fun _ => ⟨rfl, rfl, rfl⟩, ?_, ?_, closed, lost⟩
    · intro new m hn hm
      rw [nothing hn hm]
      rfl
    · intro new m hn hm s hs
      rw [nothing hn hm] at hs
      cases hs

/-- An event about the task changes them by what it opens, closes and gives up. -/
theorem deal (h : w.Accounts i opened closed lost) (owned : w.Owned) (regular : w.Regular)
    (served : task.activity.Served) (ht : w.tasks[i]? = some task)
    {opens closes loses : Multiset SessionId} (deal : w.Deals i task opens closes loses next)
    {note : Option Note} (hstep : w.Step note next) :
    next.Accounts i (opened + opens) (closed + closes) (lost + loses) := by
  obtain ⟨new, hn, shares⟩ := deal.share? regular served ht
  constructor
  · intro absent
    rw [hn] at absent
    cases absent
  · rintro other later ho hl
    obtain rfl := Option.some.inj (hn.symm.trans ho)
    obtain ⟨m, hm, even⟩ := shares later hl
    rw [h.balance task m ht hm]
    calc m + closed + lost + opens = m + opens + closed + lost := by abel
      _ = later + closes + loses + closed + lost := by rw [even]
      _ = later + (closed + closes) + (lost + loses) := by abel
  · rintro other later ho hl
    obtain rfl := Option.some.inj (hn.symm.trans ho)
    obtain ⟨m, hm, even⟩ := shares later hl
    exact deal.unclosed owned regular ht hm even (h.unclosed task m ht hm)
  · intro s hs
    rcases Multiset.mem_add.mp hs with old | new
    · exact deal.flag? regular ht (h.closed s old)
    · exact deal.closed owned regular ht new
  · intro s hs
    rcases Multiset.mem_add.mp hs with old | new
    · obtain ⟨known, unheld⟩ := h.lost s old
      have apart : s ∉ closes := fun closed => by
        obtain ⟨id, held⟩ := deal.mem_held_of_closes ht closed
        exact unheld (Multiset.mem_map_of_mem Prod.fst held)
      refine ⟨?_, hstep.unheld known unheld⟩
      rw [deal.flag? regular ht known]
      simp [apart]
    · exact deal.lost owned regular ht (fun m hm => h.unclosed task m ht hm) new

end Accounts

end World

theorem PublishResult.Tells.isRefusal {result : PublishResult} {retries : UInt32} {past : Replies}
    {status : Status} (h : result.Tells retries past status) :
    (Outcome.published result).isRefusal = false := by
  cases result with
  | ok _ => rfl
  | error error =>
    cases error with
    | pool reason => exact absurd h.1 (by simp [PublishError.isAbort])
    | _ => rfl

namespace Activity

theorem begin_served (millis : Nat) (purpose : Purpose) : (begin millis purpose).Served := by
  unfold begin
  split <;> trivial

theorem serve_served (pool : Pool) (handle : Handle) (purpose : Purpose) :
    (serve pool handle purpose).activity.Served := by
  cases purpose <;> trivial

theorem refuse_served (pool : Pool) (error : PoolError) (purpose : Purpose) :
    (refuse pool error purpose).activity.Served := by
  cases purpose <;> trivial

theorem afterCreation_served (service : Service) (pool : Pool) (purpose : Purpose) (id : String)
    (next : Creation.Next) : (afterCreation service pool purpose id next).activity.Served := by
  cases next with
  | ongoing creation => trivial
  | made session => exact serve_served _ _ purpose
  | failed error => exact refuse_served _ _ purpose

theorem Served.resume {service : Service} {activity : Activity} (h : activity.Served)
    (cancelled : Bool) (signal : Signal)
    (told : ∀ handle result, (activity.resume service cancelled signal).activity =
      .returning handle (.published result) → (Outcome.published result).isRefusal = false) :
    (activity.resume service cancelled signal).activity.Served := by
  cases activity with
  | borrowing purpose =>
    simp only [Activity.resume]
    rcases borrow_cases service cancelled purpose with
      hb | ⟨handle, idle, taken, hb⟩ | ⟨id, ids, hb⟩
    · exact hb ▸ refuse_served _ _ purpose
    · exact hb ▸ serve_served _ _ purpose
    · exact hb ▸ afterCreation_served _ _ purpose id _
  | creating purpose id creation => exact afterCreation_served _ _ purpose id _
  | making slot id attempt =>
    simp only [Activity.resume]
    cases attempt.resume service.options.operationLimit signal <;> trivial
  | transacting t =>
    simp only [Activity.resume, afterTransaction] at told ⊢
    split
    · trivial
    · rename_i result ended
      exact told _ result (by rw [ended])
  | returning handle outcome =>
    simp only [Activity.resume]
    rcases giveBack_cases service.pool handle outcome with ⟨-, hg⟩ | ⟨discarded, -, hg⟩
    · rw [hg]
      trivial
    · rw [hg]
      exact h
  | draining handles closed => cases handles <;> trivial
  | waiting | retiring | operating | ended => trivial

end Activity

theorem FreeRun.served (r : FreeRun) : ∀ task ∈ r.world.tasks, task.activity.Served := by
  induction r using by_happenings with
  | idle r nothing => simp [world_of_idle nothing, World.initial]
  | happening r o ih =>
    intro new hn
    obtain ⟨i, hn⟩ := List.mem_iff_getElem?.mp hn
    have after := hn
    rw [extend_one] at after
    rcases World.undergo_origin r.regular o after with
      ⟨old, ho, becomes⟩ | ⟨-, -, -, base, note, hb⟩
    · have before := ih _ (List.mem_of_getElem? ho)
      generalize r.world.hears? o i = signal at becomes
      cases becomes with
      | waits activity => exact activity ▸ before
      | told hs ends =>
        refine before.resume _ _ fun handle result returns => ?_
        obtain ⟨service, hservice⟩ := (r.extend [o]).regular.service hn
        exact ((r.extend [o]).tells hn hservice returns).isRefusal
      | crashed => trivial
    · generalize new.activity = activity at hb
      cases hb with
      | publish millis topic payload => exact Activity.begin_served millis _
      | release => rfl
      | reject | borrow | operate | create | createNext | shutdown => trivial

namespace World

theorem sum_gather_ofTask_le {α : Type} (f : World → Event → Multiset α) (tasks : Finset Nat)
    (w : World) (events : List Event) :
    ∑ i ∈ tasks, w.gather (ofTask i f) events ≤ w.gather f events := by
  induction events generalizing w with
  | nil => simp [gather]
  | cons event events ih =>
    simp only [gather, Finset.sum_add_distrib]
    refine add_le_add ?_ (ih _)
    -- An event is about one task at the most.
    cases he : eventTask? event with
    | none => simp [ofTask, he]
    | some j =>
      simp only [ofTask, he, Option.some.injEq, Finset.sum_ite_eq]
      split
      · exact le_rfl
      · exact Multiset.zero_le _

end World

namespace Run

variable (r : Run) (i : Nat)

/-- The sessions that a task has opened, asked to be closed, and given up while the news of them was
on its way. -/
def openedBy : Multiset SessionId := r.start.gather (World.ofTask i World.opensSession) r.events

def closedBy : Multiset SessionId := r.start.gather (World.ofTask i World.closes) r.events

def lostBy : Multiset SessionId := r.start.gather (World.ofTask i World.loses) r.events

def leftOpenBy : Multiset SessionId :=
  r.openedBy i |>.filter fun s => r.world.cluster.flag? s = some false

theorem accounts : r.world.Accounts i (r.openedBy i) (r.closedBy i) (r.lostBy i) := by
  induction r using by_events with
  | idle r nothing =>
    rw [openedBy, closedBy, lostBy, nothing, world_of_idle nothing]
    constructor <;> simp [World.gather, World.initial]
  | event r e ih =>
    have regular : r.world.Regular := r.free_world ▸ r.free.regular
    rw [openedBy, closedBy, lostBy, gather_extend_one, gather_extend_one, gather_extend_one,
      extend_world]
    by_cases own : World.eventTask? e = some i
    · simp only [World.ofTask, if_pos own]
      cases ht : r.world.tasks[i]? with
      | none =>
        obtain ⟨opens, closes, loses, same⟩ := World.deals_of_absent ht own
        rw [opens, closes, loses, add_zero, add_zero, add_zero]
        change (r.world.apply e).Accounts i _ _ _
        rw [same]
        exact ih
      | some task =>
        exact ih.deal r.owned regular
          (r.free.served task (r.free_world ▸ List.mem_of_getElem? ht)) ht
          (World.deals regular ht own) (r.world.step_apply e)
    · simp only [World.ofTask, if_neg own, add_zero]
      exact ih.aside regular r.owned own

theorem leftOpenBy_eq (refused : (r.world.outcome? i).any Outcome.isRefusal = true) :
    r.leftOpenBy i = r.lostBy i := by
  obtain ⟨outcome, ended, refusal⟩ : ∃ outcome, r.world.outcome? i = some outcome ∧
      outcome.isRefusal = true := (Option.any_eq_true _ _).mp refused
  obtain ⟨task, ht, activity⟩ := World.outcome?_eq_some.mp ended
  have accounts := r.accounts i
  have balance := accounts.balance task 0 ht (by rw [activity]; exact if_pos refusal)
  rw [leftOpenBy, balance, zero_add, Multiset.filter_add]
  have closed : (r.closedBy i).filter (fun s => r.world.cluster.flag? s = some false) = 0 :=
    Multiset.filter_eq_nil.mpr fun s hs => by simp [accounts.closed s hs]
  have lost : (r.lostBy i).filter (fun s => r.world.cluster.flag? s = some false) = r.lostBy i :=
    Multiset.filter_eq_self.mpr fun s hs => (accounts.lost s hs).1
  rw [closed, lost, zero_add]

theorem sum_openedBy_le (tasks : Finset Nat) :
    ∑ i ∈ tasks, r.openedBy i ≤ Multiset.range r.world.cluster.sessions.length := by
  refine (World.sum_gather_ofTask_le World.opensSession tasks r.start r.events).trans ?_
  induction r using by_events with
  | idle r nothing => simp [nothing, World.gather]
  | event r e ih =>
    rw [gather_extend_one, extend_world]
    rcases World.opensSession_cases (r.free_world ▸ r.free.regular) e with
      ⟨nothing, grown⟩ | ⟨new, more⟩
    · rw [nothing, add_zero]
      exact ih.trans (Multiset.range_le.mpr grown)
    · rw [new]
      change _ ≤ Multiset.range (r.world.apply e).cluster.sessions.length
      rw [more, Multiset.range_succ, ← Multiset.singleton_add, add_comm]
      exact add_le_add le_rfl ih

theorem sum_leftOpenBy_le (tasks : Finset Nat) :
    ∑ i ∈ tasks, (r.leftOpenBy i).card ≤ r.world.cluster.openSessions := by
  have among (s : SessionId) : r.world.cluster.flag? s = some false ↔
      r.world.cluster.sessions[s]?.any (fun session => !session.closed) = true := by
    simp [Cluster.flag?, Option.any_eq_true]
  calc ∑ i ∈ tasks, (r.leftOpenBy i).card
      = ∑ i ∈ tasks, (r.openedBy i).countP fun s => r.world.cluster.flag? s = some false :=
        Finset.sum_congr rfl fun i _ => (Multiset.countP_eq_card_filter _ _).symm
    _ = (∑ i ∈ tasks, r.openedBy i).countP fun s => r.world.cluster.flag? s = some false :=
        (map_sum (Multiset.countPAddMonoidHom _) _ _).symm
    _ ≤ (Multiset.range r.world.cluster.sessions.length).countP
          fun s => r.world.cluster.flag? s = some false :=
        Multiset.countP_le_of_le _ (r.sum_openedBy_le tasks)
    _ = r.world.cluster.openSessions := by
        simp only [among]
        rw [Cluster.openSessions, ← countP_range, Multiset.range, Multiset.coe_countP]
        simp

/-- Tasks that asked for a producer and got none, whatever became of their calls in the meantime. Of
the sessions that they have opened those are open that they gave up while the news was on its
way, and no others; nobody has them and so nobody closes them. So such tasks leave nothing behind
if and only if none of them has given up a connection that was granted, and as often as this
happens the number of open sessions grows. -/
theorem left_open_iff (tasks : Finset Nat)
    (refused : ∀ i ∈ tasks, (r.world.outcome? i).any Outcome.isRefusal = true) :
    (∀ i ∈ tasks, r.leftOpenBy i = r.lostBy i ∧
      ∀ s ∈ r.lostBy i, s ∉ r.world.held.map Prod.fst) ∧
    ∑ i ∈ tasks, (r.lostBy i).card ≤ r.world.cluster.openSessions ∧
    (∑ i ∈ tasks, (r.leftOpenBy i).card = 0 ↔ ∀ i ∈ tasks, r.lostBy i = 0) := by
  have same : ∀ i ∈ tasks, r.leftOpenBy i = r.lostBy i :=
    fun i hi => r.leftOpenBy_eq i (refused i hi)
  refine ⟨fun i hi => ⟨same i hi, fun s hs => ((r.accounts i).lost s hs).2⟩, ?_, ?_⟩
  · calc ∑ i ∈ tasks, (r.lostBy i).card = ∑ i ∈ tasks, (r.leftOpenBy i).card :=
        Finset.sum_congr rfl fun i hi => by rw [same i hi]
      _ ≤ r.world.cluster.openSessions := r.sum_leftOpenBy_le tasks
  · rw [Finset.sum_eq_zero_iff]
    exact forall₂_congr fun i hi => by rw [same i hi, Multiset.card_eq_zero]

/-- One producer is not created because its connection comes late, twice, and a third one because it
cannot be registered. -/
def failedCreations : Run :=
  hasty 0 [.start 0 (.create "a" none) false, .effect 0, .expire 0,
    .start 0 (.create "a" none) false, .effect 1, .expire 1,
    .inject .init (.retriable "busy"), .start 0 (.create "b" none) false, .effect 2, .deliver 2,
    .effect 2, .deliver 2, .effect 2, .deliver 2]

theorem failedCreations_left_open :
    failedCreations.leftOpenBy 0 = {0} ∧ failedCreations.leftOpenBy 1 = {1} ∧
    failedCreations.openedBy 2 = {2} ∧ failedCreations.leftOpenBy 2 = 0 ∧
    2 ≤ failedCreations.world.cluster.openSessions := by
  have refused : ∀ i ∈ ({0, 1, 2} : Finset Nat),
      (failedCreations.world.outcome? i).any Outcome.isRefusal = true := by decide +kernel
  obtain ⟨same, least, -⟩ := failedCreations.left_open_iff {0, 1, 2} refused
  have first : failedCreations.lostBy 0 = {0} := by decide +kernel
  have second : failedCreations.lostBy 1 = {1} := by decide +kernel
  have third : failedCreations.lostBy 2 = 0 := by decide +kernel
  refine ⟨first ▸ (same 0 (by simp)).1, second ▸ (same 1 (by simp)).1, by decide +kernel,
    third ▸ (same 2 (by simp)).1, ?_⟩
  simpa [first, second, third] using least

/-- The connection of a producer takes effect and is answered after its limit. -/
def lateConnect : Run := hasty 0 [.start 0 (.create "a" none) false, .effect 0, .expire 0]

theorem lateConnect_leaves_session :
    (lateConnect.world.outcome? 0).any Outcome.isRefusal = true ∧
    lateConnect.leftOpenBy 0 ≠ 0 ∧ lateConnect.world.cluster.openSessions = 1 := by
  decide +kernel

end Run

end OutcomeRelay
