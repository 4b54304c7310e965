import OutcomeRelay.Proofs.Publishing

set_option autoImplicit false

namespace OutcomeRelay

namespace World

def Transacts (w : World) (i : Nat) (t : Transaction) : Prop :=
  ∃ task, w.tasks[i]? = some task ∧ task.activity = .transacting t

variable {w next : World} {past : Chronicle} {note : Option Note} {i : Nat}

theorem Sound.posting_of_asks (h : w.Sound none past) {index : Nat} {task : Task}
    (ht : w.tasks[index]? = some task) {session : SessionId} {id : String}
    (asks : Asks task.activity session id .commit) (own : caller index task = some i) {e : Entry}
    (he : e ∈ past.buffer session) : ∃ t, w.Transacts i t ∧ e.post (some i) id = t.posting i := by
  have sound := h.tasks index task (by simp) ht
  unfold caller at own
  cases ha : task.activity with
  | transacting t =>
    rw [ha] at asks sound own
    obtain rfl : index = i := by simpa [Activity.isPublish] using own
    obtain ⟨_, reply, _, tallied⟩ := sound
    cases asks with
    | transact hr =>
      refine ⟨t, ⟨task, ht, ha⟩, ?_⟩
      rcases tallied.request_cases hr with ⟨_, he', _⟩ | ⟨_, _, he', _⟩ | ⟨_, _, _, committing⟩ |
        ⟨_, _, _, he', _⟩
      · simp at he'
      · simp at he'
      · rw [committing.held] at he
        split at he
        · rw [List.eq_of_mem_replicate he]
          rfl
        · simp at he
      · simp at he'
  | operating slot handle request => simp [ha, Activity.isPublish] at own
  | creating | retiring | draining | making =>
    rw [ha] at asks
    cases asks
  | waiting | borrowing | returning | ended =>
    rw [ha] at asks
    cases asks

/-- What becomes visible in a step on behalf of a publish is the record of its transaction. -/
theorem Sound.posting_of_step (h : w.Sound none past) (owned : w.Owned) (hstep : w.Step note next)
    {p : Posting} (hp : p ∈ Chronicle.postings (note.toList ++ past)) (hc : p.committer = some i) :
    p ∈ past.postings ∨ ∃ t, w.Transacts i t ∧ p = t.posting i := by
  rcases hstep.posting_cases hp with old |
    ⟨index, task, session, id, ht, asks, e, he, rfl⟩ | ⟨slot, session, hl, e, he, rfl⟩
  · exact .inl old
  · obtain ⟨name, hn, same⟩ := owned.known _ (mem_held_of_task ht (asks.mem_held task.answer))
    have own : caller index task = some i := hc
    rw [hn, Option.getD_some, ← same id rfl, own]
    exact .inr (h.posting_of_asks ht asks own he)
  · simp [Entry.post] at hc

theorem kept_of_set {P : Task → Prop} {task old new : Task} {index : Nat}
    (ht : w.tasks[i]? = some task) (h : P task) (ho : w.tasks[index]? = some old)
    (same : P old → P new) : ∃ task, (w.tasks.set index new)[i]? = some task ∧ P task := by
  rcases eq_or_ne index i with rfl | different
  · obtain rfl : task = old := Option.some.inj (ht.symm.trans ho)
    exact ⟨new, List.getElem?_set_self (List.getElem?_eq_some_iff.mp ho).1, same h⟩
  · exact ⟨task, by rw [List.getElem?_set_ne different, ht], h⟩

theorem demand_of_ended {task : Task} {outcome : Outcome} (he : task.activity = .ended outcome) :
    w.demand task = .rest := by
  unfold demand
  split
  · rfl
  · rw [he]
    rfl

theorem ended_of_step {task : Task} {outcome : Outcome} (ht : w.tasks[i]? = some task)
    (he : task.activity = .ended outcome) (hstep : w.Step note next) :
    (∃ task, next.tasks[i]? = some task ∧ task.activity = .ended outcome) ∧
      ∀ past : Chronicle, Chronicle.account i (note.toList ++ past) = past.account i := by
  have other_caller {index : Nat} {old : Task} (ho : w.tasks[index]? = some old)
      (busy : w.demand old ≠ .rest) : caller index old ≠ some i := by
    unfold caller
    intro own
    obtain ⟨_, rfl⟩ : old.activity.isPublish = true ∧ index = i := by simpa using own
    obtain rfl : task = old := Option.some.inj (ht.symm.trans ho)
    exact busy (demand_of_ended he)
  cases hstep with
  | same | tick | adjusted | forgot | spoiled | joined => exact ⟨⟨task, ht, he⟩, fun _ => rfl⟩
  | @begun base new note hb =>
    have here := (List.getElem?_eq_some_iff.mp ht).1
    constructor
    · refine ⟨task, ?_, he⟩
      rw [addTask_tasks, hb.tasks, List.getElem?_append_left here, ht]
    · intro past
      rcases hb.note_cases with rfl | ⟨topic, payload, rfl⟩
      · rfl
      · exact Chronicle.account_ordered_ne i past (by omega) topic payload
  | @told index old service signal note ho hs told =>
    constructor
    · rw [signal_tasks hs]
      refine kept_of_set ht he ho ?_
      intro ended
      simp [move, ended, Activity.resume]
    · intro past
      cases told with
      | turn | answer | awake => rfl
      | silence hd =>
        unfold miss?
        split
        · exact Chronicle.account_missed_ne i past (other_caller ho (by simp_all)) _ _
        · rfl
  | opened ho hd ha => exact ⟨kept_of_set ht he ho id, fun _ => rfl⟩
  | refused ho hd ha => exact ⟨kept_of_set ht he ho id, fun _ => rfl⟩
  | answered ho hd ha =>
    refine ⟨kept_of_set ht he ho id, fun past => ?_⟩
    exact Chronicle.account_called_ne i past (other_caller ho (by simp [hd])) _ _ _ _
  | crashed ho hd text =>
    refine ⟨kept_of_set ht he ho ?_, fun _ => rfl⟩
    intro ended
    simp [demand_of_ended ended, Demand.isCall] at hd
  | flagged ho => exact ⟨kept_of_set ht he ho id, fun _ => rfl⟩
  | requested hl request =>
    refine ⟨⟨task, ht, he⟩, fun past => ?_⟩
    exact Chronicle.account_called_ne i past (by simp) _ _ _ _

end World

namespace Run

variable (r : Run) {i : Nat}

/-- Every record that a publish committed is that of a transaction which it was in the middle of. -/
theorem committed_in_transaction {p : Posting} (hp : p ∈ r.chronicle.postings)
    (hc : p.committer = some i) :
    ∃ before after t, r.events = before ++ after ∧ (r.start.run before).Transacts i t ∧
      p = t.posting i := by
  induction r using by_events with
  | idle r nothing =>
    simp [chronicle, nothing, World.chronicle, Chronicle.postings] at hp
  | event r e ih =>
    rw [extend_chronicle] at hp
    rcases r.sound.posting_of_step r.owned (World.step_apply _ e) hp hc with
      old | ⟨t, transacts, rfl⟩
    · obtain ⟨before, after, t, parts, transacts, rfl⟩ := ih old
      refine ⟨before, after ++ [e], t, ?_, transacts, rfl⟩
      rw [extend, parts, List.append_assoc]
    · exact ⟨r.events, [e], t, rfl, transacts, rfl⟩

theorem own_posting {p : Posting} (hp : p ∈ r.chronicle.postings)
    (own : p.committer = some i ∨ p.sender = some i) :
    p.sender = some i ∧ p.committer = some i ∧
      r.chronicle.order? i = some (p.topic, p.payload) := by
  have committed : p.committer = some i := by
    rcases own with committed | sent
    · exact committed
    · -- Whoever committed a record that was sent by `i` had sent it, and so is `i`.
      cases hc : p.committer with
      | none => simp [r.sound.foreign p hp hc] at sent
      | some other =>
        obtain ⟨_, _, t, _, _, rfl⟩ := r.committed_in_transaction hp hc
        exact sent
  obtain ⟨_, _, t, _, _, rfl⟩ := r.committed_in_transaction hp committed
  refine ⟨rfl, rfl, ?_⟩
  have posted : t.posting i ∈ (r.chronicle.account i).posted :=
    List.mem_filter.mpr ⟨hp, by simp [Transaction.posting]⟩
  rcases r.balanced i with idle | ⟨topic, payload, producer, order, shown⟩
  · simp [idle.untouched.posted] at posted
  · rw [shown] at posted
    split at posted
    · simp at posted
    · have same := List.eq_of_mem_replicate posted
      simp only [Transaction.posting, Posting.mk.injEq, true_and] at same
      obtain ⟨_, rfl, rfl⟩ := same
      exact order

theorem account_extend (h : r.world.HasEnded i) (later : List Event) :
    (r.extend later).chronicle.account i = r.chronicle.account i := by
  obtain ⟨outcome, ended⟩ := Option.isSome_iff_exists.mp h
  obtain ⟨task, ht, he⟩ := World.outcome?_eq_some.mp ended
  have kept := World.run_keeps (P := fun past w =>
      (∃ task, w.tasks[i]? = some task ∧ task.activity = .ended outcome) ∧
        past.account i = r.chronicle.account i)
    (fun h step => by
      obtain ⟨⟨task, ht, he⟩, same⟩ := h
      obtain ⟨still, unchanged⟩ := World.ended_of_step ht he step
      exact ⟨still, (unchanged _).trans same⟩)
    later ⟨⟨task, ht, he⟩, rfl⟩
  rw [extend_chronicle]
  exact kept.2

theorem filter_sender : r.chronicle.postings.filter (·.sender = some i) =
    r.chronicle.postingsOf i := by
  refine List.filter_congr fun p hp => ?_
  have own := r.own_posting (i := i) hp
  by_cases sent : p.sender = some i
  · simp [sent, (own (.inr sent)).2.1]
  · have other : p.committer ≠ some i := fun committed => sent (own (.inl committed)).1
    simp [sent, other]

/-- No loss, no foreign and no late records: a publish that succeeds has committed its record on the
producer that it borrowed, the commits of a publish and the sends of a publish have made visible
nothing but its own record, and once it has ended they make visible nothing more. -/
theorem own_records (i : Nat) :
    r.world.Shows r.chronicle.postings ∧
    (r.world.result? i = some (.ok ()) →
      ∃ topic payload before after t, r.chronicle.order? i = some (topic, payload) ∧
        r.events = before ++ after ∧ (r.start.run before).Transacts i t ∧
        ⟨some i, some i, t.handle.id, topic, payload⟩ ∈ r.chronicle.postings ∧
        (t.handle.id, payload) ∈
          (r.world.cluster.broker.topics.records topic).map StoredRecord.content) ∧
    (∀ p ∈ r.chronicle.postings, p.committer = some i ∨ p.sender = some i →
      p.sender = some i ∧ p.committer = some i ∧
        r.chronicle.order? i = some (p.topic, p.payload)) ∧
    (r.world.HasEnded i → ∀ later,
      (r.extend later).chronicle.postings.filter (·.sender = some i) =
        r.chronicle.postings.filter (·.sender = some i)) := by
  refine ⟨r.shows, ?_, fun p hp own => r.own_posting hp own, ?_⟩
  · intro succeeded
    obtain ⟨topic, payload, producer, order, shown, commits⟩ := r.returned succeeded
    have committed : (r.chronicle.account i).commits ≠ 0 := by
      simp [commits, confirmed]
    have posted : ⟨some i, some i, producer, topic, payload⟩ ∈ r.chronicle.postings := by
      have own : ⟨some i, some i, producer, topic, payload⟩ ∈ (r.chronicle.account i).posted := by
        rw [shown, if_neg committed]
        exact List.mem_replicate.mpr ⟨by simp, rfl⟩
      exact (List.mem_filter.mp own).1
    obtain ⟨before, after, t, parts, transacts, same⟩ := r.committed_in_transaction posted rfl
    obtain rfl : producer = t.handle.id := congrArg Posting.producer same
    refine ⟨topic, payload, before, after, t, order, parts, transacts, posted, ?_⟩
    have visible := (r.shows topic).symm.mem_iff (a := (t.handle.id, payload))
    exact visible.mp (List.mem_map.mpr ⟨_, List.mem_filter.mpr ⟨posted, by simp⟩, rfl⟩)
  · intro ended later
    rw [filter_sender, filter_sender]
    exact congrArg Account.posted (r.account_extend ended later)

def plain : Run :=
  hasty 0 [.start 0 (.publish 0 "results" ⟨#[1]⟩) false, .proceed 0, .effect 0, .deliver 0,
    .effect 0, .deliver 0, .effect 0, .deliver 0, .effect 0, .deliver 0, .effect 0, .deliver 0,
    .proceed 0]

theorem plain_own_records :
    plain.world.result? 0 = some (.ok ()) ∧ plain.world.HasEnded 0 ∧
    (∃ topic payload, plain.chronicle.order? 0 = some (topic, payload) ∧
      ∃ producer, (producer, payload) ∈
        (plain.world.cluster.broker.topics.records topic).map StoredRecord.content) ∧
    ∀ later, (plain.extend later).chronicle.postings.filter (·.sender = some 0) =
      plain.chronicle.postings.filter (·.sender = some 0) := by
  have succeeded : plain.world.result? 0 = some (.ok ()) := by decide +kernel
  have ended : plain.world.HasEnded 0 := by decide +kernel
  obtain ⟨_, kept, _, frozen⟩ := plain.own_records 0
  obtain ⟨topic, payload, _, _, t, order, _, _, _, visible⟩ := kept succeeded
  exact ⟨succeeded, ended, ⟨topic, payload, order, t.handle.id, visible⟩, frozen ended⟩

end Run

end OutcomeRelay
