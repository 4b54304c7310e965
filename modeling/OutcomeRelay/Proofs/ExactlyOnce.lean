import OutcomeRelay.Proofs.OwnRecords

set_option autoImplicit false

namespace OutcomeRelay

/-- Publishing on services, and everything that can go wrong with it apart from a panic. -/
def Event.isPublishing : Event → Bool
  | .start _ (.publish _ _ _) _ => true
  | .start _ (.report _ _) _ => true
  | .start _ .shutdown _ => true
  | .start _ _ _ => false
  | .crash _ _ => false
  | .forget _ => false
  | .markFatal _ => false
  | .openSession _ _ => false
  | .request _ _ => false
  | _ => true

def Activity.serves : Activity → Bool
  | .draining _ _ => true
  | .ended (.published _) => true
  | .ended (.rejected _) => true
  | .ended (.drained _) => true
  | .ended _ => false
  | activity => activity.isPublish

namespace Activity

theorem serve_serves (pool : Pool) (handle : Handle) {purpose : Purpose}
    (h : purpose.isPublish = true) :
    (serve pool handle purpose).activity.serves = true ∧
      (serve pool handle purpose).lent = none := by
  cases purpose with
  | publish topic payload => exact ⟨rfl, rfl⟩
  | lend slot => simp [Purpose.isPublish] at h

theorem refuse_serves (pool : Pool) (error : PoolError) {purpose : Purpose}
    (h : purpose.isPublish = true) :
    (refuse pool error purpose).activity.serves = true ∧
      (refuse pool error purpose).lent = none := by
  cases purpose with
  | publish topic payload => exact ⟨rfl, rfl⟩
  | lend slot => simp [Purpose.isPublish] at h

theorem afterCreation_serves (service : Service) (pool : Pool) {purpose : Purpose}
    (h : purpose.isPublish = true) (id : String) (next : Creation.Next) :
    (afterCreation service pool purpose id next).activity.serves = true ∧
      (afterCreation service pool purpose id next).lent = none := by
  cases next with
  | ongoing creation => exact ⟨h, rfl⟩
  | made session => exact serve_serves _ _ h
  | failed error => exact refuse_serves _ _ h

theorem borrow_serves (service : Service) (cancelled : Bool) {purpose : Purpose}
    (h : purpose.isPublish = true) :
    (borrow service cancelled purpose).activity.serves = true ∧
      (borrow service cancelled purpose).lent = none := by
  rcases borrow_cases service cancelled purpose with hb | ⟨handle, idle, _, hb⟩ | ⟨id, ids, hb⟩
  · rw [hb]
    exact refuse_serves _ _ h
  · rw [hb]
    exact serve_serves _ _ h
  · rw [hb]
    exact afterCreation_serves _ _ h _ _

theorem giveBack_serves (pool : Pool) (handle : Handle) {outcome : Outcome}
    (h : outcome.isPublished = true) :
    (giveBack pool handle outcome).activity.serves = true ∧
      (giveBack pool handle outcome).lent = none := by
  have ended : (ended outcome).serves = true := by
    cases outcome <;> simp_all [Outcome.isPublished, serves]
  rcases giveBack_cases pool handle outcome with ⟨_, hg⟩ | ⟨discarded, -, hg⟩
  · rw [hg]
    exact ⟨ended, rfl⟩
  · rw [hg]
    exact ⟨h, rfl⟩

theorem resume_serves (service : Service) (cancelled : Bool) {activity : Activity}
    (h : activity.serves = true) (signal : Signal) :
    (activity.resume service cancelled signal).activity.serves = true ∧
      (activity.resume service cancelled signal).lent = none := by
  cases activity with
  | waiting millis purpose => exact ⟨h, rfl⟩
  | borrowing purpose => exact borrow_serves service cancelled h
  | creating purpose id creation => exact afterCreation_serves _ _ h _ _
  | transacting t =>
    simp only [resume, afterTransaction]
    split <;> exact ⟨rfl, rfl⟩
  | returning handle outcome => exact giveBack_serves _ _ h
  | retiring handle discarded outcome =>
    cases outcome with
    | published result => exact ⟨rfl, rfl⟩
    | _ => simp [serves, isPublish, Outcome.isPublished] at h
  | draining handles closed => cases handles <;> exact ⟨rfl, rfl⟩
  | operating | making => simp [serves, isPublish] at h
  | ended outcome => exact ⟨h, rfl⟩

end Activity

namespace World

def Quiet (w : World) : Prop := ∀ task ∈ w.tasks, task.activity.isPublish = false

instance (w : World) : Decidable w.Quiet :=
  inferInstanceAs (Decidable (∀ task ∈ w.tasks, task.activity.isPublish = false))

structure Confined (w : World) : Prop where
  handles : w.handles = []
  sessions : w.sessions = []
  serves : ∀ task ∈ w.tasks, task.activity.serves = true

namespace Confined

variable {w : World} {index : Nat} {task : Task}

theorem setTask (h : w.Confined) {new : Task} (hn : new.activity.serves = true) :
    (w.setTask index new).Confined where
  handles := h.handles
  sessions := h.sessions
  serves other ho := by
    rcases List.mem_or_eq_of_mem_set ho with old | rfl
    · exact h.serves other old
    · exact hn

theorem addTask (h : w.Confined) {new : Task} (hn : new.activity.serves = true) :
    (w.addTask new).Confined where
  handles := by rw [addTask_handles, h.handles]
  sessions := by rw [addTask_sessions, h.sessions]
  serves other ho := by
    rw [addTask_tasks] at ho
    rcases List.mem_append.mp ho with old | added
    · exact h.serves other old
    · rw [List.eq_of_mem_singleton added]
      exact hn

theorem signal (h : w.Confined) (ht : w.tasks[index]? = some task) (s : Signal) :
    (w.signal index task s).Confined := by
  cases hs : w.service? task with
  | none =>
    rw [signal_of_no_service hs]
    exact h
  | some service =>
    obtain ⟨serves, lent⟩ := Activity.resume_serves service task.cancelled
      (h.serves task (List.mem_of_getElem? ht)) s
    constructor
    · rw [signal_handles hs, move, lent]
      exact h.handles
    · rw [signal_sessions hs, h.sessions]
    · rw [signal_tasks hs]
      intro other ho
      rcases List.mem_or_eq_of_mem_set ho with old | rfl
      · exact h.serves other old
      · exact serves

theorem start (h : w.Confined) (service : Nat) {job : Job} {cancelled : Bool}
    (hj : (Event.start service job cancelled).isPublishing = true) :
    (w.start service job cancelled).Confined := by
  unfold World.start
  cases w.services[service]? with
  | none => exact h
  | some s =>
    cases job with
    | publish after topic payload =>
      refine h.addTask ?_
      unfold Activity.begin
      split <;> rfl
    | report message stamp =>
      simp only
      split
      · exact h.addTask rfl
      · exact h.addTask rfl
    | shutdown =>
      have around : (w.setPool service s.pool.drain.2).Confined :=
        ⟨h.handles, h.sessions, h.serves⟩
      exact around.addTask rfl
    | _ => simp [Event.isPublishing] at hj

theorem applyTask (h : w.Confined) {event : Event} (he : event.isPublishing = true)
    (ht : w.tasks[index]? = some task) : (w.applyTask index task event).Confined := by
  have serves := h.serves task (List.mem_of_getElem? ht)
  cases event with
  | proceed i =>
    simp only [World.applyTask]
    split
    · exact h.signal ht _
    · exact h
  | effect i =>
    simp only [World.applyTask]
    split
    · exact h
    · split
      · exact h
      · rename_i answer cluster _
        have around : (w.putCluster cluster).Confined := ⟨h.handles, h.sessions, h.serves⟩
        exact around.setTask serves
  | deliver i =>
    simp only [World.applyTask]
    split
    · exact h
    · exact h.signal ht _
  | expire i =>
    simp only [World.applyTask]
    split
    · exact h.signal ht _
    · exact h
  | wake i =>
    simp only [World.applyTask]
    split
    · exact h.signal ht _
    · exact h
  | cancel i => exact h.setTask serves
  | crash i text => simp [Event.isPublishing] at he
  | _ => exact h

theorem apply (h : w.Confined) {event : Event} (he : event.isPublishing = true) :
    (w.apply event).Confined := by
  unfold World.apply
  split
  · split
    · exact h
    · exact h.applyTask he ‹_›
  · cases event with
    | tick time => exact ⟨h.handles, h.sessions, h.serves⟩
    | start service job cancelled => exact h.start service he
    | toggleOffline => exact ⟨h.handles, h.sessions, h.serves⟩
    | refuse count => exact ⟨h.handles, h.sessions, h.serves⟩
    | inject operation error => exact ⟨h.handles, h.sessions, h.serves⟩
    | forget | markFatal | openSession | request => simp [Event.isPublishing] at he
    | _ => exact h

theorem caller_of_asks (h : task.activity.serves = true) {session : SessionId} {id : String}
    (asks : Asks task.activity session id .commit) : caller index task ≠ none := by
  unfold caller
  cases ha : task.activity with
  | transacting t => simp [Activity.isPublish]
  | operating | making => simp [ha, Activity.serves, Activity.isPublish] at h
  | waiting | borrowing | creating | returning | retiring | draining | ended =>
    rw [ha] at asks
    cases asks

theorem committer (h : w.Confined) {past : Chronicle}
    (old : ∀ p ∈ past.postings, p.committer ≠ none) {note : Option Note} {next : World}
    (hstep : w.Step note next) :
    ∀ p ∈ Chronicle.postings (note.toList ++ past), p.committer ≠ none := by
  intro p hp
  rcases hstep.posting_cases hp with before |
    ⟨index, task, session, id, ht, asks, e, he, rfl⟩ | ⟨slot, session, hl, e, he, rfl⟩
  · exact old p before
  · exact caller_of_asks (h.serves task (List.mem_of_getElem? ht)) asks
  · simp [h.sessions] at hl

end Confined

end World

theorem Chronicle.Prompt.late_eq {past : Chronicle} (h : past.Prompt) (i : Nat)
    (operation : Operation) : past.late i operation = 0 := by
  refine List.countP_eq_zero.mpr ?_
  intro note hn late
  have missed := h note hn
  cases note with
  | missed caller request reply => simp [Note.isMissed] at missed
  | _ => simp [Note.isLate] at late

namespace Run

variable (r : Run)

theorem confined (publishing : ∀ event ∈ r.events, event.isPublishing = true) :
    r.world.Confined ∧ ∀ p ∈ r.chronicle.postings, p.committer ≠ none := by
  induction r using by_events with
  | idle r nothing =>
    refine ⟨⟨?_, ?_, ?_⟩, ?_⟩ <;>
      simp [world, chronicle, start, nothing, World.run, World.chronicle, World.initial,
        Chronicle.postings]
  | event r e ih =>
    obtain ⟨confined, own⟩ := ih fun other ho => publishing other (List.mem_append_left _ ho)
    have next := confined.apply (publishing e (List.mem_append_right _ List.mem_cons_self))
    have more := confined.committer own (World.step_apply _ e)
    rw [extend_world, extend_chronicle]
    exact ⟨next, more⟩

def delivered? (topic : String) (i : Nat) : Option ByteArray :=
  match r.chronicle.order? i, r.world.result? i with
  | some (name, payload), some (.ok ()) => if name = topic then some payload else none
  | _, _ => none

def delivered (topic : String) : List ByteArray :=
  (List.range r.world.tasks.length).filterMap (r.delivered? topic)

theorem returned_or_idle (publishing : ∀ event ∈ r.events, event.isPublishing = true)
    (quiet : r.world.Quiet) (i : Nat) :
    (∃ result, r.world.result? i = some result ∧ (r.chronicle.account i).Returned i result) ∨
      (r.chronicle.account i).Idle := by
  rcases Nat.lt_or_ge i r.world.tasks.length with here | beyond
  · have ht := List.getElem?_eq_getElem here
    have sound := r.sound.tasks i _ (by simp) ht
    have serves := (r.confined publishing).1.serves _ (List.mem_of_getElem? ht)
    have still := quiet _ (List.mem_of_getElem? ht)
    cases ha : (r.world.tasks[i]).activity with
    | draining handles closed =>
      rw [ha] at sound
      exact .inr sound
    | ended outcome =>
      have ended : r.world.outcome? i = some outcome := World.outcome?_eq_some.mpr ⟨_, ht, ha⟩
      rw [ha] at sound serves
      cases outcome with
      | published result =>
        have told : r.world.result? i = some result := by
          unfold World.result?
          rw [ended]
        exact .inl ⟨result, told, r.returned told⟩
      | rejected | drained => exact .inr sound
      | lent | returned | replied | crashed | dropped => simp [Activity.serves] at serves
    | _ => simp_all [Activity.serves]
  · exact .inr (r.sound.later i (by simp) beyond)

theorem committer_lt (publishing : ∀ event ∈ r.events, event.isPublishing = true)
    {p : Posting} (hp : p ∈ r.chronicle.postings) :
    ∃ i < r.world.tasks.length, p.committer = some i := by
  cases hc : p.committer with
  | none => exact absurd hc ((r.confined publishing).2 p hp)
  | some i =>
    refine ⟨i, ?_, rfl⟩
    by_contra beyond
    have nothing := (r.sound.later i (by simp) (by omega)).untouched.posted
    have posted : p ∈ (r.chronicle.account i).posted := List.mem_filter.mpr ⟨hp, by simp [hc]⟩
    simp [nothing] at posted

theorem one_posting (prompt : r.chronicle.Prompt) {i : Nat}
    (h : r.world.result? i = some (.ok ())) :
    ∃ producer topic payload, r.chronicle.order? i = some (topic, payload) ∧
      r.chronicle.postingsOf i = [⟨some i, some i, producer, topic, payload⟩] := by
  obtain ⟨topic, payload, producer, order, shown, commits⟩ := r.returned h
  have sends : (r.chronicle.account i).lateSends = 0 := prompt.late_eq i .send
  refine ⟨producer, topic, payload, order, shown.trans ?_⟩
  rw [if_neg (by simp [commits, confirmed]), sends]
  rfl

theorem no_posting (prompt : r.chronicle.Prompt) {i : Nat} {error : PublishError}
    (h : r.world.result? i = some (.error error)) : r.chronicle.postingsOf i = [] := by
  obtain ⟨topic, payload, producer, order, shown, commits⟩ := r.returned h
  have late : (r.chronicle.account i).lateCommits = 0 := prompt.late_eq i .commit
  refine shown.trans (if_pos ?_)
  rw [commits, late]
  rfl

theorem delivered?_eq (publishing : ∀ event ∈ r.events, event.isPublishing = true)
    (quiet : r.world.Quiet) (prompt : r.chronicle.Prompt) (topic : String) (i : Nat) :
    ((r.chronicle.postingsOf i).filter (·.topic = topic)).map Posting.payload =
      (r.delivered? topic i).toList := by
  unfold delivered?
  rcases r.returned_or_idle publishing quiet i with ⟨result, told, _⟩ | idle
  · cases result with
    | ok _ =>
      obtain ⟨producer, name, payload, order, posted⟩ := r.one_posting prompt told
      rw [order, told, posted]
      by_cases same : name = topic <;> simp [same]
    | error error =>
      rw [told, r.no_posting prompt told]
      simp
  · have order : r.chronicle.order? i = none := idle.order
    have posted : r.chronicle.postingsOf i = [] := idle.untouched.posted
    simp [order, posted]

/-- Exactly once: when nothing but publishing has gone on, no answer came too late and no publish is
in flight, each publish that succeeded has committed its record once, each publish that failed
has committed nothing, and the log of each topic holds the payloads of the publishes on it that
succeeded. -/
theorem exactly_once (publishing : ∀ event ∈ r.events, event.isPublishing = true)
    (quiet : r.world.Quiet) (prompt : r.chronicle.Prompt) :
    r.world.Shows r.chronicle.postings ∧
    (∀ i, r.world.result? i = some (.ok ()) → ∃ producer topic payload,
      r.chronicle.order? i = some (topic, payload) ∧
        r.chronicle.postingsOf i = [⟨some i, some i, producer, topic, payload⟩]) ∧
    (∀ i error, r.world.result? i = some (.error error) → r.chronicle.postingsOf i = []) ∧
    ∀ topic, ((r.world.cluster.broker.topics.records topic).map StoredRecord.payload).Perm
      (r.delivered topic) := by
  refine ⟨r.shows, fun i => r.one_posting prompt,
    fun i error => r.no_posting prompt, fun topic => ?_⟩
  have visible := (r.shows topic).map Prod.snd
  rw [List.map_map, List.map_map] at visible
  -- The log is taken apart by the publishes that committed its records.
  have parts := perm_flatMap_filter Posting.committer r.world.tasks.length r.chronicle.postings
    fun p hp => r.committer_lt publishing hp
  have on_topic := (parts.filter (·.topic = topic)).map Posting.payload
  refine visible.trans (on_topic.trans (.of_eq ?_))
  rw [List.filter_flatMap, List.map_flatMap, delivered, List.filterMap_eq_flatMap_toList]
  exact List.flatMap_congr fun i _ => r.delivered?_eq publishing quiet prompt topic i

/-- Two publishes, one of which the broker turns down. -/
def twoPublishes : Run :=
  hasty 0 [.start 0 (.publish 0 "results" ⟨#[1]⟩) false,
    .start 0 (.publish 0 "results" ⟨#[2]⟩) false, .inject .send (.abortable "refused"),
    .proceed 0, .proceed 1, .effect 0, .effect 1, .deliver 1, .deliver 0, .effect 0, .effect 1,
    .deliver 0, .deliver 1, .effect 0, .deliver 0, .effect 1, .deliver 1, .effect 1, .effect 0,
    .deliver 0, .deliver 1, .effect 0, .effect 1, .deliver 0, .deliver 1, .proceed 0, .proceed 1]

theorem twoPublishes_delivered :
    (∀ event ∈ twoPublishes.events, event.isPublishing = true) ∧ twoPublishes.world.Quiet ∧
    twoPublishes.chronicle.Prompt ∧ twoPublishes.delivered "results" = [⟨#[1]⟩] ∧
    ((twoPublishes.world.cluster.broker.topics.records "results").map
      StoredRecord.payload).Perm (twoPublishes.delivered "results") := by
  have publishing : ∀ event ∈ twoPublishes.events, event.isPublishing = true := by
    decide +kernel
  have quiet : twoPublishes.world.Quiet := by decide +kernel
  have prompt : twoPublishes.chronicle.Prompt := by decide +kernel
  refine ⟨publishing, quiet, prompt, by decide +kernel, ?_⟩
  exact (twoPublishes.exactly_once publishing quiet prompt).2.2.2 "results"

end Run

end OutcomeRelay
