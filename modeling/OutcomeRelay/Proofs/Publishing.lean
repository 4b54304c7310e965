import Mathlib.Data.List.Induction
import OutcomeRelay.Proofs.Ledger
import OutcomeRelay.Proofs.Ownership
import OutcomeRelay.Proofs.Soundness

set_option autoImplicit false

namespace OutcomeRelay

namespace World

/-- A world is in order, but for the task `besides`. -/
structure Sound (w : World) (besides : Option Nat) (past : Chronicle) : Prop where
  tasks : ∀ (i : Nat) (task : Task), besides ≠ some i → w.tasks[i]? = some task →
    task.activity.Sound i (past.account i) past.buffer task.answer
  later : ∀ i, besides ≠ some i → w.tasks.length ≤ i → (past.account i).Idle
  idle : ∀ service ∈ w.services, ∀ handle ∈ service.pool.idle,
    handle.AtRest past.buffer
  lent : ∀ slot ∈ w.handles, slot.2.Lent past.buffer
  bare : ∀ slot ∈ w.sessions, ∀ e ∈ past.buffer slot.2, e.sender = none
  foreign : ∀ p ∈ past.postings, p.committer = none → p.sender = none

variable {w : World} {past : Chronicle} {index : Nat} {task : Task}

namespace Told

variable {signal : Signal} {note : Option Note}

theorem account_eq (told : w.Told index task signal note)
    (other : ∀ t, task.activity ≠ .transacting t) (past : Chronicle) :
    Chronicle.account index (note.toList ++ past) = past.account index := by
  cases told with
  | turn | answer | awake => rfl
  | silence hd =>
    unfold miss?
    split
    · rename_i session id request limit reply hd ha
      have asks := asks_of_demand hd
      simp only [caller, Option.toList_some, List.singleton_append]
      generalize task.activity = activity at asks other
      cases asks with
      | transact h => exact absurd rfl (other _)
      | operate slot h =>
        exact Chronicle.account_missed_ne index past (by simp [Activity.isPublish]) _ _
      | register | registerLent => exact Chronicle.account_missed_other index past (.inl rfl) _ _
      | _ => exact Chronicle.account_missed_other index past (.inr rfl) _ _
    · rfl

theorem order_eq (told : w.Told index task signal note) (past : Chronicle) :
    (Chronicle.account index (note.toList ++ past)).order = (past.account index).order := by
  rcases told.note_cases with rfl | ⟨request, reply, rfl⟩
  · rfl
  · simp [Chronicle.account_cons, Note.order?]

theorem transacting (told : w.Told index task signal note) {service : Service}
    (hs : w.service? task = some service) {t : Transaction}
    (ht : task.activity = .transacting t)
    (sound : task.activity.Sound index (past.account index) past.buffer task.answer) :
    (t.resume service.retry task.cancelled signal).Tallied index
      (Chronicle.account index (note.toList ++ past)) (past.buffer t.handle.session) none := by
  rw [ht] at sound
  obtain ⟨_, reply, ha, tallied⟩ := sound
  have demand : w.demand task = t.demand service.retry := by
    simp [World.demand, hs, ht, Activity.demand]
  cases told with
  | turn hd =>
    rw [demand] at hd
    cases hr : t.request? with
    | some request => simp [tallied.demand_eq hr] at hd
    | none =>
      rcases Transaction.demand_of_no_request hr service.retry with ⟨_, _, h⟩ | h <;>
        simp [h] at hd
  | answer h =>
    rw [ha] at h
    cases reply with
    | none => simp at h
    | some r =>
      obtain rfl : Signal.answered r = signal := by simpa using h
      exact tallied.answered
  | silence hd =>
    rw [demand] at hd
    cases hr : t.request? with
    | none =>
      rcases Transaction.demand_of_no_request hr service.retry with ⟨_, _, h⟩ | h <;>
        simp [h, Demand.limit?] at hd
    | some request =>
      simp only [miss?, demand, tallied.demand_eq hr, ha]
      cases reply with
      | none => exact tallied.silence hr
      | some r =>
        have own : caller index task = some index := by simp [caller, ht, Activity.isPublish]
        simp only [Option.map_some, own, Option.toList_some, List.singleton_append]
        cases r with
        | ok _ =>
          rw [Chronicle.account_missed]
          exact (tallied.missed hr).silence hr
        | error error =>
          rw [Chronicle.account_missed_error]
          have unanswered : t.Tallied index (past.account index) (past.buffer t.handle.session)
              none :=
            tallied.reply_congr hr (by simp [arriving])
          exact unanswered.silence hr
  | awake hd =>
    rw [demand] at hd
    cases hr : t.request? with
    | some request => simp [tallied.demand_eq hr] at hd
    | none => exact tallied.awake hr

end Told

theorem connecting_sound {id : String} {limit : Span} (hd : w.demand task = .connection id limit)
    (sound : task.activity.Sound index (past.account index) past.buffer task.answer)
    {answer : Option Signal} (empty : AllEmpty past.buffer (Attempt.held id answer .connecting)) :
    task.activity.Sound index (past.account index) past.buffer answer := by
  rcases connecting_of_demand hd with ⟨purpose, failures, ha⟩ | ⟨slot, ha⟩
  · rw [ha] at sound ⊢
    exact ⟨sound.1, empty⟩
  · rw [ha] at sound ⊢
    exact ⟨sound.1, empty⟩

theorem empty_of_called {s : SessionId} (h : past.buffer s = []) (caller : Option Nat)
    (session : SessionId) (producer : String) {request : Request}
    (hr : request = .init ∨ request = .close) (reply : Reply) :
    Chronicle.buffer (.called caller session producer request reply :: past) s = [] := by
  cases reply with
  | error error => exact h
  | ok _ =>
    rw [Chronicle.buffer_called]
    rcases hr with rfl | rfl <;> simp [Request.rebuffer, h]

theorem direct_of_called {s : SessionId} (direct : ∀ e ∈ past.buffer s, e.sender = none)
    (producer : String) (request : Request) (reply : Reply) :
    ∀ e ∈ Chronicle.buffer (.called none s producer request reply :: past) s, e.sender = none := by
  cases reply with
  | error error => exact direct
  | ok _ =>
    rw [Chronicle.buffer_called, if_pos rfl]
    cases request with
    | send topic payload =>
      intro e he
      rcases List.mem_append.mp he with old | new
      · exact direct e old
      · rw [List.eq_of_mem_singleton new]
    | init => exact direct
    | begin | commit | abort | close => simp [Request.rebuffer]

theorem lent_of_called {handle : Handle} (lent : handle.Lent past.buffer) {request : Request}
    (permitted : handle.status.permits request.operation = true) (producer : String)
    (reply : Reply) :
    handle.Lent
      (Chronicle.buffer (.called none handle.session producer request reply :: past)) := by
  obtain ⟨clean, direct⟩ := lent
  refine ⟨?_, direct_of_called direct producer request reply⟩
  intro ready
  rw [ready] at permitted
  cases reply with
  | error error => exact clean ready
  | ok _ =>
    rw [Chronicle.buffer_called, if_pos rfl]
    cases request with
    | begin | close => rfl
    | init | send | commit | abort => simp [Status.permits, Request.operation] at permitted

theorem direct_of_asks {session : SessionId} {id : String} {request : Request}
    (asks : Asks task.activity session id request)
    (sound : task.activity.Sound index (past.account index) past.buffer task.answer)
    (none_calls : caller index task = none) (commits : request = .commit) :
    ∀ e ∈ past.buffer session, e.sender = none := by
  unfold caller at none_calls
  generalize task.activity = activity at asks sound none_calls
  cases asks with
  | operate slot permitted => exact sound.2.1.2
  | transact hr => simp [Activity.isPublish] at none_calls
  | register | dismiss | retire | drain | registerLent | dismissLent => simp at commits

theorem foreign_of_called (h : ∀ p ∈ past.postings, p.committer = none → p.sender = none)
    {caller : Option Nat} {session : SessionId} {request : Request}
    (direct : caller = none → request = .commit → ∀ e ∈ past.buffer session, e.sender = none)
    {producer : String} {reply : Reply} :
    ∀ p ∈ Chronicle.postings (.called caller session producer request reply :: past),
      p.committer = none → p.sender = none := by
  intro p hp none_commits
  rcases Chronicle.mem_postings_called hp with old | ⟨commits, e, he, rfl⟩
  · exact h p old none_commits
  · exact direct none_commits commits e he

theorem answered_sound {session : SessionId} {id : String} {request : Request}
    (asks : Asks task.activity session id request) (ha : task.answer = none)
    (sound : task.activity.Sound index (past.account index) past.buffer task.answer)
    (reply : Reply) :
    task.activity.Sound index
      (Chronicle.account index (.called (caller index task) session id request reply :: past))
      (Chronicle.buffer (.called (caller index task) session id request reply :: past))
      (some (.answered reply)) := by
  rw [ha] at sound
  simp only [caller]
  generalize task.activity = activity at asks sound
  cases asks with
  | register purpose id failures session =>
    rw [Chronicle.account_called_other index past (.inl rfl)]
    exact ⟨sound.1, fun hold hm => empty_of_called (sound.2 hold hm) _ _ _ (.inl rfl) _⟩
  | dismiss purpose id failures session error =>
    rw [Chronicle.account_called_other index past (.inr rfl)]
    exact ⟨sound.1, fun hold hm => empty_of_called (sound.2 hold hm) _ _ _ (.inr rfl) _⟩
  | registerLent slot id session =>
    rw [Chronicle.account_called_other index past (.inl rfl)]
    exact ⟨sound.1, fun hold hm => empty_of_called (sound.2 hold hm) _ _ _ (.inl rfl) _⟩
  | dismissLent slot id session error =>
    rw [Chronicle.account_called_other index past (.inr rfl)]
    exact ⟨sound.1, fun hold hm => empty_of_called (sound.2 hold hm) _ _ _ (.inr rfl) _⟩
  | retire handle discarded outcome =>
    rw [Chronicle.account_called_other index past (.inr rfl)]
    exact sound
  | drain handle handles closed =>
    rw [Chronicle.account_called_other index past (.inr rfl)]
    exact sound
  | @operate slot handle request permitted =>
    obtain ⟨idle, lent, _⟩ := sound
    have foreign : (none : Option Nat) ≠ some index := by simp
    simp only [Activity.isPublish, Bool.false_eq_true, ↓reduceIte]
    rw [Chronicle.account_called_ne index past foreign]
    refine ⟨idle, lent_of_called lent permitted _ _, ?_⟩
    intro arrived ended
    obtain rfl : reply = .ok () := by simpa using arrived
    rw [Chronicle.buffer_called, if_pos rfl]
    rcases ended with rfl | rfl <;> rfl
  | @transact t request hr =>
    obtain ⟨order, before, hb, tallied⟩ := sound
    obtain rfl : before = none := by
      cases before with
      | none => rfl
      | some r => simp at hb
    simp only [Activity.isPublish, ↓reduceIte]
    cases reply with
    | error error =>
      rw [Chronicle.account_failed]
      exact ⟨order, some (.error error), rfl, tallied.reply_congr hr (by simp [arriving])⟩
    | ok _ =>
      rw [Chronicle.account_called]
      refine ⟨?_, some (.ok ()), rfl, ?_⟩
      · cases request <;> exact order
      · rw [Chronicle.buffer_called, if_pos rfl]
        exact tallied.called hr

namespace Sound

variable {besides : Option Nat}

theorem except (h : w.Sound none past) (index : Nat) : w.Sound (some index) past where
  tasks i task _ ht := h.tasks i task (by simp) ht
  later i _ hi := h.later i (by simp) hi
  idle := h.idle
  lent := h.lent
  bare := h.bare
  foreign := h.foreign

theorem congr {next : World} (h : w.Sound besides past) (tasks : next.tasks = w.tasks)
    (services : next.services = w.services) (handles : next.handles = w.handles)
    (sessions : next.sessions = w.sessions) : next.Sound besides past where
  tasks := tasks ▸ h.tasks
  later := tasks ▸ h.later
  idle := services ▸ h.idle
  lent := handles ▸ h.lent
  bare := sessions ▸ h.bare
  foreign := h.foreign

theorem goes_on {next : Chronicle} (h : w.Sound besides past)
    (accounts : ∀ i, besides ≠ some i → next.account i = past.account i)
    (tasks : ∀ (i : Nat) (task : Task), besides ≠ some i → w.tasks[i]? = some task →
      ∀ hold ∈ task.held, next.buffer hold.1 = past.buffer hold.1)
    (idle : ∀ hold ∈ w.heldIdle, next.buffer hold.1 = past.buffer hold.1)
    (slots : ∀ hold ∈ heldInSlots w.handles, next.buffer hold.1 = past.buffer hold.1)
    (bare : ∀ slot ∈ w.sessions, ∀ e ∈ next.buffer slot.2, e.sender = none)
    (foreign : ∀ p ∈ next.postings, p.committer = none → p.sender = none) :
    w.Sound besides next where
  tasks i task hi ht := by
    rw [accounts i hi]
    exact (h.tasks i task hi ht).congr (tasks i task hi ht)
  later i hi hl := by
    rw [accounts i hi]
    exact h.later i hi hl
  idle service hs handle hh := by
    obtain ⟨ready, empty⟩ := h.idle service hs handle hh
    exact ⟨ready, (idle _ (mem_heldIdle hs hh)).trans empty⟩
  lent slot hs := by
    have same : next.buffer slot.2.session = past.buffer slot.2.session :=
      slots _ (mem_heldInSlots hs)
    simpa only [Handle.Lent, Handle.Clean, same] using h.lent slot hs
  bare := bare
  foreign := foreign

theorem quiet {note : Note} (h : w.Sound besides past)
    (accounts : ∀ i, besides ≠ some i → Chronicle.account i (note :: past) = past.account i)
    (buffers : ∀ s, Chronicle.buffer (note :: past) s = past.buffer s)
    (postings : Chronicle.postings (note :: past) = past.postings) :
    w.Sound besides (note :: past) := by
  refine h.goes_on accounts (fun _ _ _ _ hold _ => buffers hold.1) (fun hold _ => buffers hold.1)
    (fun hold _ => buffers hold.1) ?_ ?_
  · intro slot hs
    rw [buffers]
    exact h.bare slot hs
  · rw [postings]
    exact h.foreign

theorem setTask (h : w.Sound (some index) past) (hi : index < w.tasks.length) {task : Task}
    (sound : task.activity.Sound index (past.account index) past.buffer task.answer) :
    (w.setTask index task).Sound none past where
  tasks i other _ ht := by
    rcases eq_or_ne index i with rfl | different
    · obtain rfl : task = other := by
        simpa [List.getElem?_set_self hi] using ht
      exact sound
    · refine h.tasks i other (by simpa using different) ?_
      simpa [List.getElem?_set_ne different] using ht
  later i _ hl := by
    have beyond : w.tasks.length ≤ i := by simpa using hl
    exact h.later i (by simp; omega) beyond
  idle := h.idle
  lent := h.lent
  bare := h.bare
  foreign := h.foreign

theorem addTask (h : w.Sound (some w.tasks.length) past) {task : Task}
    (sound : task.activity.Sound w.tasks.length (past.account w.tasks.length) past.buffer none) :
    (w.addTask task).Sound none past where
  tasks i other _ ht := by
    rw [addTask_tasks] at ht
    rcases Nat.lt_trichotomy i w.tasks.length with old | rfl | beyond
    · rw [List.getElem?_append_left old] at ht
      exact h.tasks i other (by simp; omega) ht
    · obtain rfl : w.moved task task.activity = other := by simpa using ht
      exact sound
    · rw [List.getElem?_eq_none (by simp; omega)] at ht
      simp at ht
  later i _ hl := by
    have beyond : w.tasks.length + 1 ≤ i := by simpa using hl
    exact h.later i (by simp; omega) (by omega)
  idle := by simpa using h.idle
  lent := by simpa using h.lent
  bare := by simpa using h.bare
  foreign := h.foreign

theorem setPool (h : w.Sound besides past) (service : Nat) {pool : Pool}
    (rest : ∀ handle ∈ pool.idle, handle.AtRest past.buffer) :
    (w.setPool service pool).Sound besides past where
  tasks := h.tasks
  later := h.later
  idle s hs := by
    obtain ⟨i, hi⟩ := List.mem_iff_getElem?.mp hs
    simp only [World.setPool, List.getElem?_modify, Option.map_eq_map,
      Option.map_eq_some_iff] at hi
    obtain ⟨old, ho, rfl⟩ := hi
    split
    · exact rest
    · exact h.idle old (List.mem_of_getElem? ho)
  lent := h.lent
  bare := h.bare
  foreign := h.foreign

theorem slots (h : w.Sound besides past) {handles : Slots Handle} {sessions : Slots SessionId}
    (lent : ∀ slot ∈ handles, slot ∈ w.handles ∨ slot.2.Lent past.buffer)
    (bare : ∀ slot ∈ sessions, slot ∈ w.sessions ∨ past.buffer slot.2 = []) :
    World.Sound { w with handles := handles, sessions := sessions } besides past where
  tasks := h.tasks
  later := h.later
  idle := h.idle
  lent slot hs := (lent slot hs).elim (h.lent slot) id
  bare slot hs := by
    rcases bare slot hs with old | empty
    · exact h.bare slot old
    · simp [empty]
  foreign := h.foreign

theorem putLent (h : w.Sound besides past) {lent : Option (String × Handle)}
    (direct : ∀ slot ∈ lent, slot.2.Lent past.buffer) : (w.putLent lent).Sound besides past := by
  cases lent with
  | none => exact h
  | some slot =>
    refine h.slots ?_ fun _ hs => .inl hs
    intro other hm
    rcases List.mem_cons.mp hm with rfl | old
    · exact .inr (direct _ rfl)
    · exact .inl (List.mem_of_mem_filter old)

theorem begins (h : w.Sound none past) {base : World} {activity : Activity} {note : Option Note}
    (hb : w.Begins base activity note) :
    base.Sound (some w.tasks.length) (note.toList ++ past) ∧
      activity.Sound w.tasks.length (Chronicle.account w.tasks.length (note.toList ++ past))
        (Chronicle.buffer (note.toList ++ past)) none := by
  have others := h.except w.tasks.length
  have nothing := h.later w.tasks.length (by simp) le_rfl
  have taken (slot : String) : ∀ other ∈ w.handles.clear slot,
      other ∈ w.handles ∨ other.2.Lent past.buffer :=
    fun other hm => .inl (List.mem_of_mem_filter hm)
  cases hb with
  | publish millis topic payload =>
    have fresh : (Purpose.publish topic payload).Fresh
        (Chronicle.account w.tasks.length (.ordered w.tasks.length topic payload :: past)) := by
      rw [Chronicle.account_ordered]
      have untouched := nothing.untouched
      exact ⟨rfl, untouched.sends, untouched.commits, untouched.lateSends, untouched.lateCommits,
        untouched.posted⟩
    refine ⟨others.quiet ?_ (fun _ => rfl) (Chronicle.postings_ordered _ _ _), ?_⟩
    · intro i hi
      exact Chronicle.account_ordered_ne i past (by simpa using hi) topic payload
    · unfold Activity.begin
      split <;> exact fresh
  | reject | borrow => exact ⟨others, nothing⟩
  | release hl =>
    have direct := h.lent _ (mem_of_lookup hl)
    exact ⟨others.slots (taken _) fun _ hs => .inl hs, nothing, direct.1⟩
  | operate hl request =>
    have direct := h.lent _ (mem_of_lookup hl)
    exact ⟨others.slots (taken _) fun _ hs => .inl hs, nothing, direct, by simp⟩
  | shutdown hs => exact ⟨others.setPool _ (by simp [Pool.drain]), nothing⟩
  | create slot id => exact ⟨others, nothing, .zero⟩
  | createNext hs slot ids id =>
    exact ⟨others.setPool _ (h.idle _ (List.mem_of_getElem? hs)), nothing, .zero⟩

theorem told (h : w.Sound none past) {service : Service} {signal : Signal} {note : Option Note}
    (ht : w.tasks[index]? = some task) (hs : w.service? task = some service)
    (told : w.Told index task signal note) :
    (w.signal index task signal).Sound none (note.toList ++ past) := by
  have sound := h.tasks index task (by simp) ht
  have buffers : Chronicle.buffer (note.toList ++ past) = past.buffer := by
    rcases told.note_cases with rfl | ⟨request, reply, rfl⟩ <;> rfl
  have others : w.Sound (some index) (note.toList ++ past) := by
    rcases told.note_cases with rfl | ⟨request, reply, rfl⟩
    · exact h.except index
    · refine (h.except index).quiet ?_ (fun _ => rfl) (Chronicle.postings_missed _ _ _)
      intro i hi
      have foreign : caller index task ≠ some i := caller_ne (by simpa using hi) task
      exact Chronicle.account_missed_ne i past foreign request reply
  have rest : ∀ handle ∈ service.pool.idle, handle.AtRest past.buffer :=
    h.idle service (List.mem_of_getElem? hs)
  have moved : (move service task signal).Sound index
      (Chronicle.account index (note.toList ++ past)) past.buffer := by
    unfold move
    -- Only a transaction can have missed an answer that is accounted for.
    by_cases transacts : ∃ t, task.activity = .transacting t
    · obtain ⟨t, ha⟩ := transacts
      have alike := t.resume_alike service.retry task.cancelled signal
      have tallied := told.transacting hs ha sound
      rw [ha] at sound ⊢
      refine Activity.afterTransaction_sound rest ?_ ?_
      · rw [alike.topic, alike.payload, told.order_eq]
        exact sound.1
      · rw [alike.session]
        exact tallied
    · have other : ∀ t, task.activity ≠ .transacting t := fun t ha => transacts ⟨t, ha⟩
      rw [told.account_eq other]
      exact Activity.resume_sound rest rfl task.cancelled other sound told.isNews
  rw [← buffers] at moved
  rw [signal_eq hs]
  refine congr (w := ((w.setPool task.service (move service task signal).pool).putLent
      (move service task signal).lent).setTask index
        (w.moved task (move service task signal).activity))
    ?_ (by simp) (by simp) (by simp) (by simp)
  refine setTask ((others.setPool task.service moved.idle).putLent moved.lent) ?_ moved.activity
  rw [putLent_tasks, setPool_tasks]
  exact (List.getElem?_eq_some_iff.mp ht).1

theorem answered (h : w.Sound none past) (owned : w.Owned) {session : SessionId} {id : String}
    {request : Request} {limit : Option Span} (ht : w.tasks[index]? = some task)
    (hd : w.demand task = .answer session id request limit) (ha : task.answer = none) :
    ((w.putCluster (w.cluster.perform session request).2).setTask index
        { task with answer := some (.answered (w.cluster.perform session request).1) }).Sound none
      (w.noteOf ⟨caller index task, session, request⟩ :: past) := by
  have asks := asks_of_demand hd
  have sound := h.tasks index task (by simp) ht
  have own : (session, some id) ∈ task.held := asks.mem_held task.answer
  have named : w.cluster.producer? session = some id := by
    obtain ⟨name, hn, same⟩ := owned.known _ (mem_held_of_task ht own)
    rw [hn, same id rfl]
  have elsewhere : ∀ hold ∈ w.heldBesides index, session ≠ hold.1 := fun hold hm =>
    owned.apart (held_add_heldBesides ht).le own hm
  unfold noteOf
  simp only [named, Option.getD_some]
  -- All that is used below is that there is a reply, and that the note tells of it.
  generalize (w.cluster.perform session request).1 = reply
  have others : w.Sound (some index)
      (.called (caller index task) session id request reply :: past) := by
    refine (h.except index).goes_on ?_ ?_ ?_ ?_ ?_ ?_
    · intro i hi
      have foreign : caller index task ≠ some i := caller_ne (by simpa using hi) task
      exact Chronicle.account_called_ne i past foreign _ _ _ _
    · intro i other hi ho hold hm
      refine Chronicle.buffer_called_ne (elsewhere hold ?_) _ _ _ _
      have there := mem_heldOthers index ho (by rintro rfl; exact hi rfl) hm
      simp [heldBesides, there]
    · intro hold hm
      exact Chronicle.buffer_called_ne (elsewhere hold (by simp [heldBesides, hm])) _ _ _ _
    · intro hold hm
      exact Chronicle.buffer_called_ne (elsewhere hold (by simp [heldBesides, hm])) _ _ _ _
    · intro slot hs
      have there : session ≠ slot.2 :=
        elsewhere (slot.2, none) (by simp [heldBesides, mem_heldBare hs])
      rw [Chronicle.buffer_called_ne there]
      exact h.bare slot hs
    · exact foreign_of_called h.foreign fun none_calls => direct_of_asks asks sound none_calls
  have around : (w.putCluster (w.cluster.perform session request).2).Sound (some index)
      (.called (caller index task) session id request reply :: past) :=
    others.congr rfl rfl rfl rfl
  exact around.setTask (List.getElem?_eq_some_iff.mp ht).1 (answered_sound asks ha sound reply)

theorem requested (h : w.Sound none past) (owned : w.Owned) {slot : String} {session : SessionId}
    (hl : w.sessions.lookup slot = some session) (request : Request) (producer : String)
    (reply : Reply) : w.Sound none (.called none session producer request reply :: past) := by
  have own : (session, none) ∈ heldBare w.sessions := mem_heldBare (mem_of_lookup hl)
  have elsewhere : ∀ hold ∈ w.heldIdle + (w.tasks.map Task.held).sum + heldInSlots w.handles,
      session ≠ hold.1 := fun hold hm =>
    owned.apart (add_comm _ (heldBare w.sessions)).ge own hm
  have direct := h.bare _ (mem_of_lookup hl)
  refine h.goes_on ?_ ?_ ?_ ?_ ?_ (foreign_of_called h.foreign fun _ _ => direct)
  · intro i _
    exact Chronicle.account_called_ne i past (by simp) _ _ _ _
  · intro i task _ ht hold hm
    have there := mem_sum_map (List.mem_of_getElem? ht) hm
    exact Chronicle.buffer_called_ne (elsewhere hold (by simp [there])) _ _ _ _
  · intro hold hm
    exact Chronicle.buffer_called_ne (elsewhere hold (by simp [hm])) _ _ _ _
  · intro hold hm
    exact Chronicle.buffer_called_ne (elsewhere hold (by simp [hm])) _ _ _ _
  · intro other ho
    rcases eq_or_ne session other.2 with rfl | different
    · exact direct_of_called (h.bare other ho) _ _ _
    · rw [Chronicle.buffer_called_ne different]
      exact h.bare other ho

/-- Whatever happens, the accounts of all publishes stay in order. -/
theorem step (h : w.Sound none past) (owned : w.Owned) (agrees : past.Agrees w.cluster)
    {note : Option Note} {next : World} (hstep : w.Step note next) :
    next.Sound none (note.toList ++ past) := by
  cases hstep with
  | same => exact h
  | tick time => exact h.congr rfl rfl rfl rfl
  | @begun base task note hb =>
    obtain ⟨others, new⟩ := h.begins hb
    rw [← hb.tasks] at others new
    exact others.addTask new
  | told ht hs told => exact h.told ht hs told
  | @opened index task id limit ht hd ha =>
    have sound := h.tasks index task (by simp) ht
    have around : (w.putCluster (w.cluster.join id)).Sound (some index) past :=
      (h.except index).congr rfl rfl rfl rfl
    refine around.setTask (List.getElem?_eq_some_iff.mp ht).1 (connecting_sound hd sound ?_)
    intro hold hm
    rw [Multiset.mem_singleton.mp hm]
    exact agrees.buffer_length
  | @refused index task id limit ht hd ha refusals error =>
    have sound := h.tasks index task (by simp) ht
    have around : (w.putCluster (w.cluster.adjust w.cluster.broker.offline refusals
        w.cluster.broker.faults)).Sound (some index) past :=
      (h.except index).congr rfl rfl rfl rfl
    exact around.setTask (List.getElem?_eq_some_iff.mp ht).1 (connecting_sound hd sound .zero)
  | answered ht hd ha => exact h.answered owned ht hd ha
  | @crashed index task ht hd text =>
    have sound := h.tasks index task (by simp) ht
    exact (h.except index).setTask (List.getElem?_eq_some_iff.mp ht).1 sound.balanced
  | @flagged index task ht =>
    exact (h.except index).setTask (List.getElem?_eq_some_iff.mp ht).1
      (h.tasks index task (by simp) ht)
  | adjusted => exact h.congr rfl rfl rfl rfl
  | forgot slot =>
    exact h.slots (fun _ hm => .inl (List.mem_of_mem_filter hm)) fun _ hm => .inl hm
  | @spoiled slot handle hl =>
    refine h.slots ?_ fun _ hm => .inl hm
    intro other hm
    rcases List.mem_cons.mp hm with rfl | old
    · exact .inr (h.lent _ (mem_of_lookup hl)).markFatal
    · exact .inl (List.mem_of_mem_filter old)
  | joined slot id =>
    refine Sound.congr (w := { w with
      sessions := w.sessions.put slot w.cluster.sessions.length }) ?_ rfl rfl rfl rfl
    refine h.slots (fun _ hm => .inl hm) ?_
    intro other hm
    rcases List.mem_cons.mp hm with rfl | old
    · exact .inr agrees.buffer_length
    · exact .inl (List.mem_of_mem_filter old)
  | requested hl request => exact (h.requested owned hl request _ _).congr rfl rfl rfl rfl

theorem initial (partitions : Nat) {services : List Service}
    (h : ∀ service ∈ services, service.pool.idle = []) :
    (World.initial partitions services).Sound none [] where
  tasks i task _ ht := by simp [World.initial] at ht
  later i _ _ := ⟨rfl, Chronicle.account_nil i⟩
  idle service hs := by simp [h service hs]
  lent := by simp [World.initial]
  bare := by simp [World.initial]
  foreign := by simp [Chronicle.postings]

end Sound

end World

theorem World.outcome?_eq_some {w : World} {i : Nat} {outcome : Outcome} :
    w.outcome? i = some outcome ↔
      ∃ task, w.tasks[i]? = some task ∧ task.activity = .ended outcome := by
  simp only [World.outcome?, Option.bind_eq_some_iff]
  refine exists_congr fun task => and_congr_right fun _ => ?_
  cases task.activity <;> simp [Activity.outcome?]

theorem World.result?_eq_some {w : World} {i : Nat} {result : PublishResult} :
    w.result? i = some result ↔
      ∃ task, w.tasks[i]? = some task ∧ task.activity = .ended (.published result) := by
  rw [← World.outcome?_eq_some]
  unfold World.result?
  split <;> simp_all

structure Run where
  partitions : Nat
  services : List Service
  events : List Event
  fresh : ∀ service ∈ services, service.pool.idle = []

namespace Run

def start (r : Run) : World := World.initial r.partitions r.services

def world (r : Run) : World := r.start.run r.events

def chronicle (r : Run) : Chronicle := r.start.chronicle [] r.events

def extend (r : Run) (later : List Event) : Run := { r with events := r.events ++ later }

variable (r : Run)

theorem extend_world (later : List Event) : (r.extend later).world = r.world.run later :=
  World.run_append _ _ _

theorem extend_chronicle (later : List Event) :
    (r.extend later).chronicle = r.world.chronicle r.chronicle later :=
  World.chronicle_append _ _ _ _

@[elab_as_elim]
theorem by_events {P : Run → Prop} (r : Run) (idle : ∀ r : Run, r.events = [] → P r)
    (event : ∀ (r : Run) (e : Event), P r → P (r.extend [e])) : P r := by
  obtain ⟨partitions, services, events, fresh⟩ := r
  induction events using List.reverseRecOn with
  | nil => exact idle _ rfl
  | append_singleton events e ih => exact event _ e ih

variable {r} in
theorem world_of_idle (nothing : r.events = []) :
    r.world = World.initial r.partitions r.services := by
  simp [world, nothing, start, World.run]

theorem in_order :
    r.world.Owned ∧ r.chronicle.Agrees r.world.cluster ∧ r.world.Sound none r.chronicle := by
  refine World.run_keeps (P := fun past w => w.Owned ∧ past.Agrees w.cluster ∧ w.Sound none past)
    ?_ r.events ?_
  · -- Accounts stay in order only as long as no session is shared, so that all is kept together.
    intro past w note next ⟨owned, agrees, sound⟩ step
    exact ⟨owned.step step, agrees.step step, sound.step owned agrees step⟩
  · exact ⟨.initial _ r.fresh, .empty _, .initial _ r.fresh⟩

theorem owned : r.world.Owned := r.in_order.1

theorem agrees : r.chronicle.Agrees r.world.cluster := r.in_order.2.1

theorem sound : r.world.Sound none r.chronicle := r.in_order.2.2

theorem shows : r.world.Shows r.chronicle.postings := r.agrees.log

theorem balanced (i : Nat) : (r.chronicle.account i).Balanced i := by
  rcases Nat.lt_or_ge i r.world.tasks.length with task | beyond
  · exact (r.sound.tasks i _ (by simp) (List.getElem?_eq_getElem task)).balanced
  · exact .inl (r.sound.later i (by simp) beyond)

theorem returned {i : Nat} {result : PublishResult} (h : r.world.result? i = some result) :
    (r.chronicle.account i).Returned i result := by
  obtain ⟨task, ht, ha⟩ := World.result?_eq_some.mp h
  have sound := r.sound.tasks i task (by simp) ht
  rw [ha] at sound
  exact sound

/-- A run of one service that pauses nowhere, with this many repetitions of each step. -/
def hasty (retries : UInt32) (events : List Event) : Run where
  partitions := 1
  services := [{
    options := { brokers := ["b"], baseId := "svc" }
    retry := .immediate retries
    creation := .immediate 0
    topic := "results" }]
  events := events
  fresh := by simp

end Run

end OutcomeRelay
