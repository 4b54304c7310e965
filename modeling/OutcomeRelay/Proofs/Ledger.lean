import OutcomeRelay.Proofs.Session
import OutcomeRelay.Proofs.Step

set_option autoImplicit false

namespace OutcomeRelay

def Cluster.pending (c : Cluster) (s : SessionId) : List (String × ByteArray) :=
  (c.sessions[s]?.map (·.pending)).getD []

/-- A chronicle agrees with a cluster on what is held back and on what is visible. -/
structure Chronicle.Agrees (past : Chronicle) (c : Cluster) : Prop where
  buffers : ∀ s, (past.buffer s).map Entry.record = c.pending s
  closed : ∀ (s : SessionId) (session : Session), c.sessions[s]? = some session →
    session.closed = true → session.pending = []
  inBounds : c.broker.topics.InBounds
  log : ∀ topic, ((c.broker.topics.records topic).map StoredRecord.content).Perm
    ((past.postings.filter (·.topic = topic)).map Posting.content)

theorem Request.rebuffer_record (request : Request) (caller : Option Nat) {entries : List Entry}
    {session : Session} (b : Broker) (h : entries.map Entry.record = session.pending)
    (hc : session.closed = true → session.pending = []) :
    (request.rebuffer caller entries).map Entry.record = (request.effect session b).1.pending := by
  cases request with
  | init => exact h
  | send topic payload => simp [rebuffer, effect, h, Entry.record]
  | begin | commit | abort => rfl
  | close =>
    by_cases closed : session.closed = true
    · simp [rebuffer, effect, closed, hc closed]
    · simp [rebuffer, effect, closed]

namespace Cluster

variable (c : Cluster) (s : SessionId)

theorem pending_join (id : String) : (c.join id).pending s = c.pending s := by
  unfold pending join
  rcases Nat.lt_or_ge s c.sessions.length with old | new
  · rw [List.getElem?_append_left old]
  · rw [List.getElem?_append_right new, List.getElem?_eq_none new]
    cases s - c.sessions.length <;> rfl

theorem pending_fail (other : SessionId) (failure : Option String)
    (faults : List (Operation × BrokerError)) :
    (c.fail other failure faults).pending s = c.pending s := by
  unfold pending fail
  simp only [List.getElem?_modify]
  cases c.sessions[s]? with
  | none => rfl
  | some session => by_cases same : other = s <;> simp [same]

theorem pending_eq {session : Session} (hs : c.sessions[s]? = some session) :
    c.pending s = session.pending := by
  simp [pending, hs]

theorem pending_apply {session : Session} (hs : c.sessions[s]? = some session)
    (request : Request) (other : SessionId) :
    (c.apply s session request).pending other =
      if s = other then (request.effect session c.broker).1.pending else c.pending other := by
  unfold pending apply
  by_cases same : s = other
  · subst other
    simp [List.getElem?_set_self (List.getElem?_eq_some_iff.mp hs).1]
  · simp [List.getElem?_set_ne same, same]

end Cluster

namespace Chronicle

variable {past : Chronicle} {c : Cluster}

theorem buffer_called (caller : Option Nat) (s other : SessionId) (producer : String)
    (request : Request) :
    buffer (.called caller s producer request (.ok ()) :: past) other =
      if s = other then request.rebuffer caller (past.buffer other) else past.buffer other := rfl

theorem buffer_called_ne {s other : SessionId} (h : s ≠ other) (caller : Option Nat)
    (producer : String) (request : Request) (reply : Reply) :
    buffer (.called caller s producer request reply :: past) other = past.buffer other := by
  cases reply with
  | error error => rfl
  | ok _ => rw [buffer_called, if_neg h]

theorem postings_called (caller : Option Nat) (s : SessionId) (producer : String)
    (request : Request) (reply : Reply) :
    postings (.called caller s producer request reply :: past) =
      past.postings ++ if request = .commit ∧ reply = .ok () then
        (past.buffer s).map (Entry.post caller producer) else [] := by
  cases request <;> cases reply <;> simp [postings, Note.posts]

theorem mem_postings_called {caller : Option Nat} {s : SessionId} {producer : String}
    {request : Request} {reply : Reply} {p : Posting}
    (hp : p ∈ postings (.called caller s producer request reply :: past)) :
    p ∈ past.postings ∨
      request = .commit ∧ ∃ e ∈ past.buffer s, p = Entry.post caller producer e := by
  rw [postings_called] at hp
  rcases List.mem_append.mp hp with old | new
  · exact .inl old
  · split at new
    · rename_i commits
      obtain ⟨e, he, rfl⟩ := List.mem_map.mp new
      exact .inr ⟨commits.1, e, he, rfl⟩
    · simp at new

@[simp] theorem postings_ordered (publish : Nat) (topic : String) (payload : ByteArray) :
    postings (.ordered publish topic payload :: past) = past.postings := by
  simp [postings, Note.posts]

@[simp] theorem postings_missed (caller : Option Nat) (request : Request) (reply : Reply) :
    postings (.missed caller request reply :: past) = past.postings := by
  simp [postings, Note.posts]

namespace Agrees

theorem empty (partitions : Nat) : Agrees [] (Cluster.empty partitions) where
  buffers s := by simp [buffer, Cluster.pending, Cluster.empty]
  closed s session hs := by simp [Cluster.empty] at hs
  inBounds := Topics.empty_inBounds partitions
  log topic := by
    simp [Cluster.empty, Broker.empty, Topics.records, Topics.log, Topics.empty, TopicLog.records,
      TopicLog.empty, postings]

theorem of_pending {next : Cluster} (h : past.Agrees c) (hp : ∀ s, next.pending s = c.pending s)
    (hc : ∀ (s : SessionId) (session : Session), next.sessions[s]? = some session →
      session.closed = true → session.pending = [])
    (ht : next.broker.topics = c.broker.topics) : past.Agrees next where
  buffers s := (h.buffers s).trans (hp s).symm
  closed := hc
  inBounds := ht ▸ h.inBounds
  log := ht ▸ h.log

theorem cons {note : Note} (h : past.Agrees c)
    (hb : ∀ s, buffer (note :: past) s = past.buffer s)
    (hp : postings (note :: past) = past.postings) : Agrees (note :: past) c where
  buffers s := by rw [hb, h.buffers]
  closed := h.closed
  inBounds := h.inBounds
  log topic := by rw [hp]; exact h.log topic

theorem join (h : past.Agrees c) (id : String) : past.Agrees (c.join id) := by
  refine h.of_pending (fun s => c.pending_join s id) ?_ rfl
  intro s session hs closed
  rcases List.mem_append.mp (List.mem_of_getElem? hs) with old | new
  · obtain ⟨other, ho⟩ := List.mem_iff_getElem?.mp old
    exact h.closed other session ho closed
  · obtain rfl := List.eq_of_mem_singleton new
    rfl

theorem adjust (h : past.Agrees c) (offline : Bool) (refusals : Nat)
    (faults : List (Operation × BrokerError)) : past.Agrees (c.adjust offline refusals faults) :=
  h.of_pending (fun _ => rfl) h.closed rfl

theorem fail (h : past.Agrees c) (s : SessionId) (failure : Option String)
    (faults : List (Operation × BrokerError)) : past.Agrees (c.fail s failure faults) := by
  refine h.of_pending (fun other => c.pending_fail other s failure faults) ?_ rfl
  intro other session hs closed
  simp only [Cluster.fail, List.getElem?_modify, Option.map_eq_map, Option.map_eq_some_iff] at hs
  obtain ⟨old, ho, rfl⟩ := hs
  have kept := h.closed other old ho
  by_cases same : s = other
  · simpa [same] using kept (by simpa [same] using closed)
  · simpa [same] using kept (by simpa [same] using closed)

theorem apply (h : past.Agrees c) {s : SessionId} {session : Session}
    (hs : c.sessions[s]? = some session) {request : Request}
    (hr : session.closed = true → request = .init ∨ request = .close) (caller : Option Nat) :
    Agrees (.called caller s session.id request (.ok ()) :: past) (c.apply s session request) where
  buffers other := by
    rw [buffer_called, c.pending_apply s hs]
    split
    · subst other
      exact request.rebuffer_record caller c.broker ((h.buffers s).trans (c.pending_eq s hs))
        (h.closed s session hs)
    · exact h.buffers other
  closed other new hn closed := by
    rcases eq_or_ne s other with rfl | different
    · obtain rfl := Option.some.inj ((Cluster.apply_self hs request).symm.trans hn)
      cases request with
      | init => exact h.closed s session hs closed
      | close =>
        simp only [Request.effect] at closed ⊢
        split
        · exact h.closed s session hs ‹_›
        · rfl
      -- No other request succeeds on a session that is closed.
      | begin | send | commit | abort => exact absurd (hr closed) (by simp)
    · exact h.closed other new ((c.apply_ne different session request).symm.trans hn) closed
  inBounds := by
    cases request with
    | commit => exact Topics.appendAll_inBounds h.inBounds _ _
    | _ => exact h.inBounds
  log topic := by
    rw [postings_called]
    cases request with
    | commit =>
      have new := Topics.appendAll_records h.inBounds session.id topic session.pending
      refine new.trans (((h.log topic).append_right _).trans ?_)
      have held := (h.buffers s).trans (c.pending_eq s hs)
      simp only [and_self, ↓reduceIte, List.filter_append, List.map_append, ← held,
        List.filter_map, List.map_map]
      rfl
    | init | begin | send | abort | close =>
      simp only [reduceCtorEq, false_and, ↓reduceIte, List.append_nil]
      exact h.log topic

theorem perform (h : past.Agrees c) (caller : Option Nat) (s : SessionId) (request : Request) :
    Agrees (.called caller s ((c.producer? s).getD "") request (c.perform s request).1 :: past)
      (c.perform s request).2 := by
  rcases c.perform_cases s request with ⟨error, failure, faults, hf⟩ | ⟨session, hs, hr, ha⟩
  · rw [hf]
    refine (h.fail s failure faults).cons (fun _ => rfl) ?_
    simp [postings_called]
  · rw [ha]
    have named : (c.producer? s).getD "" = session.id := by simp [Cluster.producer?, hs]
    rw [named]
    exact h.apply hs hr caller

theorem buffer_length (h : past.Agrees c) : past.buffer c.sessions.length = [] := by
  have nothing := h.buffers c.sessions.length
  simpa [Cluster.pending] using nothing

/-- Whatever happens, the chronicle goes on to agree with the broker. -/
theorem step {w next : World} {note : Option Note} (h : past.Agrees w.cluster)
    (hstep : w.Step note next) : Agrees (note.toList ++ past) next.cluster := by
  cases hstep with
  | same | tick | crashed | flagged | forgot | spoiled => exact h
  | @begun base task note hb =>
    rw [World.addTask_cluster, hb.cluster]
    rcases hb.note_cases with rfl | ⟨topic, payload, rfl⟩
    · exact h
    · exact h.cons (fun _ => rfl) (postings_ordered _ _ _)
  | @told index task service signal note ht hs told =>
    rw [World.signal_cluster hs]
    rcases told.note_cases with rfl | ⟨request, reply, rfl⟩
    · exact h
    · exact h.cons (fun _ => rfl) (postings_missed _ _ _)
  | opened | joined => exact h.join _
  | refused | adjusted => exact h.adjust _ _ _
  | answered ht hd ha => exact h.perform _ _ _
  | requested hl request => exact h.perform _ _ _

end Agrees

end Chronicle

theorem World.Step.posting_cases {w next : World} {note : Option Note} (h : w.Step note next)
    {past : Chronicle} {p : Posting} (hp : p ∈ Chronicle.postings (note.toList ++ past)) :
    p ∈ past.postings ∨
    (∃ index task session id, w.tasks[index]? = some task ∧ Asks task.activity session id .commit ∧
      ∃ e ∈ past.buffer session,
        p = e.post (caller index task) ((w.cluster.producer? session).getD "")) ∨
    ∃ slot session, w.sessions.lookup slot = some session ∧
      ∃ e ∈ past.buffer session, p = e.post none ((w.cluster.producer? session).getD "") := by
  cases h with
  | @begun base task note hb =>
    rcases hb.note_cases with rfl | ⟨topic, payload, rfl⟩
    · exact .inl hp
    · exact .inl (by simpa using hp)
  | told ht hs told =>
    rcases told.note_cases with rfl | ⟨request, reply, rfl⟩
    · exact .inl hp
    · exact .inl (by simpa using hp)
  | @answered index task session id request limit ht hd ha =>
    rcases Chronicle.mem_postings_called hp with old | ⟨rfl, e, he, rfl⟩
    · exact .inl old
    · exact .inr (.inl ⟨index, task, session, id, ht, asks_of_demand hd, e, he, rfl⟩)
  | @requested slot session hl request =>
    rcases Chronicle.mem_postings_called hp with old | ⟨rfl, e, he, rfl⟩
    · exact .inl old
    · exact .inr (.inr ⟨slot, session, hl, e, he, rfl⟩)
  | same | tick | opened | refused | crashed | flagged | adjusted | forgot | spoiled | joined =>
    exact .inl hp

end OutcomeRelay
