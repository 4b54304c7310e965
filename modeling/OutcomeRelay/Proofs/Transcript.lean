import OutcomeRelay.Proofs.ClusterRun

set_option autoImplicit false

/-!
# The log of a transcript

A transcript says which records each session has sent and not yet committed, and which records the
commits have put into the log, one transaction after the other. Every record that was sent is told
apart from all others by a number. Main statement: in every run the log of the broker is the one
that the transcript describes, and so is what each open session keeps for its commit.
-/

namespace OutcomeRelay

/-- A record that a session has sent. Its number says how many requests had been answered before. -/
structure Sent where
  number : Nat
  session : SessionId
  topic : String
  payload : ByteArray
deriving DecidableEq

/-- A record of the log, with the transactional id of the session that committed it. -/
structure Logged where
  producer : String
  sent : Sent
deriving DecidableEq

def Sent.record (m : Sent) : String × ByteArray := (m.topic, m.payload)

def Logged.content (e : Logged) : String × ByteArray := (e.producer, e.sent.payload)

namespace Transcript

/-- The records that a session has sent since its own last begin, commit or abort, in the order in
which they were sent. Only what succeeded counts. -/
def held : Transcript → SessionId → List Sent
  | [], _ => []
  | ⟨session, _, request, reply⟩ :: past, s =>
    if session = s ∧ reply = .ok () then
      match request with
      | .send topic payload => held past s ++ [⟨past.length, s, topic, payload⟩]
      | .begin => []
      | .commit => []
      | .abort => []
      | .init => held past s
      | .close => held past s
    else held past s

def logged : Transcript → List Logged
  | [] => []
  | ⟨session, producer, request, reply⟩ :: past =>
    if request = .commit ∧ reply = .ok () then
      logged past ++ (held past session).map (Logged.mk producer)
    else logged past

def shown (past : Transcript) : List Sent := past.logged.map Logged.sent

variable {past : Transcript} {s : SessionId} {m : Sent}

/-! ### One more request -/

theorem held_cons_ne {a : Answered} (h : a.session ≠ s) : held (a :: past) s = past.held s := by
  simp [held, h]

theorem held_cons_error {a : Answered} {error : BrokerError} (h : a.reply = .error error) :
    held (a :: past) s = past.held s := by
  simp [held, h]

theorem held_cons_cases (a : Answered) (past : Transcript) (s : SessionId) :
    held (a :: past) s = past.held s ∨ held (a :: past) s = [] ∨
      ∃ topic payload, held (a :: past) s = past.held s ++ [⟨past.length, s, topic, payload⟩] := by
  obtain ⟨session, producer, request, reply⟩ := a
  by_cases own : session = s ∧ reply = .ok ()
  · cases request with
    | send topic payload => exact .inr (.inr ⟨topic, payload, by simp [held, own]⟩)
    | begin | commit | abort => exact .inr (.inl (by simp [held, own]))
    | init | close => exact .inl (by simp [held])
  · exact .inl (by simp [held, own])

theorem logged_cons_commit (s : SessionId) (producer : String) :
    logged (⟨s, producer, .commit, .ok ()⟩ :: past) =
      past.logged ++ (past.held s).map (Logged.mk producer) := by
  simp [logged]

theorem logged_cons_eq {a : Answered} (h : ¬ (a.request = .commit ∧ a.reply = .ok ())) :
    logged (a :: past) = past.logged := by
  simp [logged, h]

/-- The log grows only by the records that a session held, which are then held no longer. -/
theorem logged_cons_cases (a : Answered) (past : Transcript) :
    logged (a :: past) = past.logged ∨
      (a.request = .commit ∧ a.reply = .ok () ∧
        logged (a :: past) = past.logged ++ (past.held a.session).map (Logged.mk a.producer) ∧
        held (a :: past) a.session = []) := by
  obtain ⟨session, producer, request, reply⟩ := a
  by_cases commits : request = .commit ∧ reply = .ok ()
  · obtain ⟨rfl, rfl⟩ := commits
    exact .inr ⟨rfl, rfl, logged_cons_commit session producer, by simp [held]⟩
  · exact .inl (logged_cons_eq commits)

theorem mem_shown_cons {a : Answered} (h : m ∈ shown (a :: past)) :
    m ∈ past.shown ∨ a.request = .commit ∧ a.reply = .ok () ∧ m ∈ past.held a.session := by
  rcases logged_cons_cases a past with same | ⟨commit, ok, more, -⟩
  · exact .inl (by simpa [shown, same] using h)
  · rw [shown, more, List.map_append, List.map_map] at h
    rcases List.mem_append.mp h with old | new
    · exact .inl old
    · exact .inr ⟨commit, ok, by simpa using new⟩

/-! ### Where a record can be -/

theorem session_of_held (h : m ∈ past.held s) : m.session = s := by
  induction past with
  | nil => simp [held] at h
  | cons a past ih =>
    rcases held_cons_cases a past s with same | empty | ⟨topic, payload, more⟩
    · exact ih (same ▸ h)
    · simp [empty] at h
    · rcases List.mem_append.mp (more ▸ h) with old | new
      · exact ih old
      · rw [List.mem_singleton.mp new]

theorem number_of_held (h : m ∈ past.held s) : m.number < past.length := by
  induction past with
  | nil => simp [held] at h
  | cons a past ih =>
    rw [List.length_cons]
    rcases held_cons_cases a past s with same | empty | ⟨topic, payload, more⟩
    · exact Nat.lt_succ_of_lt (ih (same ▸ h))
    · simp [empty] at h
    · rcases List.mem_append.mp (more ▸ h) with old | new
      · exact Nat.lt_succ_of_lt (ih old)
      · rw [List.mem_singleton.mp new]
        exact Nat.lt_succ_self _

theorem number_of_shown (h : m ∈ past.shown) : m.number < past.length := by
  induction past with
  | nil => simp [shown, logged] at h
  | cons a past ih =>
    rw [List.length_cons]
    rcases mem_shown_cons h with old | ⟨-, -, held⟩
    · exact Nat.lt_succ_of_lt (ih old)
    · exact Nat.lt_succ_of_lt (number_of_held held)

theorem held_nodup (past : Transcript) (s : SessionId) : (past.held s).Nodup := by
  induction past with
  | nil => exact List.nodup_nil
  | cons a past ih =>
    rcases held_cons_cases a past s with same | empty | ⟨topic, payload, more⟩
    · exact same ▸ ih
    · simp [empty]
    · rw [more]
      refine ih.append (List.nodup_singleton _) fun m old new => ?_
      have below := number_of_held old
      rw [List.mem_singleton.mp new] at below
      exact lt_irrefl _ below

theorem not_shown_of_held (h : m ∈ past.held s) : m ∉ past.shown := by
  induction past with
  | nil => simp [held] at h
  | cons a past ih =>
    intro visible
    rcases mem_shown_cons visible with old | ⟨commit, ok, held⟩
    · rcases held_cons_cases a past s with same | empty | ⟨topic, payload, more⟩
      · exact ih (same ▸ h) old
      · simp [empty] at h
      · rcases List.mem_append.mp (more ▸ h) with before | new
        · exact ih before old
        · have below := number_of_shown old
          rw [List.mem_singleton.mp new] at below
          exact lt_irrefl _ below
    · -- Who has just committed holds nothing.
      obtain rfl : a.session = s := (session_of_held held).symm.trans (session_of_held h)
      obtain ⟨session, producer, request, reply⟩ := a
      obtain rfl : request = .commit := commit
      obtain rfl : reply = .ok () := ok
      simp [Transcript.held] at h

theorem shown_nodup (past : Transcript) : past.shown.Nodup := by
  induction past with
  | nil => exact List.nodup_nil
  | cons a past ih =>
    rcases logged_cons_cases a past with same | ⟨-, -, more, -⟩
    · simpa [shown, same] using ih
    · have sent : (Logged.sent ∘ Logged.mk a.producer) = id := rfl
      rw [shown, more, List.map_append, List.map_map, sent, List.map_id]
      exact ih.append (held_nodup past a.session) fun m old held => not_shown_of_held held old

/-- A record is in the log because a commit of its own session succeeded while that session held
it. -/
theorem committed_of_shown (h : m ∈ past.shown) : ∃ later producer earlier,
    past = later ++ ⟨m.session, producer, .commit, .ok ()⟩ :: earlier ∧
      m ∈ held earlier m.session := by
  induction past with
  | nil => simp [shown, logged] at h
  | cons a past ih =>
    rcases mem_shown_cons h with old | ⟨commit, ok, held⟩
    · obtain ⟨later, producer, earlier, rfl, held⟩ := ih old
      exact ⟨a :: later, producer, earlier, rfl, held⟩
    · obtain ⟨session, producer, request, reply⟩ := a
      obtain rfl : session = m.session := (session_of_held held).symm
      obtain rfl : request = .commit := commit
      obtain rfl : reply = .ok () := ok
      exact ⟨[], producer, past, rfl, held⟩

theorem not_shown_of_dropped (gone : m ∉ past.held m.session) (unseen : m ∉ past.shown)
    (old : m.number < past.length) (later : Transcript) : m ∉ (later ++ past).shown := by
  suffices lost : m ∉ (later ++ past).held m.session ∧ m ∉ (later ++ past).shown from lost.2
  induction later with
  | nil => exact ⟨gone, unseen⟩
  | cons a later ih =>
    obtain ⟨gone', unseen'⟩ := ih
    constructor
    · intro held
      rcases held_cons_cases a (later ++ past) m.session with same | empty | ⟨topic, payload, more⟩
      · exact gone' (same ▸ held)
      · simp [List.cons_append, empty] at held
      · rcases List.mem_append.mp (more ▸ held) with before | new
        · exact gone' before
        · have numbered := congrArg Sent.number (List.mem_singleton.mp new)
          simp only [List.length_append] at numbered
          omega
    · intro visible
      rcases mem_shown_cons visible with before | ⟨-, -, held⟩
      · exact unseen' before
      · exact gone' (session_of_held held ▸ held)

end Transcript

/-! ### The log of the broker -/

namespace Topics

def post (t : Topics) (entries : List Logged) : Topics :=
  entries.foldl (fun t e => t.append e.producer e.sent.topic e.sent.payload) t

theorem post_append (t : Topics) (entries more : List Logged) :
    t.post (entries ++ more) = (t.post entries).post more := List.foldl_append

theorem post_commit (t : Topics) (producer : String) (records : List Sent) :
    t.post (records.map (Logged.mk producer)) = t.appendAll producer (records.map Sent.record) := by
  simp only [post, appendAll, List.foldl_map, Sent.record]

theorem post_records {t : Topics} (h : t.InBounds) (entries : List Logged) (name : String) :
    (((t.post entries).records name).map StoredRecord.content).Perm
      ((t.records name).map StoredRecord.content ++
        (entries.filter (·.sent.topic = name)).map Logged.content) := by
  induction entries generalizing t with
  | nil => simp [post]
  | cons e entries ih =>
    have head := append_records h e.producer e.sent.topic name e.sent.payload
    have tail := ih (append_inBounds h e.producer e.sent.topic e.sent.payload)
    refine tail.trans ((head.append_right _).trans ?_)
    by_cases same : e.sent.topic = name <;> simp [same, Logged.content]

end Topics

/-- A transcript describes a cluster: its log and what its open sessions keep for their commit. -/
structure Transcript.Describes (past : Transcript) (partitions : Nat) (c : Cluster) : Prop where
  log : c.broker.topics = (Topics.empty partitions).post past.logged
  buffers : ∀ (s : SessionId) (session : Session), c.sessions[s]? = some session →
    session.closed = false → session.pending = (past.held s).map Sent.record
  unopened : ∀ s, c.sessions.length ≤ s → past.held s = []
  producers : ∀ e ∈ past.logged, c.producer? e.sent.session = some e.producer

namespace Transcript.Describes

variable {past : Transcript} {partitions : Nat} {c : Cluster}

theorem empty (partitions : Nat) : Describes [] partitions (Cluster.empty partitions) where
  log := rfl
  buffers s session hs := by simp [Cluster.empty] at hs
  unopened s _ := rfl
  producers := by simp [logged]

theorem join (h : past.Describes partitions c) (id : String) :
    past.Describes partitions (c.join id) where
  log := h.log
  buffers s session hs unclosed := by
    rcases Nat.lt_or_ge s c.sessions.length with old | new
    · rw [Cluster.join, List.getElem?_append_left old] at hs
      exact h.buffers s session hs unclosed
    · rw [Cluster.join, List.getElem?_append_right new] at hs
      obtain rfl := List.mem_singleton.mp (List.mem_of_getElem? hs)
      simp [h.unopened s new]
  unopened s beyond := h.unopened s (by simp [Cluster.join] at beyond; omega)
  producers e he := c.producer?_join (h.producers e he) id

variable {s : SessionId} {request : Request}

theorem failed (h : past.Describes partitions c) {error : BrokerError} {failure : Option String}
    {faults : List (Operation × BrokerError)}
    (answer : c.perform s request = (.error error, c.fail s failure faults)) :
    past.Describes partitions (c.fail s failure faults) where
  log := h.log
  buffers t session ht unclosed := by
    simp only [Cluster.fail, List.getElem?_modify] at ht
    cases hc : c.sessions[t]? with
    | none => simp [hc] at ht
    | some old =>
      have kept := h.buffers t old hc
      by_cases same : s = t
      · obtain rfl : { old with failure := failure } = session := by simpa [hc, same] using ht
        exact kept unclosed
      · obtain rfl : old = session := by simpa [hc, same] using ht
        exact kept unclosed
  unopened t beyond := h.unopened t (by simpa [Cluster.fail] using beyond)
  producers e he := by
    have kept := c.producer?_perform s e.sent.session request
    rw [answer] at kept
    exact kept.trans (h.producers e he)

theorem done (h : past.Describes partitions c) {session : Session}
    (hs : c.sessions[s]? = some session)
    (unclosed : session.closed = true → request = .init ∨ request = .close)
    (answer : c.perform s request = (.ok (), c.apply s session request)) :
    Describes (⟨s, session.id, request, .ok ()⟩ :: past) partitions
      (c.apply s session request) where
  log := by
    cases request with
    | commit =>
      have stillOpen : session.closed = false := by simpa using unclosed
      rw [logged_cons_commit, Topics.post_append, ← h.log, Topics.post_commit,
        ← h.buffers s session hs stillOpen]
      rfl
    | _ => exact h.log.trans (by rw [logged_cons_eq (by simp)])
  buffers t other ht stillOpen := by
    by_cases same : s = t
    · subst t
      obtain rfl := Option.some.inj ((Cluster.apply_self hs request).symm.trans ht)
      cases request with
      | close =>
        by_cases closed : session.closed = true <;> simp [Request.effect, closed] at stillOpen
      | init =>
        have kept := h.buffers s session hs stillOpen
        simpa [held, Request.effect] using kept
      | send topic payload =>
        have kept := h.buffers s session hs stillOpen
        simp [held, Request.effect, kept, Sent.record]
      | begin | commit | abort => simp [held, Request.effect]
    · rw [held_cons_ne same]
      exact h.buffers t other ((c.apply_ne same session request).symm.trans ht) stillOpen
  unopened t beyond := by
    have here : s < c.sessions.length := (List.getElem?_eq_some_iff.mp hs).1
    have beyond' : c.sessions.length ≤ t := by simpa [Cluster.apply] using beyond
    rw [held_cons_ne (Nat.ne_of_lt (here.trans_le beyond'))]
    exact h.unopened t beyond'
  producers e he := by
    have kept := c.producer?_perform s e.sent.session request
    rw [answer] at kept
    rw [kept]
    rcases logged_cons_cases ⟨s, session.id, request, .ok ()⟩ past with same | ⟨-, -, more, -⟩
    · exact h.producers e (same ▸ he)
    · rcases List.mem_append.mp (more ▸ he) with old | new
      · exact h.producers e old
      · obtain ⟨m, hm, rfl⟩ := List.mem_map.mp new
        simp [session_of_held hm, Cluster.producer?, hs]

theorem step {note : Option Answered} {next : Cluster} (h : past.Describes partitions c)
    (step : c.Acts note next) : Describes (note.toList ++ past) partitions next := by
  cases step with
  | adjusted => exact ⟨h.log, h.buffers, h.unopened, h.producers⟩
  | joined id => exact h.join id
  | failed s request answer =>
    have kept := h.failed answer
    refine ⟨kept.log.trans ?_, fun t session ht unclosed => ?_, fun t beyond => ?_, fun e he => ?_⟩
    · simp [logged]
    · simpa [held] using kept.buffers t session ht unclosed
    · simpa [held] using kept.unopened t beyond
    · exact kept.producers e (by simpa [logged] using he)
  | done s request hs unclosed answer => exact h.done hs unclosed answer

end Transcript.Describes

namespace ClusterRun

variable (r : ClusterRun)

theorem describes : r.transcript.Describes r.partitions r.cluster := by
  refine r.keeps (P := fun past c => past.Describes r.partitions c) (.empty _) ?_
  exact fun _ _ _ _ h step => h.step step

theorem visible (topic : String) :
    ((r.cluster.broker.topics.records topic).map StoredRecord.content).Perm
      ((r.transcript.logged.filter (·.sent.topic = topic)).map Logged.content) := by
  have posted := Topics.post_records (Topics.empty_inBounds r.partitions) r.transcript.logged topic
  rw [r.describes.log]
  simpa [Topics.records, Topics.log, Topics.empty, TopicLog.records, TopicLog.empty] using posted

end ClusterRun

end OutcomeRelay
