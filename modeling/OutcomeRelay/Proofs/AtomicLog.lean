import OutcomeRelay.Proofs.Fencing

set_option autoImplicit false

namespace OutcomeRelay.ClusterRun

variable (r : ClusterRun)

theorem extend_one_cluster (a : Action) : (r.extend [a]).cluster = r.cluster.act a :=
  r.extend_cluster [a]

theorem failed_commit {s : SessionId} (failed : (r.cluster.perform s .commit).1 ≠ .ok ()) :
    (r.extend [.request s .commit]).cluster.broker.topics = r.cluster.broker.topics ∧
      (∀ t, (r.extend [.request s .commit]).cluster.pending t = r.cluster.pending t) ∧
      ∀ t, (r.extend [.request s .commit]).transcript.held t = r.transcript.held t := by
  rcases r.cluster.perform_cases s .commit with ⟨error, failure, faults, h⟩ | ⟨session, -, -, h⟩
  · refine ⟨?_, fun t => ?_, fun t => ?_⟩
    · rw [extend_one_cluster]
      simp only [Cluster.act, h]
      rfl
    · rw [extend_one_cluster]
      simp only [Cluster.act, h, Cluster.pending_fail]
    · rw [extend_transcript]
      exact Transcript.held_cons_error (by rw [h])
  · exact absurd (by rw [h]) failed

variable {r} {s : SessionId} {m : Sent}

theorem opened_of_held (h : m ∈ r.transcript.held s) : s < r.cluster.sessions.length := by
  by_contra beyond
  simp [r.describes.unopened s (Nat.le_of_not_lt beyond)] at h

theorem unseen_of_shutOut (h : m ∈ r.transcript.held s) (a : Action) {later : List Action}
    (uncommitted : a ≠ .request s .commit ∨ (r.cluster.perform s .commit).1 ≠ .ok ())
    (shutOut : (r.cluster.act a).ShutOut s later) :
    m ∉ (r.extend (a :: later)).transcript.shown := by
  rw [extend_transcript]
  refine shutOut.unseen (Transcript.session_of_held h) fun visible => ?_
  cases a with
  | request t request =>
    rcases Transcript.mem_shown_cons visible with old | ⟨commit, ok, held⟩
    · exact Transcript.not_shown_of_held h old
    · obtain rfl : request = .commit := commit
      obtain rfl : t = s := (Transcript.session_of_held held).symm.trans
        (Transcript.session_of_held h)
      exact uncommitted.elim (absurd rfl) (absurd ok)
  | _ => exact Transcript.not_shown_of_held h visible

theorem unseen_of_aborted (h : m ∈ r.transcript.held s)
    (aborted : (r.cluster.perform s .abort).1 = .ok ()) (later : List Action) :
    m ∉ (r.extend (.request s .abort :: later)).transcript.shown := by
  have own := Transcript.session_of_held h
  obtain ⟨newer, extended⟩ := (r.cluster.act (.request s .abort)).exists_transcript_eq
    (⟨s, (r.cluster.producer? s).getD "", .abort, .ok ()⟩ :: r.transcript) later
  have told : (r.extend (.request s .abort :: later)).transcript =
      newer ++ ⟨s, (r.cluster.producer? s).getD "", .abort, .ok ()⟩ :: r.transcript := by
    rw [extend_transcript, ← extended, ← aborted]
    rfl
  rw [told]
  refine Transcript.not_shown_of_dropped ?_ ?_ ?_ newer
  · simp [Transcript.held, own]
  · rw [Transcript.shown, Transcript.logged_cons_eq (by simp)]
    exact Transcript.not_shown_of_held h
  · exact Nat.lt_succ_of_lt (Transcript.number_of_held h)

variable (r)

/-- The log is made of whole transactions, of which each was committed once. -/
structure Atomic : Prop where
  log : r.cluster.broker.topics = (Topics.empty r.partitions).post r.transcript.logged
  readers : ∀ topic, ((r.cluster.broker.topics.records topic).map StoredRecord.content).Perm
    ((r.transcript.logged.filter (·.sent.topic = topic)).map Logged.content)
  producers : ∀ e ∈ r.transcript.logged, r.cluster.producer? e.sent.session = some e.producer
  buffers : ∀ (s : SessionId) (session : Session), r.cluster.sessions[s]? = some session →
    session.closed = false → session.pending = (r.transcript.held s).map Sent.record
  once : r.transcript.shown.Nodup
  /-- Nothing is visible before its own session has committed it. -/
  committed : ∀ m ∈ r.transcript.shown, ∃ later producer earlier,
    r.transcript = later ++ ⟨m.session, producer, .commit, .ok ()⟩ :: earlier ∧
      m ∈ Transcript.held earlier m.session
  uncommitted : ∀ s, ∀ m ∈ r.transcript.held s, m ∉ r.transcript.shown
  /-- A failed commit can be repeated. -/
  retry : ∀ s, (r.cluster.perform s .commit).1 ≠ .ok () →
    (r.extend [.request s .commit]).cluster.broker.topics = r.cluster.broker.topics ∧
    (∀ t, (r.extend [.request s .commit]).cluster.pending t = r.cluster.pending t) ∧
    ∀ t, (r.extend [.request s .commit]).transcript.held t = r.transcript.held t
  aborted : ∀ s, (r.cluster.perform s .abort).1 = .ok () → ∀ m ∈ r.transcript.held s, ∀ later,
    m ∉ (r.extend (.request s .abort :: later)).transcript.shown
  closed : ∀ s, ∀ m ∈ r.transcript.held s, ∀ later,
    m ∉ (r.extend (.request s .close :: later)).transcript.shown
  /-- What a session held that is answered that it failed for good is lost, even if it is registered
      again later. -/
  failed : ∀ (s : SessionId) (request : Request) (reason : String),
    request.isTransactional = true →
    (r.cluster.perform s request).1 = .error (.fatal reason) → ∀ m ∈ r.transcript.held s, ∀ later,
    m ∉ (r.extend (.request s request :: later)).transcript.shown
  /-- What a session held that is fenced is lost, unless it is registered again in time. -/
  fenced : ∀ s t, s ≠ t → r.cluster.producer? s = r.cluster.producer? t →
    (r.cluster.perform t .init).1 = .ok () →
    ∀ later, ¬ (r.cluster.act (.request t .init)).Renews s later → ∀ m ∈ r.transcript.held s,
    m ∉ (r.extend (.request t .init :: later)).transcript.shown

/-- The session that was fenced is registered again before it commits, for which it needs two
attempts. -/
def renewal : List Action := [.request 0 .init, .request 0 .commit, .request 0 .commit]

end OutcomeRelay.ClusterRun
