import OutcomeRelay.Proofs.LineNotes

set_option autoImplicit false

namespace OutcomeRelay

namespace Operation

def isEnding : Operation → Bool
  | commit | abort => true
  | _ => false

end Operation

namespace CallLine

variable {l : CallLine} {j : Nat}

def succeeded (l : CallLine) (j : Nat) : Bool :=
  l.calls[j]?.any fun call => call.outcome = some (.replied (.ok ()))

theorem succeeded_iff :
    l.succeeded j = true ↔
      ∃ operation, l.calls[j]? = some ⟨operation, some (.replied (.ok ()))⟩ := by
  unfold succeeded
  cases l.calls[j]? with
  | none => simp
  | some call => cases call; simp

theorem lt_of_succeeded (h : l.succeeded j = true) : j < l.calls.length := by
  obtain ⟨operation, called⟩ := succeeded_iff.mp h
  exact (List.getElem?_eq_some_iff.mp called).1

theorem succeeded_of_issue {operation : Operation} (h : (l.issue operation).succeeded j = true) :
    l.succeeded j = true := by
  obtain ⟨other, called⟩ := succeeded_iff.mp h
  rcases call_of_issue called with older | ⟨-, unended⟩
  · exact succeeded_iff.mpr ⟨other, older⟩
  · cases unended

theorem succeeded_of_finish {call : Nat} {outcome : CallOutcome}
    (h : (l.finish call outcome).succeeded j = true) : l.succeeded j = true ∨ j = call := by
  obtain ⟨operation, called⟩ := succeeded_iff.mp h
  rcases call_of_finish called with same | ⟨rfl, -, -⟩
  · exact .inl (succeeded_iff.mpr ⟨operation, same⟩)
  · exact .inr rfl

end CallLine

def LineNote.begins : LineNote → Bool
  | .answered .begin (.ok ()) _ => true
  | _ => false

namespace LineNotes

def transactions (past : LineNotes) : Nat := past.countP LineNote.begins

/-- The calls that were to end transaction `n`, which begins with begin number `n`. -/
def endings (n : Nat) : LineNotes → List Nat
  | [] => []
  | .issued call operation :: past =>
    if operation.isEnding ∧ transactions past = n then call :: endings n past else endings n past
  | _ :: past => endings n past

def successes (n : Nat) (past : LineNotes) : List Nat := (past.endings n).filter past.line.succeeded

/-- The call that is left behind with a note: when another call is issued, or when a send or a close
has waited for it. -/
def passed? (past : LineNotes) : LineNote → Option Nat
  | .issued _ _ => past.line.inFlight
  | .answered request _ source => if request.isCall then none else source
  | .ended _ _ => none

def passed : LineNotes → List Nat
  | [] => []
  | n :: past => (passed? past n).toList ++ passed past

variable {past : LineNotes} {n j : Nat}

theorem mem_endings_cons {note : LineNote} (h : j ∈ endings n (note :: past)) :
    j ∈ past.endings n ∨
      ∃ operation, note = .issued j operation ∧ operation.isEnding = true ∧
        past.transactions = n := by
  cases note with
  | issued call operation =>
    simp only [endings] at h
    split at h
    · obtain ⟨ending, here⟩ := ‹_ ∧ _›
      rcases List.mem_cons.mp h with rfl | older
      · exact .inr ⟨operation, rfl, ending, here⟩
      · exact .inl older
    · exact .inl h
  | ended | answered => exact .inl h

theorem transactions_cons_le (note : LineNote) (past : LineNotes) :
    past.transactions ≤ transactions (note :: past) := by
  simp [transactions, List.countP_cons]

theorem transactions_cons_of_begins {note : LineNote} (h : note.begins = true) :
    transactions (note :: past) = past.transactions + 1 := by
  simp [transactions, h]

theorem transactions_cons_of_not_begins {note : LineNote} (h : note.begins = false) :
    transactions (note :: past) = past.transactions := by
  simp [transactions, h]

end LineNotes

namespace Status

variable {s : Status} {operation : Operation}

theorem isOpen_of_ending (permitted : s.permits operation = true)
    (ending : operation.isEnding = true) : s.IsOpen := by
  cases operation with
  | commit => exact .inl (by simpa [permits] using permitted)
  | abort => simpa [permits, IsOpen] using permitted
  | _ => cases ending

theorem not_isOpen_of_ending (permitted : s.permits operation = true)
    (ending : operation.isEnding = true) : ¬ (s.after operation (.ok ())).IsOpen := by
  have isOpen := isOpen_of_ending permitted ending
  cases operation with
  | commit | abort => rcases isOpen with rfl | rfl <;> simp [after, isTerminal, IsOpen]
  | _ => cases ending

end Status

namespace LineProducer

open LineNotes (transactions endings passed)

/-- Of the calls that were to end a transaction all but the last have failed or were left behind;
and while the transaction is open, its only success is the call in flight. -/
structure Concludes (past : LineNotes) (p : LineProducer) : Prop where
  known : ∀ n, ∀ j ∈ past.endings n, n ≤ past.transactions ∧
    ∃ operation outcome, operation.isEnding = true ∧ p.line.calls[j]? = some ⟨operation, outcome⟩
  sorted : ∀ n, (past.endings n).Pairwise (· > ·)
  earlier : ∀ n, ∀ j ∈ past.endings n, ∀ k ∈ past.endings n, j < k → p.line.succeeded j = true →
    j ∈ past.passed
  latest : ∀ n, ∀ j ∈ past.endings n, p.line.succeeded j = true → j ∉ past.passed →
    p.line.inFlight = some j ∨ (p.handle.status.IsOpen → n < past.transactions)

namespace Concludes

variable {past : LineNotes} {p q : LineProducer} {operation : Operation}

theorem calm (h : p.Concludes past) (line : q.line = p.line)
    (isOpen : q.handle.status.IsOpen → p.handle.status.IsOpen) : q.Concludes past where
  known n j mem := line ▸ h.known n j mem
  sorted := h.sorted
  earlier n j mem k memk less succeeded := h.earlier n j mem k memk less (line ▸ succeeded)
  latest n j mem succeeded kept := by
    rw [line] at succeeded ⊢
    exact (h.latest n j mem succeeded kept).imp_right fun late o => late (isOpen o)

theorem plain (h : p.Concludes past) {request : Request} {reply : Reply}
    (other : (LineNote.answered request reply none).begins = false) :
    p.Concludes (.answered request reply none :: past) where
  known n j mem := by
    rw [LineNotes.transactions_cons_of_not_begins other]
    exact h.known n j mem
  sorted := h.sorted
  earlier n j mem k memk less succeeded := by
    simpa [passed, LineNotes.passed?] using h.earlier n j mem k memk less succeeded
  latest n j mem succeeded kept := by
    rw [LineNotes.transactions_cons_of_not_begins other]
    exact h.latest n j mem succeeded (by simpa [passed, LineNotes.passed?] using kept)

theorem issue (h : p.Concludes past) (same : p.line = past.line)
    (isOpen : operation.isEnding = true → p.handle.status.IsOpen)
    (line : q.line = p.line.issue operation) (handle : q.handle = p.handle) :
    q.Concludes (.issued p.line.calls.length operation :: past) where
  known n j mem := by
    rw [LineNotes.transactions_cons_of_not_begins rfl, line]
    rcases LineNotes.mem_endings_cons mem with older | ⟨_, ⟨⟩, ending, here⟩
    · obtain ⟨least, other, outcome, ending, called⟩ := h.known n j older
      exact ⟨least, other, outcome, ending, CallLine.issue_older called operation⟩
    · exact ⟨Nat.le_of_eq here.symm, operation, none, ending, by simp⟩
  sorted n := by
    unfold endings
    split
    · refine List.pairwise_cons.mpr ⟨fun j mem => ?_, h.sorted n⟩
      obtain ⟨-, _, _, -, called⟩ := h.known n j mem
      exact (List.getElem?_eq_some_iff.mp called).1
    · exact h.sorted n
  earlier n j mem k memk less succeeded := by
    rw [line] at succeeded
    have old := CallLine.succeeded_of_issue succeeded
    rcases LineNotes.mem_endings_cons mem with older | ⟨_, ⟨⟩, _, _⟩
    · rcases LineNotes.mem_endings_cons memk with olderk | ⟨_, ⟨⟩, ending, rfl⟩
      · exact List.mem_append_right _ (h.earlier n j older k olderk less old)
      · -- The success of a call in flight is left behind now; any other belongs to the past.
        by_cases kept : j ∈ past.passed
        · exact List.mem_append_right _ kept
        · rcases h.latest _ j older old kept with flying | late
          · refine List.mem_append_left _ ?_
            simp [LineNotes.passed?, ← same, flying]
          · exact absurd (late (isOpen ending)) (Nat.lt_irrefl _)
    · exact absurd (CallLine.lt_of_succeeded old) (Nat.lt_irrefl _)
  latest n j mem succeeded kept := by
    rw [line] at succeeded
    rw [LineNotes.transactions_cons_of_not_begins rfl, handle]
    have old := CallLine.succeeded_of_issue succeeded
    have unpassed : j ∉ past.passed := fun before => kept (List.mem_append_right _ before)
    rcases LineNotes.mem_endings_cons mem with older | ⟨_, ⟨⟩, _, _⟩
    · refine .inr ((h.latest n j older old unpassed).resolve_left fun flying => kept ?_)
      refine List.mem_append_left _ ?_
      simp [LineNotes.passed?, ← same, flying]
    · exact absurd (CallLine.lt_of_succeeded old) (Nat.lt_irrefl _)

theorem finish (h : p.Concludes past) (orderly : p.line.Orderly) {call : Nat}
    (running : p.line.calls[call]? = some ⟨operation, none⟩) (outcome : CallOutcome) :
    (p.finish call outcome).Concludes (.ended call outcome :: past) where
  known n j mem := by
    obtain ⟨least, other, before, ending, called⟩ := h.known n j mem
    obtain ⟨result, called⟩ := CallLine.finish_operation called call outcome
    exact ⟨least, other, result, ending, called⟩
  sorted := h.sorted
  earlier n j mem k memk less succeeded := by
    rcases CallLine.succeeded_of_finish succeeded with before | rfl
    · exact h.earlier n j mem k memk less before
    · -- The call that ended was issued last.
      obtain ⟨-, _, _, -, called⟩ := h.known n k memk
      have last := orderly.last j (orderly.unfinished j _ running rfl)
      have inside := (List.getElem?_eq_some_iff.mp called).1
      omega
  latest n j mem succeeded kept := by
    rcases CallLine.succeeded_of_finish succeeded with before | rfl
    · exact h.latest n j mem before kept
    · exact .inl (orderly.unfinished j _ running rfl)

/-- A success that is reported ends the transaction, and any other is left behind. -/
theorem answer (h : p.Concludes past) (told : p.Told past) {b : LineRequest}
    (busy : p.busy = some b)
    {parked : Operation} {j : Nat} {outcome : CallOutcome} (landed : p.line.Landed j parked outcome)
    (same : ∀ operation, b.wait = .turn operation →
      parked = operation ∧ outcome = .replied (.ok ())) :
    ({ p with line := p.line.clear }.complete b.request
      (LineRequest.reply b outcome.reply)).1.Concludes
      (.answered b.request (LineRequest.reply b outcome.reply) (some j) :: past) where
  known n i mem := by
    obtain ⟨least, known⟩ := h.known n i mem
    exact ⟨Nat.le_trans least (LineNotes.transactions_cons_le _ _), known⟩
  sorted := h.sorted
  earlier n i mem k memk less succeeded :=
    List.mem_append_right _ (h.earlier n i mem k memk less succeeded)
  latest n i mem succeeded kept := by
    have unpassed : i ∉ past.passed := fun before => kept (List.mem_append_right _ before)
    refine .inr fun isOpen => ?_
    rcases h.latest n i mem succeeded unpassed with flying | late
    · obtain rfl : i = j := Option.some.inj (flying.symm.trans landed.inFlight)
      have call : b.request.isCall = true := by
        by_contra direct
        exact kept (List.mem_append_left _ (by simp [LineNotes.passed?, direct]))
      obtain ⟨-, operation, result, ending, called⟩ := h.known n i mem
      obtain ⟨other, succeeded⟩ := CallLine.succeeded_iff.mp succeeded
      have own := (told.suits b busy).own landed same call
      obtain ⟨rfl, rfl⟩ : parked = other ∧ outcome = .replied (.ok ()) := by
        simpa using landed.call.symm.trans succeeded
      obtain rfl : parked = operation := by
        simpa using congrArg (Option.map BlockingCall.operation) (landed.call.symm.trans called)
      have closed := Status.not_isOpen_of_ending (told.permitted b busy) (own ▸ ending)
      rw [reply_of_isCall call] at isOpen
      exact absurd isOpen closed
    · rcases Status.isOpen_of_after (told.permitted b busy) isOpen with before | ⟨begins, ok⟩
      · exact Nat.lt_of_lt_of_le (late before) (LineNotes.transactions_cons_le _ _)
      · rw [Request.eq_begin_of_operation begins, ok, LineNotes.transactions_cons_of_begins rfl]
        exact Nat.lt_succ_of_le (h.known n i mem).1

theorem step (h : p.Concludes past) (told : p.Told past) {note : Option LineNote}
    (moved : p.Moves note q) : q.Concludes (note.toList ++ past) := by
  cases moved with
  | idle => exact h
  | refused request error => exact h.plain (by cases request <;> rfl)
  | closed => exact h.plain rfl
  | waits idle permitted wait => exact h.calm rfl id
  | issued idle permitted free call own =>
    exact h.issue told.line (Status.isOpen_of_ending permitted) rfl rfl
  | @reissued b busy operation parked j outcome landed turn other =>
    obtain ⟨-, same⟩ := told.of_turn busy turn
    have permitted := told.permitted b busy
    exact h.issue told.line (Status.isOpen_of_ending (same ▸ permitted)) rfl rfl
  | answered busy landed same => exact h.answer told busy landed same
  | completed request reply permitted own failed =>
    have permitted := told.permits permitted own
    have other : (LineNote.answered request reply none).begins = false := by
      by_contra begins
      obtain ⟨rfl, rfl⟩ : request = .begin ∧ reply = .ok () := by
        cases request <;> rcases reply with _ | _ <;> simp_all [LineNote.begins]
      obtain ⟨reason, failed⟩ := failed rfl
      cases failed
    refine (h.plain other).calm rfl fun isOpen => ?_
    refine (Status.isOpen_of_after permitted isOpen).resolve_right ?_
    rintro ⟨begins, ok⟩
    obtain rfl := Request.eq_begin_of_operation begins
    simp [LineNote.begins, ok] at other
  | ended running outcome => exact h.finish told.orderly running outcome
  | givenUp idle => exact h.calm rfl Handle.isOpen_of_markFatal

end Concludes

end LineProducer

namespace LineRun

variable (r : LineRun)

theorem concludes : r.producer.Concludes r.notes := by
  induction r using by_events with
  | idle r nothing =>
    have none : r.notes = [] := by simp [notes, nothing, LineProducer.notes]
    rw [none]
    constructor <;> simp [LineNotes.endings]
  | event r e ih =>
    rw [extend_notes, extend_producer]
    exact ih.step r.told (r.producer.moves e)

theorem permits_of_issued {e : LineProducer.Event} {j : Nat} {operation : Operation}
    (h : r.producer.note? e = some (.issued j operation)) :
    r.producer.handle.status.permits operation = true := by
  have moved := r.producer.moves e
  rw [h] at moved
  generalize (r.producer.step e).1 = next at moved
  cases moved with
  | issued idle permitted => exact permitted
  | @reissued b busy operation parked k outcome landed turn other =>
    obtain ⟨-, same⟩ := r.told.of_turn busy turn
    exact same ▸ r.told.permitted b busy

theorem passed_of_two_successes {n j k : Nat} (hj : j ∈ r.notes.successes n)
    (hk : k ∈ r.notes.successes n) (less : j < k) : j ∈ r.notes.passed := by
  obtain ⟨memj, succeeded⟩ := List.mem_filter.mp hj
  refine r.concludes.earlier n j memj k (List.mem_filter.mp hk).1 less ?_
  rwa [r.told.line]

/-- Every commit and every abort is issued while the transaction that was begun last is open. At
most one of those that are issued in a transaction succeeds, unless one of them succeeds after
the success of another was left behind. -/
theorem ended_once_iff (n : Nat) :
    (∀ e j operation, r.producer.note? e = some (.issued j operation) →
      operation.isEnding = true → r.producer.handle.status.IsOpen) ∧
    ((r.notes.successes n).length ≤ 1 ↔
      ∀ j ∈ r.notes.successes n, j ∈ r.notes.passed →
        ∀ k ∈ r.notes.successes n, k ≤ j) := by
  refine ⟨fun e j operation noted => Status.isOpen_of_ending (r.permits_of_issued noted), ?_⟩
  have sorted : (r.notes.successes n).Pairwise (· > ·) := (r.concludes.sorted n).filter _
  have passed {j k : Nat} := r.passed_of_two_successes (n := n) (j := j) (k := k)
  generalize r.notes.successes n = all at sorted passed
  constructor
  · intro one j hj _ k hk
    obtain ⟨i, rfl⟩ : ∃ i, all = [i] := List.length_eq_one_iff.mp (by
      have := List.length_pos_of_mem hj
      omega)
    simp_all
  · intro condition
    rcases all with _ | ⟨k, _ | ⟨j, rest⟩⟩
    · simp
    · simp
    · have less : j < k := (List.pairwise_cons.mp sorted).1 j List.mem_cons_self
      have late := condition j (by simp) (passed (by simp) (by simp) less) k (by simp)
      omega

/-- The first commit succeeds after its caller has given up, and then the transaction is aborted. -/
def abortedLate : LineRun where
  session := 0
  brokers := ["b"]
  id := "svc"
  limit := .ofSecs 1
  events := [.ask .begin (.ok ()), .finish 0 (.replied (.ok ())), .poll, .ask .commit (.ok ()),
    .expire, .finish 1 (.replied (.ok ())), .ask .abort (.ok ()), .poll,
    .finish 2 (.replied (.ok ())), .poll]

/-- Both the commit and the abort succeed, and the producer is ready again. -/
theorem abortedLate_ends_twice :
    abortedLate.notes.successes 1 = [2, 1] ∧
    abortedLate.producer.line.calls = [⟨.begin, some (.replied (.ok ()))⟩,
      ⟨.commit, some (.replied (.ok ()))⟩, ⟨.abort, some (.replied (.ok ()))⟩] ∧
    abortedLate.notes.head? = some (.answered .abort (.ok ()) (some 2)) ∧
    abortedLate.producer.handle.status = .ready ∧
    ¬ (abortedLate.notes.successes 1).length ≤ 1 := by
  decide +kernel

end LineRun

end OutcomeRelay
