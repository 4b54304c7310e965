import OutcomeRelay.Proofs.Publishing

set_option autoImplicit false

namespace OutcomeRelay

namespace Account

variable {a : Account} {i : Nat}

theorem Balanced.length (h : a.Balanced i) :
    a.posted.length = if a.commits = 0 then 0 else a.lateSends + 1 := by
  rcases h with idle | ⟨topic, payload, producer, _, shown⟩
  · simp [idle.untouched.posted, idle.untouched.commits]
  · rw [shown]
    split <;> simp

theorem Returned.posted_eq_nil_iff {error : PublishError} (h : a.Returned i (.error error)) :
    a.posted = [] ↔ a.lateCommits = 0 := by
  obtain ⟨topic, payload, producer, _, shown, commits⟩ := h
  rw [shown, commits]
  by_cases in_time : a.lateCommits = 0 <;> simp [in_time, confirmed]

end Account

namespace Run

variable (r : Run)

/-- Once a commit has taken effect, a publish has made visible one copy of its record, and one more
for each of its sends that took effect but was answered too late. It is at most one copy if no
commit took effect or no send was answered too late, and only then. -/
theorem visible_at_most_once_iff (i : Nat) :
    r.world.Shows r.chronicle.postings ∧
    (r.chronicle.postingsOf i).length =
      (if r.chronicle.effects i .commit = 0 then 0 else r.chronicle.late i .send + 1) ∧
    ((r.chronicle.postingsOf i).length ≤ 1 ↔
      r.chronicle.effects i .commit = 0 ∨ r.chronicle.late i .send = 0) := by
  have count : (r.chronicle.postingsOf i).length =
      if r.chronicle.effects i .commit = 0 then 0 else r.chronicle.late i .send + 1 :=
    (r.balanced i).length
  refine ⟨r.shows, count, ?_⟩
  rw [count]
  split <;> omega

/-- A send takes effect, its answer is too late, and the send is repeated. -/
def lateSend : Run :=
  hasty 1 [.start 0 (.publish 0 "results" ⟨#[1]⟩) false, .proceed 0, .effect 0, .deliver 0,
    .effect 0, .deliver 0, .effect 0, .deliver 0, .effect 0, .expire 0, .wake 0, .effect 0,
    .deliver 0, .effect 0, .deliver 0, .proceed 0]

/-- One publish that succeeds leaves two copies of its record in the log. -/
theorem lateSend_shows_two_copies :
    lateSend.world.result? 0 = some (.ok ()) ∧
    (lateSend.world.cluster.broker.topics.records "results").map StoredRecord.content =
      [("svc-1", ⟨#[1]⟩), ("svc-1", ⟨#[1]⟩)] ∧
    ¬ (lateSend.chronicle.postingsOf 0).length ≤ 1 := by
  decide +kernel

/-- A publish that returned an error has made nothing visible if none of its commits was answered
too late, and only then. -/
theorem failed_invisible_iff {i : Nat} {error : PublishError}
    (h : r.world.result? i = some (.error error)) :
    r.world.Shows r.chronicle.postings ∧
    (r.chronicle.postingsOf i = [] ↔ r.chronicle.late i .commit = 0) :=
  ⟨r.shows, (r.returned h).posted_eq_nil_iff⟩

/-- A commit takes effect, its answer is too late, and no repetition is left. -/
def lateCommit : Run :=
  hasty 0 [.start 0 (.publish 0 "results" ⟨#[1]⟩) false, .proceed 0, .effect 0, .deliver 0,
    .effect 0, .deliver 0, .effect 0, .deliver 0, .effect 0, .deliver 0, .effect 0, .expire 0,
    .effect 0, .deliver 0, .proceed 0]

theorem lateCommit_failed :
    lateCommit.world.result? 0 = some (.error (.retriesExhausted 0
      (.retriable "no broker response within 10s"))) ∧
    (lateCommit.chronicle.postingsOf 0 = [] ↔ lateCommit.chronicle.late 0 .commit = 0) := by
  have failed : lateCommit.world.result? 0 = some (.error (.retriesExhausted 0
      (.retriable "no broker response within 10s"))) := by
    decide +kernel
  exact ⟨failed, (lateCommit.failed_invisible_iff failed).2⟩

/-- One publish that fails leaves a copy of its record in the log. -/
theorem lateCommit_shows_a_copy :
    (∃ error, lateCommit.world.result? 0 = some (.error error)) ∧
    (lateCommit.world.cluster.broker.topics.records "results").map StoredRecord.content =
      [("svc-1", ⟨#[1]⟩)] ∧
    lateCommit.chronicle.postingsOf 0 ≠ [] := by
  refine ⟨⟨.retriesExhausted 0 (.retriable "no broker response within 10s"), ?_⟩, ?_, ?_⟩ <;>
    decide +kernel

end Run

end OutcomeRelay
