import OutcomeRelay.Proofs.Account
import OutcomeRelay.Proofs.Transaction

set_option autoImplicit false

/-!
# How far a transaction has come and what it has done

In every phase of a transaction its account can be told from the answer that is on its way: the
sends that took effect are those that were answered too late and the last one, and the same holds of
the commits. Main statements: the invariant is kept when a request takes effect, when its answer
arrives and when the limit passes instead.
-/

namespace OutcomeRelay

def arriving (reply : Option Reply) : Nat := if reply = some (.ok ()) then 1 else 0

def confirmed : PublishResult → Nat
  | .ok () => 1
  | .error _ => 0

theorem Handle.perform_permitted {h : Handle} {request : Request}
    (hp : h.status.permits request.operation = true) (answer : Option Reply) :
    h.perform request answer =
      (h.verdict answer, h.record request.operation (h.verdict answer)) := by
  simp [perform, refusal?, hp]

/-- Unless it is closed, a handle that meets a failure stays where it is, keeps but the abort or is
good for nothing. -/
theorem Status.after_error (s : Status) {operation : Operation} (hc : operation ≠ .close)
    (error : BrokerError) :
    s.after operation (.error error) = s ∨ s.after operation (.error error) = .fatal ∨
      ((operation = .send ∨ operation = .commit) ∧
        s.after operation (.error error) = .abortable) := by
  unfold after
  rw [if_neg hc]
  split
  · exact .inl rfl
  · cases operation <;> cases error <;> simp

theorem Status.eq_ready_of_after {s : Status} {operation : Operation} {reply : Reply}
    (h : s.after operation reply = .ready) :
    s = .ready ∨ (reply = .ok () ∧ (operation = .commit ∨ operation = .abort)) := by
  unfold after at h
  split at h
  · simp at h
  · split at h
    · exact .inl h
    · split at h <;> simp_all

namespace Transaction

def entry (t : Transaction) (i : Nat) : Entry := ⟨some i, t.topic, t.payload⟩

def posting (t : Transaction) (i : Nat) : Posting :=
  ⟨some i, some i, t.handle.id, t.topic, t.payload⟩

structure Beginning (t : Transaction) (a : Account) (held : List Entry) : Prop where
  status : t.handle.status = .ready
  untouched : a.Untouched
  empty : held = []

/-- The session holds back one copy of the record for each send that took effect. -/
structure Sending (t : Transaction) (i : Nat) (a : Account) (held : List Entry)
    (reply : Option Reply) : Prop where
  status : t.handle.status = .inTransaction
  sends : a.sends = a.lateSends + arriving reply
  commits : a.commits = 0
  lateCommits : a.lateCommits = 0
  posted : a.posted = []
  held : held = List.replicate a.sends (t.entry i)

/-- The copies are held back until a commit takes effect; later commits find nothing. -/
structure Committing (t : Transaction) (i : Nat) (a : Account) (held : List Entry)
    (reply : Option Reply) : Prop where
  status : t.handle.status = .inTransaction
  sends : a.sends = a.lateSends + 1
  commits : a.commits = a.lateCommits + arriving reply
  shown : a.Shown (t.posting i)
  held : held = if a.commits = 0 then List.replicate a.sends (t.entry i) else []

/-- What has become visible is settled; only the copies that are left are to be dropped. -/
structure Aborting (t : Transaction) (i : Nat) (a : Account) (held : List Entry)
    (reply : Option Reply) : Prop where
  status : t.handle.status.permits .abort = true
  commits : a.commits = a.lateCommits
  shown : a.Shown (t.posting i)
  emptied : arriving reply = 1 → held = []

structure Finished (t : Transaction) (i : Nat) (a : Account) (held : List Entry)
    (result : PublishResult) : Prop where
  clean : t.handle.status = .ready → held = []
  commits : a.commits = a.lateCommits + confirmed result
  shown : a.Shown (t.posting i)

/-- The account of a transaction of publish `i`, the records that its session holds back and the
answer that is on its way fit its phase. -/
def Tallied (t : Transaction) (i : Nat) (a : Account) (held : List Entry) (reply : Option Reply) :
    Prop :=
  match t.phase with
  | .beginning => t.Beginning a held
  | .performing .send _ => t.Sending i a held reply
  | .performing .commit _ => t.Committing i a held reply
  | .pausing .send _ => reply = none ∧ t.Sending i a held none
  | .pausing .commit _ => reply = none ∧ t.Committing i a held none
  | .aborting _ _ => t.Aborting i a held reply
  | .abortPausing _ _ => reply = none ∧ t.Aborting i a held none
  | .ended result => reply = none ∧ t.Finished i a held result

variable {t : Transaction} {i : Nat} {a : Account} {held : List Entry} {reply : Option Reply}
  {retry : Backoff} {cancelled : Bool} {request : Request}

theorem Sending.shown (h : t.Sending i a held reply) : a.Shown (t.posting i) := by
  simp [Account.Shown, h.commits, h.posted]

theorem Tallied.shown (h : t.Tallied i a held reply) : a.Shown (t.posting i) := by
  unfold Tallied at h
  split at h
  · exact h.untouched.shown _
  · exact h.shown
  · exact h.shown
  · exact h.2.shown
  · exact h.2.shown
  · exact h.shown
  · exact h.2.shown
  · exact h.2.shown

theorem request?_cases (h : t.request? = some request) :
    (t.phase = .beginning ∧ request = .begin) ∨
    (∃ failures, t.phase = .performing .send failures ∧ request = .send t.topic t.payload) ∨
    (∃ failures, t.phase = .performing .commit failures ∧ request = .commit) ∨
    (∃ reason failures, t.phase = .aborting reason failures ∧ request = .abort) := by
  unfold request? at h
  cases hp : t.phase with
  | beginning =>
    rw [hp] at h
    exact .inl ⟨rfl, (Option.some.inj h).symm⟩
  | performing step failures =>
    rw [hp] at h
    cases step with
    | send => exact .inr (.inl ⟨failures, rfl, (Option.some.inj h).symm⟩)
    | commit => exact .inr (.inr (.inl ⟨failures, rfl, (Option.some.inj h).symm⟩))
  | aborting reason failures =>
    rw [hp] at h
    exact .inr (.inr (.inr ⟨reason, failures, rfl, (Option.some.inj h).symm⟩))
  | pausing | abortPausing | ended => simp [hp] at h

theorem demand_of_no_request (h : t.request? = none) (retry : Backoff) :
    (∃ length cancellable, t.demand retry = .pause length cancellable) ∨
      t.demand retry = .rest := by
  unfold demand
  cases hp : t.phase with
  | pausing step failures => exact .inl ⟨_, _, rfl⟩
  | abortPausing reason failures => exact .inl ⟨_, _, rfl⟩
  | ended result => exact .inr rfl
  | beginning | performing | aborting => simp [request?, hp] at h

theorem Tallied.request_cases (h : t.Tallied i a held reply) (hr : t.request? = some request) :
    (t.phase = .beginning ∧ request = .begin ∧ t.Beginning a held) ∨
    (∃ failures, t.phase = .performing .send failures ∧ request = .send t.topic t.payload ∧
      t.Sending i a held reply) ∨
    (∃ failures, t.phase = .performing .commit failures ∧ request = .commit ∧
      t.Committing i a held reply) ∨
    (∃ reason failures, t.phase = .aborting reason failures ∧ request = .abort ∧
      t.Aborting i a held reply) := by
  unfold Tallied at h
  rcases request?_cases hr with ⟨hp, he⟩ | ⟨n, hp, he⟩ | ⟨n, hp, he⟩ | ⟨r, n, hp, he⟩
  · rw [hp] at h
    exact .inl ⟨hp, he, h⟩
  · rw [hp] at h
    exact .inr (.inl ⟨n, hp, he, h⟩)
  · rw [hp] at h
    exact .inr (.inr (.inl ⟨n, hp, he, h⟩))
  · rw [hp] at h
    exact .inr (.inr (.inr ⟨r, n, hp, he, h⟩))

namespace Tallied

/-- A transaction is never refused by its own handle. -/
theorem permits (h : t.Tallied i a held reply) (hr : t.request? = some request) :
    t.handle.status.permits request.operation = true := by
  rcases h.request_cases hr with ⟨_, rfl, hb⟩ | ⟨_, _, rfl, hs⟩ | ⟨_, _, rfl, hc⟩ |
    ⟨_, _, _, rfl, ha⟩
  · simp [hb.status, Status.permits, Request.operation]
  · simp [hs.status, Status.permits, Request.operation]
  · simp [hc.status, Status.permits, Request.operation]
  · exact ha.status

theorem exists_request {r : Reply} (h : t.Tallied i a held (some r)) :
    ∃ request, t.request? = some request := by
  unfold Tallied at h
  unfold request?
  cases hp : t.phase with
  | pausing step failures =>
    rw [hp] at h
    cases step <;> simp at h
  | abortPausing reason failures =>
    rw [hp] at h
    simp at h
  | ended result =>
    rw [hp] at h
    simp at h
  | beginning | performing | aborting => exact ⟨_, rfl⟩

theorem demand_eq (h : t.Tallied i a held reply) (hr : t.request? = some request) :
    t.demand retry = .answer t.handle.session t.handle.id request (some t.handle.limit) := by
  have permitted := h.permits hr
  unfold demand
  rcases request?_cases hr with ⟨hp, _⟩ | ⟨_, hp, _⟩ | ⟨_, hp, _⟩ | ⟨_, _, hp, _⟩ <;>
    simp [hp, hr, permitted]

/-! ### A request takes effect -/

theorem called (h : t.Tallied i a held none) (hr : t.request? = some request) :
    t.Tallied i (a.called i held t.handle.id request) (request.rebuffer (some i) held)
      (some (.ok ())) := by
  unfold Tallied
  rcases h.request_cases hr with ⟨hp, rfl, hb⟩ | ⟨_, hp, rfl, hs⟩ | ⟨_, hp, rfl, hc⟩ |
    ⟨_, _, hp, rfl, ha⟩
  · rw [hp]
    exact ⟨hb.status, hb.untouched, rfl⟩
  · rw [hp]
    refine ⟨hs.status, ?_, hs.commits, hs.lateCommits, hs.posted, ?_⟩
    · simpa [Account.called, arriving] using hs.sends
    · simp [Account.called, Request.rebuffer, hs.held, List.replicate_succ', entry]
  · rw [hp]
    -- Only the first commit finds something to make visible.
    have first : a.commits = 0 → a.posted = [] ∧ held = List.replicate a.sends (t.entry i) := by
      intro none_yet
      have shown := hc.shown
      have kept := hc.held
      rw [Account.Shown, if_pos none_yet] at shown
      rw [if_pos none_yet] at kept
      exact ⟨shown, kept⟩
    have later : a.commits ≠ 0 →
        a.posted = List.replicate (a.lateSends + 1) (t.posting i) ∧ held = [] := by
      intro some_before
      have shown := hc.shown
      have kept := hc.held
      rw [Account.Shown, if_neg some_before] at shown
      rw [if_neg some_before] at kept
      exact ⟨shown, kept⟩
    have all : a.posted ++ held.map (Entry.post (some i) t.handle.id) =
        List.replicate (a.lateSends + 1) (t.posting i) := by
      rcases eq_or_ne a.commits 0 with none_yet | some_before
      · rw [(first none_yet).1, (first none_yet).2, hc.sends, List.map_replicate]
        rfl
      · rw [(later some_before).1, (later some_before).2, List.map_nil, List.append_nil]
    refine ⟨hc.status, hc.sends, ?_, ?_, rfl⟩
    · simpa [Account.called, arriving] using hc.commits
    · simpa [Account.Shown, Account.called] using all
  · rw [hp]
    exact ⟨ha.status, ha.commits, ha.shown, fun _ => rfl⟩

theorem reply_congr (h : t.Tallied i a held reply) (hr : t.request? = some request)
    {other : Option Reply} (same : arriving other = arriving reply) :
    t.Tallied i a held other := by
  unfold Tallied
  rcases h.request_cases hr with ⟨hp, rfl, hb⟩ | ⟨_, hp, rfl, hs⟩ | ⟨_, hp, rfl, hc⟩ |
    ⟨_, _, hp, rfl, ha⟩
  · rw [hp]
    exact hb
  · rw [hp]
    exact ⟨hs.status, same ▸ hs.sends, hs.commits, hs.lateCommits, hs.posted, hs.held⟩
  · rw [hp]
    exact ⟨hc.status, hc.sends, same ▸ hc.commits, hc.shown, hc.held⟩
  · rw [hp]
    exact ⟨ha.status, ha.commits, ha.shown, same ▸ ha.emptied⟩

theorem missed (h : t.Tallied i a held (some (.ok ()))) (hr : t.request? = some request) :
    t.Tallied i (a.missed request) held none := by
  unfold Tallied
  rcases h.request_cases hr with ⟨hp, rfl, hb⟩ | ⟨_, hp, rfl, hs⟩ | ⟨_, hp, rfl, hc⟩ |
    ⟨_, _, hp, rfl, ha⟩
  · rw [hp]
    exact hb
  · rw [hp]
    exact ⟨hs.status, hs.sends, hs.commits, hs.lateCommits, hs.posted, hs.held⟩
  · rw [hp]
    exact ⟨hc.status, hc.sends, hc.commits, hc.shown, hc.held⟩
  · rw [hp]
    exact ⟨ha.status, ha.commits, ha.shown, by simp [arriving]⟩

/-! ### A transaction moves on -/

theorem succeed (h : t.Tallied i a held (some (.ok ()))) :
    (t.settle retry cancelled (some (.ok ()))).Tallied i a held none := by
  obtain ⟨request, hr⟩ := h.exists_request
  have permitted := h.permits hr
  simp only [settle, hr, Handle.perform_permitted permitted, Handle.verdict]
  rcases h.request_cases hr with ⟨hp, rfl, hb⟩ | ⟨_, hp, rfl, hs⟩ | ⟨_, hp, rfl, hc⟩ |
    ⟨_, _, hp, rfl, ha⟩
  · simp only [afterReply, hp, afterBegin, enter, Tallied]
    have nothing := hb.untouched
    refine ⟨?_, ?_, nothing.commits, nothing.lateCommits, nothing.posted, ?_⟩
    · simp [Handle.record, Status.after, hb.status, Status.isTerminal, Request.operation]
    · simp [nothing.sends, nothing.lateSends, arriving]
    · simp [hb.empty, nothing.sends]
  · have status : (t.handle.record .send (.ok ())).status = .inTransaction := by
      simp [Handle.record, Status.after, hs.status, Status.isTerminal]
    simp only [afterReply, hp, afterStep]
    split
    · simp only [startAbort, enter, Tallied]
      refine ⟨?_, hs.commits.trans hs.lateCommits.symm, hs.shown, by simp [arriving]⟩
      simp [Request.operation, status, Status.permits]
    · simp only [enter, Tallied]
      refine ⟨status, hs.sends, ?_, hs.shown, ?_⟩
      · simp [hs.commits, hs.lateCommits, arriving]
      · rw [if_pos hs.commits]
        exact hs.held
  · simp only [afterReply, hp, afterStep, enter, Tallied]
    have commits : a.commits = a.lateCommits + 1 := hc.commits
    refine ⟨trivial, ?_, commits, hc.shown⟩
    intro _
    rw [hc.held, if_neg (by omega)]
  · simp only [afterReply, hp, afterAbort, finish, enter, Tallied]
    exact ⟨trivial, fun _ => ha.emptied rfl, ha.commits, ha.shown⟩

theorem startAbort (hp : t.handle.status.permits .abort = true)
    (commits : a.commits = a.lateCommits) (shown : a.Shown (t.posting i)) (reason : PublishError) :
    (t.startAbort reason).Tallied i a held none :=
  ⟨hp, commits, shown, by simp [arriving]⟩

theorem finish (hs : t.handle.status ≠ .ready) (commits : a.commits = a.lateCommits)
    (shown : a.Shown (t.posting i)) (error : PublishError) :
    (t.finish error).Tallied i a held none :=
  ⟨rfl, fun ready => absurd ready hs, commits, shown⟩

theorem afterFailure {step : Step} {failures : UInt32} {error : BrokerError}
    (hs : t.handle.status = .inTransaction ∨ t.handle.status = .fatal ∨
      t.handle.status = .abortable)
    (commits : a.commits = a.lateCommits) (shown : a.Shown (t.posting i))
    (again : t.handle.status = .inTransaction → ∀ n,
      (t.enter (.pausing step n)).Tallied i a held none) :
    (t.afterFailure retry step failures error).Tallied i a held none := by
  unfold Transaction.afterFailure
  rcases hs with hs | hs | hs
  · simp only [hs]
    split
    · exact again hs _
    · exact startAbort (by simp [hs, Status.permits]) commits shown _
  · simp only [hs]
    exact finish (by simp [hs]) commits shown _
  · simp only [hs]
    exact startAbort (by simp [hs, Status.permits]) commits shown _

theorem fail (h : t.Tallied i a held none) (hr : t.request? = some request)
    {answer : Option Reply} {error : BrokerError} (he : t.handle.verdict answer = .error error) :
    (t.settle retry cancelled answer).Tallied i a held none := by
  have permitted := h.permits hr
  simp only [settle, hr, Handle.perform_permitted permitted, he]
  rcases h.request_cases hr with ⟨hp, rfl, hb⟩ | ⟨n, hp, rfl, hs⟩ | ⟨n, hp, rfl, hc⟩ |
    ⟨reason, n, hp, rfl, ha⟩
  · have settled : a.commits = a.lateCommits :=
      hb.untouched.commits.trans hb.untouched.lateCommits.symm
    simp only [afterReply, hp, afterBegin]
    split <;> exact ⟨rfl, fun _ => hb.empty, settled, hb.untouched.shown _⟩
  · simp only [afterReply, hp, afterStep]
    have status := t.handle.status.after_error (show Operation.send ≠ .close by simp) error
    refine afterFailure ?_ (hs.commits.trans hs.lateCommits.symm) hs.shown ?_
    · rcases status with same | fatal | ⟨_, abortable⟩
      · exact .inl (same.trans hs.status)
      · exact .inr (.inl fatal)
      · exact .inr (.inr abortable)
    · intro open_still failures
      exact ⟨rfl, open_still, hs.sends, hs.commits, hs.lateCommits, hs.posted, hs.held⟩
  · simp only [afterReply, hp, afterStep]
    have status := t.handle.status.after_error (show Operation.commit ≠ .close by simp) error
    refine afterFailure ?_ hc.commits hc.shown ?_
    · rcases status with same | fatal | ⟨_, abortable⟩
      · exact .inl (same.trans hc.status)
      · exact .inr (.inl fatal)
      · exact .inr (.inr abortable)
    · intro open_still failures
      exact ⟨rfl, open_still, hc.sends, hc.commits, hc.shown, hc.held⟩
  · simp only [afterReply, hp, afterAbort]
    -- Without a fatal error the handle may still abort, so that only the budget decides.
    have status := t.handle.status.after_error (show Operation.abort ≠ .close by simp) error
    have permits : (t.handle.record .abort (.error error)).status ≠ .fatal →
        (t.handle.record .abort (.error error)).status.permits .abort = true := by
      intro alive
      rcases status with same | fatal | ⟨neither, _⟩
      · rw [Handle.record, same]
        exact ha.status
      · exact absurd fatal alive
      · simp at neither
    split
    · rename_i dead
      refine finish ?_ ha.commits ?_ _
      · rw [dead]
        simp
      · exact ha.shown
    · rename_i alive
      split
      · rename_i forbidden
        simp only [Request.operation, permits alive] at forbidden
        simp at forbidden
      · split
        · exact ⟨rfl, permits alive, ha.commits, ha.shown, by simp [arriving]⟩
        · refine finish ?_ ha.commits ?_ _
          · unfold Handle.markFatal
            split
            · rename_i closed
              simp [closed]
            · simp
          · simpa [posting] using ha.shown

theorem answered {r : Reply} (h : t.Tallied i a held (some r)) :
    (t.resume retry cancelled (.answered r)).Tallied i a held none := by
  obtain ⟨request, hr⟩ := h.exists_request
  have settled : t.resume retry cancelled (.answered r) = t.settle retry cancelled (some r) := by
    unfold resume
    split <;> simp_all
  rw [settled]
  cases r with
  | ok _ => exact h.succeed
  | error error =>
    have unanswered : t.Tallied i a held none := h.reply_congr hr (by simp [arriving])
    exact unanswered.fail hr rfl

theorem silence (h : t.Tallied i a held none) (hr : t.request? = some request) :
    (t.resume retry cancelled .silence).Tallied i a held none := by
  have settled : t.resume retry cancelled .silence = t.settle retry cancelled none := by
    unfold resume
    split <;> simp_all
  rw [settled]
  exact h.fail hr rfl

theorem awake (h : t.Tallied i a held reply) (hr : t.request? = none) :
    (t.resume retry cancelled .resumed).Tallied i a held none := by
  unfold Tallied at h
  unfold resume
  cases hp : t.phase with
  | pausing step failures =>
    simp only [hp] at h ⊢
    cases step with
    | send =>
      obtain ⟨_, hs⟩ := h
      split
      · refine startAbort ?_ (hs.commits.trans hs.lateCommits.symm) hs.shown _
        simp [hs.status, Status.permits]
      · exact ⟨hs.status, hs.sends, hs.commits, hs.lateCommits, hs.posted, hs.held⟩
    | commit =>
      obtain ⟨_, hc⟩ := h
      split
      · exact startAbort (by simp [hc.status, Status.permits]) hc.commits hc.shown _
      · exact ⟨hc.status, hc.sends, hc.commits, hc.shown, hc.held⟩
  | abortPausing reason failures =>
    simp only [hp] at h ⊢
    obtain ⟨_, ha⟩ := h
    exact ⟨ha.status, ha.commits, ha.shown, by simp [arriving]⟩
  | ended result =>
    simp only [hp] at h ⊢
    obtain ⟨_, hf⟩ := h
    have same : (if t.demand retry = .turn then t.settle retry cancelled none else t) = t := by
      simp [demand, hp]
    rw [same]
    unfold Tallied
    rw [hp]
    exact ⟨rfl, hf⟩
  | beginning | performing | aborting => simp [request?, hp] at hr

end Tallied

end Transaction

end OutcomeRelay
