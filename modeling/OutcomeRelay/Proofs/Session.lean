import Mathlib.Data.List.Basic
import OutcomeRelay.Broker.Cluster

set_option autoImplicit false

namespace OutcomeRelay

/-- What a request does when nothing stands in its way. -/
def Request.effect (s : Session) (b : Broker) : Request → Session × Broker
  | init => ({ s with epoch := (b.register s.id).epoch s.id }, b.register s.id)
  | begin => ({ s with pending := [] }, b)
  | send topic payload => ({ s with pending := s.pending ++ [(topic, payload)] }, b)
  | commit => ({ s with pending := [] }, { b with topics := b.topics.appendAll s.id s.pending })
  | abort => ({ s with pending := [] }, b)
  | close => (if s.closed then s else { s with closed := true, pending := [] }, b)

namespace Session

variable (s : Session) (b : Broker)

def FailsWith (error : BrokerError) (result : Reply × Session × Broker) : Prop :=
  ∃ failure faults,
    result = (.error error, { s with failure := failure }, { b with faults := faults })

theorem check_cases (operation : Operation) :
    (∃ error, s.FailsWith b error (s.check b operation)) ∨
    (s.closed = false ∧ s.check b operation = (.ok (), s, b)) := by
  unfold check
  split
  · exact .inl ⟨_, s.failure, b.faults, rfl⟩
  · rename_i hc
    split
    · exact .inl ⟨_, s.failure, b.faults, rfl⟩
    · split
      · exact .inl ⟨_, _, b.faults, rfl⟩
      · split
        · rename_i error rest hf
          simp only [Broker.fault?] at hf
          split at hf
          · simp at hf
          · cases hf
            have kept : s.failWith error = { s with failure := (s.failWith error).failure } := by
              cases error <;> rfl
            rw [kept]
            exact .inl ⟨error, _, _, rfl⟩
        · exact .inr ⟨by simpa using hc, rfl⟩

theorem guarded_cases (operation : Operation) (effect : Session → Broker → Session × Broker) :
    (∃ error, s.FailsWith b error (s.guarded b operation effect)) ∨
    (s.closed = false ∧ s.guarded b operation effect = (.ok (), effect s b)) := by
  unfold guarded
  rcases s.check_cases b operation with ⟨error, failure, faults, h⟩ | ⟨hc, h⟩
  · rw [h]
    exact .inl ⟨error, failure, faults, rfl⟩
  · rw [h]
    exact .inr ⟨hc, rfl⟩

theorem init_cases :
    (∃ error, s.FailsWith b error (s.init b)) ∨ s.init b = (.ok (), Request.init.effect s b) := by
  unfold init
  split
  · exact .inl ⟨_, s.failure, b.faults, rfl⟩
  · split
    · rename_i error rest hf
      simp only [Broker.fault?] at hf
      split at hf
      · simp at hf
      · cases hf
        exact .inl ⟨_, s.failure, _, rfl⟩
    · exact .inr rfl

theorem perform_cases (request : Request) :
    (∃ error, s.FailsWith b error (s.perform b request)) ∨
    ((s.closed = true → request = .init ∨ request = .close) ∧
      s.perform b request = (.ok (), request.effect s b)) := by
  have guarded (operation : Operation) (effect : Session → Broker → Session × Broker) :=
    (s.guarded_cases b operation effect).imp_right
      (And.imp_left fun hc => (by simp [hc] : s.closed = true → request = .init ∨ request = .close))
  cases request with
  | init => exact (s.init_cases b).imp_right fun h => ⟨fun _ => .inl rfl, h⟩
  | begin => exact guarded .begin _
  | send topic payload => exact guarded .send _
  | commit => exact guarded .commit _
  | abort => exact guarded .abort _
  | close => exact .inr ⟨fun _ => .inr rfl, rfl⟩

end Session

namespace Cluster

variable (c : Cluster)

def fail (s : SessionId) (failure : Option String) (faults : List (Operation × BrokerError)) :
    Cluster :=
  ⟨{ c.broker with faults := faults }, c.sessions.modify s fun x => { x with failure := failure }⟩

def apply (s : SessionId) (session : Session) (request : Request) : Cluster :=
  ⟨(request.effect session c.broker).2, c.sessions.set s (request.effect session c.broker).1⟩

variable {c} in
theorem apply_self {s : SessionId} {session : Session} (hs : c.sessions[s]? = some session)
    (request : Request) :
    (c.apply s session request).sessions[s]? = some (request.effect session c.broker).1 :=
  List.getElem?_set_self (List.getElem?_eq_some_iff.mp hs).1

theorem apply_ne {s t : SessionId} (h : s ≠ t) (session : Session) (request : Request) :
    (c.apply s session request).sessions[t]? = c.sessions[t]? :=
  List.getElem?_set_ne h

/-- A request fails and leaves buffers, ids and the log alone, or it has its effect. -/
theorem perform_cases (s : SessionId) (request : Request) :
    (∃ error failure faults, c.perform s request = (.error error, c.fail s failure faults)) ∨
    (∃ session, c.sessions[s]? = some session ∧
      (session.closed = true → request = .init ∨ request = .close) ∧
      c.perform s request = (.ok (), c.apply s session request)) := by
  unfold perform
  cases hs : c.sessions[s]? with
  | none =>
    refine .inl ⟨Session.closedError, none, c.broker.faults, ?_⟩
    simp [fail, List.modify_eq_self (List.getElem?_eq_none_iff.mp hs)]
  | some session =>
    rcases session.perform_cases c.broker request with ⟨error, failure, faults, h⟩ | ⟨hc, h⟩
    · refine .inl ⟨error, failure, faults, ?_⟩
      simp [h, fail, List.modify_eq_set_getElem?, hs]
    · exact .inr ⟨session, rfl, hc, by simp [h, apply]⟩

end Cluster

end OutcomeRelay
