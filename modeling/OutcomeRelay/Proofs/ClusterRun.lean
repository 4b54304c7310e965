import OutcomeRelay.Proofs.Epochs
import OutcomeRelay.Proofs.Ledger

set_option autoImplicit false

namespace OutcomeRelay

inductive Action where
  | connect (settings : Settings)
  | request (session : SessionId) (request : Request)
  | inject (operation : Operation) (error : BrokerError)
  | refuse (count : Nat)
  | toggleOffline
deriving DecidableEq

/-- A request with its answer; `producer` is the transactional id of the session. -/
structure Answered where
  session : SessionId
  producer : String
  request : Request
  reply : Reply
deriving DecidableEq

abbrev Transcript := List Answered

namespace Cluster

def act (c : Cluster) : Action → Cluster
  | .connect settings => (c.connect settings).2
  | .request s request => (c.perform s request).2
  | .inject operation error => { c with broker := c.broker.inject operation error }
  | .refuse count => { c with broker := c.broker.refuse count }
  | .toggleOffline => { c with broker := c.broker.toggleOffline }

def answered? (c : Cluster) : Action → Option Answered
  | .request s request =>
    some ⟨s, (c.producer? s).getD "", request, (c.perform s request).1⟩
  | _ => none

def afterwards (c : Cluster) (actions : List Action) : Cluster := actions.foldl act c

def transcript (c : Cluster) (past : Transcript) : List Action → Transcript
  | [] => past
  | a :: later => (c.act a).transcript ((c.answered? a).toList ++ past) later

inductive Acts (c : Cluster) : Option Answered → Cluster → Prop
  | adjusted (offline : Bool) (refusals : Nat) (faults : List (Operation × BrokerError)) :
      Acts c none (c.adjust offline refusals faults)
  | joined (id : String) : Acts c none (c.join id)
  | failed (s : SessionId) (request : Request) {error : BrokerError} {failure : Option String}
      {faults : List (Operation × BrokerError)}
      (answer : c.perform s request = (.error error, c.fail s failure faults)) :
      Acts c (some ⟨s, (c.producer? s).getD "", request, .error error⟩) (c.fail s failure faults)
  | done (s : SessionId) (request : Request) {session : Session}
      (hs : c.sessions[s]? = some session)
      (unclosed : session.closed = true → request = .init ∨ request = .close)
      (answer : c.perform s request = (.ok (), c.apply s session request)) :
      Acts c (some ⟨s, session.id, request, .ok ()⟩) (c.apply s session request)

theorem acts (c : Cluster) (a : Action) : c.Acts (c.answered? a) (c.act a) := by
  cases a with
  | connect settings =>
    rcases World.connect_cases c settings with ⟨error, refusals, h⟩ | h
    · simp only [answered?, act, h]
      exact .adjusted _ _ _
    · simp only [answered?, act, h]
      exact .joined _
  | request s request =>
    rcases c.perform_cases s request with ⟨error, failure, faults, h⟩ | ⟨session, hs, unclosed, h⟩
    · simp only [answered?, act, h]
      exact .failed s request h
    · have named : (c.producer? s).getD "" = session.id := by simp [producer?, hs]
      simp only [answered?, act, h, named]
      exact .done s request hs unclosed h
  | inject operation error => exact .adjusted c.broker.offline c.broker.refusals _
  | refuse count => exact .adjusted c.broker.offline _ c.broker.faults
  | toggleOffline => exact .adjusted _ c.broker.refusals c.broker.faults

theorem afterwards_append (c : Cluster) (actions later : List Action) :
    c.afterwards (actions ++ later) = (c.afterwards actions).afterwards later := List.foldl_append

theorem transcript_append (c : Cluster) (past : Transcript) (actions later : List Action) :
    c.transcript past (actions ++ later) =
      (c.afterwards actions).transcript (c.transcript past actions) later := by
  induction actions generalizing c past with
  | nil => rfl
  | cons a actions ih => exact ih _ _

theorem exists_transcript_eq (c : Cluster) (past : Transcript) (later : List Action) :
    ∃ newer, c.transcript past later = newer ++ past := by
  induction later generalizing c past with
  | nil => exact ⟨[], rfl⟩
  | cons a later ih =>
    obtain ⟨newer, same⟩ := ih (c.act a) ((c.answered? a).toList ++ past)
    exact ⟨newer ++ (c.answered? a).toList, by simp [transcript, same]⟩

end Cluster

/-- A run on a broker on which nothing has happened yet. -/
structure ClusterRun where
  partitions : Nat
  actions : List Action

namespace ClusterRun

def cluster (r : ClusterRun) : Cluster := (Cluster.empty r.partitions).afterwards r.actions

def transcript (r : ClusterRun) : Transcript := (Cluster.empty r.partitions).transcript [] r.actions

def extend (r : ClusterRun) (later : List Action) : ClusterRun :=
  { r with actions := r.actions ++ later }

variable (r : ClusterRun)

theorem extend_cluster (later : List Action) :
    (r.extend later).cluster = r.cluster.afterwards later := Cluster.afterwards_append _ _ _

theorem extend_transcript (later : List Action) :
    (r.extend later).transcript = r.cluster.transcript r.transcript later :=
  Cluster.transcript_append _ _ _ _

theorem keeps {P : Transcript → Cluster → Prop} (start : P [] (Cluster.empty r.partitions))
    (step : ∀ past c note next, P past c → c.Acts note next → P (note.toList ++ past) next) :
    P r.transcript r.cluster := by
  obtain ⟨partitions, actions⟩ := r
  induction actions using List.reverseRecOn with
  | nil => exact start
  | append_singleton actions a ih =>
    have extended : (⟨partitions, actions ++ [a]⟩ : ClusterRun) =
        extend ⟨partitions, actions⟩ [a] := rfl
    rw [extended, extend_cluster, extend_transcript]
    exact step _ _ _ _ (ih start) (Cluster.acts _ a)

end ClusterRun

namespace World

variable (w : World)

theorem callEffect_acts {task : Task} {answer : Signal} {cluster : Cluster}
    (h : w.callEffect task = some (answer, cluster)) : ∃ a, cluster = w.cluster.act a := by
  cases hd : w.demand task with
  | connection id limit =>
    obtain ⟨service, hs⟩ := w.exists_service (show w.demand task ≠ .rest by simp [hd])
    refine ⟨.connect (service.options.settingsFor id), ?_⟩
    simp only [callEffect, hs, hd] at h
    split at h <;> rename_i connected <;> cases h <;> simp [Cluster.act, connected]
  | answer s id request limit =>
    refine ⟨.request s request, ?_⟩
    unfold callEffect at h
    rw [hd] at h
    cases hs : w.service? task <;> simp only [hs] at h <;> cases h <;> rfl
  | pause | turn | rest =>
    unfold callEffect at h
    rw [hd] at h
    cases hs : w.service? task <;> simp [hs] at h

theorem apply_acts (event : Event) :
    (w.apply event).cluster = w.cluster ∨ ∃ a, (w.apply event).cluster = w.cluster.act a := by
  cases hi : eventTask? event with
  | some i =>
    simp only [World.apply, hi]
    cases ht : w.tasks[i]? with
    | none => exact .inl rfl
    | some task =>
      rcases w.applyTask_cluster i task event with same | ⟨answer, effect⟩
      · exact .inl same
      · exact .inr (callEffect_acts w effect)
  | none =>
    simp only [World.apply, hi]
    cases event with
    | start k job cancelled =>
      rcases w.start_cases k job cancelled with same | ⟨base, task, note, started, hb, -⟩
      · exact .inl (congrArg World.cluster same)
      · exact .inl (by simp only [started, addTask_cluster, hb.cluster])
    | inject operation error => exact .inr ⟨.inject operation error, rfl⟩
    | refuse count => exact .inr ⟨.refuse count, rfl⟩
    | toggleOffline => exact .inr ⟨.toggleOffline, rfl⟩
    | openSession slot settings =>
      refine .inr ⟨.connect settings, ?_⟩
      dsimp only [openSession, Cluster.act]
      split <;> rename_i h <;> simp [h]
    | request slot request =>
      dsimp only [World.request]
      cases w.sessions.lookup slot with
      | none => exact .inl rfl
      | some s => exact .inr ⟨.request s request, rfl⟩
    | markFatal slot =>
      refine .inl ?_
      dsimp only [markFatal]
      split <;> rfl
    | _ => exact .inl rfl

end World

/-- Whatever services do in a world, its broker and its sessions could have come about without
them. -/
theorem Run.exists_clusterRun (r : Run) :
    ∃ actions, r.world.cluster = (⟨r.partitions, actions⟩ : ClusterRun).cluster := by
  induction r using by_events with
  | idle r nothing => exact ⟨[], by simp [world_of_idle nothing, World.initial, ClusterRun.cluster,
      Cluster.afterwards]⟩
  | event r e ih =>
    obtain ⟨actions, same⟩ := ih
    rw [extend_world]
    rcases r.world.apply_acts e with idle | ⟨a, acted⟩
    · exact ⟨actions, idle.trans same⟩
    · refine ⟨actions ++ [a], acted.trans ?_⟩
      rw [same]
      exact ((⟨r.partitions, actions⟩ : ClusterRun).extend_cluster [a]).symm

end OutcomeRelay
