import OutcomeRelay.Proofs.Transcript

set_option autoImplicit false

namespace OutcomeRelay

def Request.isTransactional : Request → Bool
  | init => false
  | begin => true
  | send _ _ => true
  | commit => true
  | abort => true
  | close => false

namespace Session

variable {x : Session} {b : Broker}

def isSpent (x : Session) : Bool := x.closed || x.failure.isSome

/-- The session is spent, or its transactional id has been registered by another one. -/
def Fenced (x : Session) (b : Broker) : Prop := x.isSpent = true ∨ x.epoch < b.epoch x.id

def TurnedDown (x : Session) (b : Broker) (result : Reply × Session × Broker) : Prop :=
  ∃ reason failure, result = (.error (.fatal reason), { x with failure := failure }, b) ∧
    Session.isSpent { x with failure := failure } = true

theorem check_of_fenced (h : x.Fenced b) (operation : Operation) :
    x.TurnedDown b (x.check b operation) := by
  unfold check
  split
  · rename_i closed
    exact ⟨_, x.failure, rfl, by simp [isSpent, closed]⟩
  · rename_i unclosed
    split
    · rename_i reason remembered
      exact ⟨reason, x.failure, rfl, by simp [isSpent, remembered]⟩
    · rename_i forgotten
      have overtaken : x.epoch < b.epoch x.id :=
        h.resolve_left (by simpa [isSpent, forgotten] using unclosed)
      rw [if_pos overtaken]
      exact ⟨_, some (fencedReason x.id), rfl, by simp [isSpent]⟩

theorem perform_of_fenced (h : x.Fenced b) {request : Request}
    (transactional : request.isTransactional = true) : x.TurnedDown b (x.perform b request) := by
  have guarded (operation : Operation) (effect : Session → Broker → Session × Broker) :
      x.TurnedDown b (x.guarded b operation effect) := by
    obtain ⟨reason, failure, checked, spent⟩ := check_of_fenced h operation
    exact ⟨reason, failure, by simp only [guarded, checked], spent⟩
  cases request with
  | init | close => simp [Request.isTransactional] at transactional
  | begin | send | commit | abort => exact guarded _ _

theorem perform_spent (h : x.isSpent = true) (request : Request) :
    (x.perform b request).2.1.isSpent = true := by
  by_cases transactional : request.isTransactional = true
  · obtain ⟨reason, failure, performed, spent⟩ :=
      perform_of_fenced (b := b) (.inl h) transactional
    rw [performed]
    exact spent
  · cases request with
    | init =>
      rcases x.init_cases b with ⟨error, failure, faults, -⟩ | done
      · simp only [perform, init]
        split
        · exact h
        · split <;> exact h
      · simp only [perform, done]
        exact h
    | close =>
      simp only [perform]
      split
      · exact h
      · rfl
    | begin | send | commit | abort => simp [Request.isTransactional] at transactional

theorem perform_fatal {request : Request} (transactional : request.isTransactional = true)
    {reason : String} (h : (x.perform b request).1 = .error (.fatal reason)) :
    (x.perform b request).2.1.isSpent = true := by
  by_cases fenced : x.Fenced b
  · obtain ⟨_, failure, performed, spent⟩ := perform_of_fenced fenced transactional
    rw [performed]
    exact spent
  · -- Nothing stands in the way but a failure that has been injected.
    simp only [Fenced, isSpent, not_or, Bool.not_eq_true, Bool.or_eq_false_iff,
      Option.isSome_eq_false_iff, Option.isNone_iff_eq_none] at fenced
    obtain ⟨⟨unclosed, forgotten⟩, current⟩ := fenced
    have guarded (operation : Operation) (effect : Session → Broker → Session × Broker)
        (failed : (x.guarded b operation effect).1 = .error (.fatal reason)) :
        (x.guarded b operation effect).2.1.isSpent = true := by
      simp only [guarded, check, unclosed, forgotten, current, Bool.false_eq_true, if_false]
        at failed ⊢
      cases injected : b.fault? operation with
      | none => simp [injected] at failed
      | some fault =>
        simp only [injected, Except.error.injEq] at failed
        simp [failed, failWith, isSpent]
    cases request with
    | init | close => simp [Request.isTransactional] at transactional
    | begin | send | commit | abort => exact guarded _ _ h

theorem perform_close_spent : (x.perform b .close).2.1.isSpent = true := by
  simp only [perform]
  split
  · rename_i closed
    simp [isSpent, closed]
  · rfl

end Session

namespace Cluster

variable {c : Cluster} {s t : SessionId} {x : Session}

theorem perform_eq (hs : c.sessions[s]? = some x) (request : Request) :
    c.perform s request = ((x.perform c.broker request).1,
      ⟨(x.perform c.broker request).2.2, c.sessions.set s (x.perform c.broker request).2.1⟩) := by
  simp [perform, hs]

theorem perform_self (hs : c.sessions[s]? = some x) (request : Request) :
    (c.perform s request).2.sessions[s]? = some (x.perform c.broker request).2.1 := by
  simp [perform_eq hs, List.getElem?_set_self (List.getElem?_eq_some_iff.mp hs).1]

theorem perform_ne (h : s ≠ t) (request : Request) :
    (c.perform s request).2.sessions[t]? = c.sessions[t]? := by
  unfold perform
  split
  · rfl
  · exact List.getElem?_set_ne h

def Barred (c : Cluster) (s : SessionId) : Prop :=
  ∃ x, c.sessions[s]? = some x ∧ x.isSpent = true

/-- The session can do nothing unless it is registered again in time. -/
def Fenced (c : Cluster) (s : SessionId) : Prop :=
  ∃ x, c.sessions[s]? = some x ∧ x.Fenced c.broker

theorem Barred.fenced (h : c.Barred s) : c.Fenced s := by
  obtain ⟨x, hs, spent⟩ := h
  exact ⟨x, hs, .inl spent⟩

theorem Fenced.perform (h : c.Fenced s) {request : Request}
    (transactional : request.isTransactional = true) :
    (∃ reason, (c.perform s request).1 = .error (.fatal reason)) ∧
      (c.perform s request).2.broker = c.broker ∧ (c.perform s request).2.Barred s := by
  obtain ⟨x, hs, fenced⟩ := h
  obtain ⟨reason, failure, performed, spent⟩ := Session.perform_of_fenced fenced transactional
  refine ⟨⟨reason, ?_⟩, ?_, _, perform_self hs request, ?_⟩
  · simp [perform_eq hs, performed]
  · simp [perform_eq hs, performed]
  · rw [performed]
    exact spent

theorem Fenced.commit_fails (h : c.Fenced s) :
    ∃ reason, (c.perform s .commit).1 = .error (.fatal reason) := by
  have transactional : Request.isTransactional .commit = true := rfl
  exact (h.perform transactional).1

theorem barred_of_fatal {request : Request} (transactional : request.isTransactional = true)
    {reason : String} (opened : s < c.sessions.length)
    (h : (c.perform s request).1 = .error (.fatal reason)) : (c.perform s request).2.Barred s := by
  have hs := List.getElem?_eq_getElem opened
  have failed : (c.sessions[s].perform c.broker request).1 = .error (.fatal reason) := by
    simpa [perform_eq hs] using h
  exact ⟨_, perform_self hs request, Session.perform_fatal transactional failed⟩

theorem barred_of_closed (opened : s < c.sessions.length) : (c.perform s .close).2.Barred s :=
  ⟨_, perform_self (List.getElem?_eq_getElem opened) .close, Session.perform_close_spent⟩

theorem epoch_act (c : Cluster) (a : Action) (id : String) :
    c.broker.epoch id ≤ (c.act a).broker.epoch id := by
  have step := c.acts a
  generalize c.answered? a = note, c.act a = next at step
  cases step with
  | adjusted | joined | failed => exact le_rfl
  | done s request hs =>
    cases request with
    | init =>
      simp only [apply, Request.effect, Broker.epoch_register]
      split
      · rename_i same
        rw [same]
        exact Nat.le_succ _
      · exact le_rfl
    | _ => exact le_rfl

theorem act_session {a : Action} (apart : ∀ request, a ≠ .request s request)
    (hs : c.sessions[s]? = some x) : (c.act a).sessions[s]? = some x := by
  cases a with
  | connect settings =>
    rcases World.connect_cases c settings with ⟨error, refusals, h⟩ | h
    · simp only [act, h]
      exact hs
    · simp only [act, h]
      exact join_older hs settings.id
  | request t request =>
    have other : t ≠ s := fun same => apart request (by rw [same])
    exact (perform_ne other request).trans hs
  | inject | refuse | toggleOffline => exact hs

theorem Barred.act (h : c.Barred s) (a : Action) : (c.act a).Barred s := by
  obtain ⟨x, hs, spent⟩ := h
  by_cases own : ∃ request, a = .request s request
  · obtain ⟨request, rfl⟩ := own
    exact ⟨_, perform_self hs request, Session.perform_spent spent request⟩
  · exact ⟨x, act_session (fun request same => own ⟨request, same⟩) hs, spent⟩

theorem Fenced.act (h : c.Fenced s) {a : Action}
    (unregistered : a = .request s .init → (c.perform s .init).1 ≠ .ok ()) :
    (c.act a).Fenced s := by
  obtain ⟨x, hs, fenced⟩ := h
  rcases fenced with spent | overtaken
  · exact (Barred.act ⟨x, hs, spent⟩ a).fenced
  · by_cases own : ∃ request, a = .request s request
    · obtain ⟨request, rfl⟩ := own
      cases request with
      | init =>
        rcases c.perform_cases s .init with ⟨error, failure, faults, h⟩ | ⟨session, -, -, h⟩
        · simp only [Cluster.act, h]
          exact ⟨{ x with failure := failure }, by simp [fail, hs], .inr overtaken⟩
        · exact absurd (by rw [h]) (unregistered rfl)
      | close => exact (barred_of_closed (List.getElem?_eq_some_iff.mp hs).1).fenced
      | begin | send | commit | abort =>
        exact (Fenced.perform ⟨x, hs, .inr overtaken⟩ rfl).2.2.fenced
    · have later := c.epoch_act a x.id
      exact ⟨x, act_session (fun request same => own ⟨request, same⟩) hs,
        .inr (overtaken.trans_le later)⟩

/-- The session is registered again before it makes a request that belongs to a transaction. -/
def Renews (c : Cluster) (s : SessionId) (later : List Action) : Prop :=
  ∃ before rest, later = before ++ .request s .init :: rest ∧
    ((c.afterwards before).perform s .init).1 = .ok () ∧
    ∀ request, .request s request ∈ before → request.isTransactional = false

def ShutOut (c : Cluster) (s : SessionId) (later : List Action) : Prop :=
  c.Barred s ∨ (c.Fenced s ∧ ¬ c.Renews s later)

variable {a : Action} {later : List Action}

theorem ShutOut.fenced (h : c.ShutOut s later) : c.Fenced s :=
  h.elim Barred.fenced And.left

theorem ShutOut.act (h : c.ShutOut s (a :: later)) : (c.act a).ShutOut s later := by
  rcases h with barred | ⟨fenced, unrenewed⟩
  · exact .inl (barred.act a)
  · by_cases asks : ∃ request, a = .request s request ∧ request.isTransactional = true
    · -- It has asked in vain, and will remember.
      obtain ⟨request, rfl, transactional⟩ := asks
      exact .inl (fenced.perform transactional).2.2
    · refine .inr ⟨fenced.act ?_, ?_⟩
      · rintro rfl registered
        exact unrenewed ⟨[], later, rfl, registered, by simp⟩
      · rintro ⟨before, rest, rfl, registered, others⟩
        refine unrenewed ⟨a :: before, rest, rfl, registered, fun request asked => ?_⟩
        rcases List.mem_cons.mp asked with first | asked
        · exact Bool.not_eq_true _ ▸ fun transactional => asks ⟨request, first.symm, transactional⟩
        · exact others request asked

theorem ShutOut.afterwards (h : c.ShutOut s later) : (c.afterwards later).Fenced s := by
  induction later generalizing c with
  | nil => exact h.fenced
  | cons a later ih => exact ih h.act

theorem ShutOut.unseen (h : c.ShutOut s later) {past : Transcript} {m : Sent} (own : m.session = s)
    (unseen : m ∉ past.shown) : m ∉ (c.transcript past later).shown := by
  induction later generalizing c past with
  | nil => exact unseen
  | cons a later ih =>
    refine ih h.act fun visible => ?_
    cases a with
    | request t request =>
      rcases Transcript.mem_shown_cons visible with old | ⟨commit, ok, held⟩
      · exact unseen old
      · obtain rfl : request = .commit := commit
        obtain rfl : t = s := (Transcript.session_of_held held).symm.trans own
        obtain ⟨reason, failed⟩ := h.fenced.commit_fails
        simp [failed] at ok
    | _ => exact unseen visible

end Cluster

theorem Request.effect_epoch {request : Request} (h : request ≠ .init) (x : Session) (b : Broker) :
    (request.effect x b).1.id = x.id ∧ (request.effect x b).1.epoch = x.epoch ∧
      ∀ id, (request.effect x b).2.epoch id = b.epoch id := by
  cases request with
  | init => exact absurd rfl h
  | close =>
    refine ⟨?_, ?_, fun _ => rfl⟩ <;>
    · simp only [effect]
      split <;> rfl
  | begin | send | commit | abort => exact ⟨rfl, rfl, fun _ => rfl⟩

def Answered.registers (id : String) (a : Answered) : Bool :=
  a.producer = id && a.request = .init && a.reply = .ok ()

namespace Transcript

def registrant? (past : Transcript) (id : String) : Option SessionId :=
  (past.find? (Answered.registers id)).map (·.session)

/-- Epochs tell the session that was registered last from all others. -/
structure Tracks (past : Transcript) (c : Cluster) : Prop where
  bounded : ∀ (s : SessionId) (x : Session), c.sessions[s]? = some x →
    x.epoch ≤ c.broker.epoch x.id
  latest : ∀ (s : SessionId) (x : Session), c.sessions[s]? = some x → 0 < x.epoch →
    x.epoch = c.broker.epoch x.id → past.registrant? x.id = some s
  known : ∀ a ∈ past, ∀ id, a.registers id = true →
    ∃ x, c.sessions[a.session]? = some x ∧ x.id = id ∧ 0 < x.epoch

namespace Tracks

variable {past : Transcript} {c next : Cluster}

theorem empty (partitions : Nat) : Tracks [] (Cluster.empty partitions) where
  bounded s x hs := by simp [Cluster.empty] at hs
  latest s x hs := by simp [Cluster.empty] at hs
  known := by simp

theorem quiet (h : past.Tracks c) {note : Option Answered}
    (silent : ∀ a ∈ note, ∀ id, a.registers id = false)
    (epochs : ∀ id, next.broker.epoch id = c.broker.epoch id)
    (older : ∀ (s : SessionId) (x : Session), c.sessions[s]? = some x →
      ∃ y, next.sessions[s]? = some y ∧ y.id = x.id ∧ y.epoch = x.epoch)
    (newer : ∀ s < next.sessions.length, s < c.sessions.length ∨
      ∃ y, next.sessions[s]? = some y ∧ y.epoch = 0) : Tracks (note.toList ++ past) next := by
  have origin (s : SessionId) (y : Session) (hy : next.sessions[s]? = some y) :
      y.epoch = 0 ∨ ∃ x, c.sessions[s]? = some x ∧ y.id = x.id ∧ y.epoch = x.epoch := by
    rcases newer s (List.getElem?_eq_some_iff.mp hy).1 with old | ⟨z, hz, zero⟩
    · have hx := List.getElem?_eq_getElem old
      obtain ⟨z, hz, id, epoch⟩ := older s _ hx
      obtain rfl := Option.some.inj (hy.symm.trans hz)
      exact .inr ⟨_, hx, id, epoch⟩
    · exact .inl (Option.some.inj (hy.symm.trans hz) ▸ zero)
  have same (id : String) : registrant? (note.toList ++ past) id = past.registrant? id := by
    cases note with
    | none => rfl
    | some a => simp [registrant?, silent a rfl id]
  refine ⟨fun s y hy => ?_, fun s y hy positive current => ?_, fun a ha id registers => ?_⟩
  · rcases origin s y hy with zero | ⟨x, hx, id, epoch⟩
    · exact zero ▸ Nat.zero_le _
    · rw [epochs, id, epoch]
      exact h.bounded s x hx
  · rcases origin s y hy with zero | ⟨x, hx, id, epoch⟩
    · exact absurd zero (Nat.ne_of_gt positive)
    · rw [same, id]
      exact h.latest s x hx (epoch ▸ positive) (by rw [← epoch, current, epochs, id])
  · rcases List.mem_append.mp ha with new | old
    · simp [silent a (Option.mem_toList.mp new) id] at registers
    · obtain ⟨x, hx, rfl, positive⟩ := h.known a old id registers
      obtain ⟨y, hy, id, epoch⟩ := older _ x hx
      exact ⟨y, hy, id, epoch ▸ positive⟩

theorem registered (h : past.Tracks c) {s : SessionId} {session : Session}
    (hs : c.sessions[s]? = some session) :
    Tracks (⟨s, session.id, .init, .ok ()⟩ :: past) (c.apply s session .init) := by
  have here : (c.apply s session .init).sessions[s]? =
      some { session with epoch := (c.broker.register session.id).epoch session.id } :=
    Cluster.apply_self hs .init
  have elsewhere {t : SessionId} (other : s ≠ t) :
      (c.apply s session .init).sessions[t]? = c.sessions[t]? := c.apply_ne other session .init
  have epoch (id : String) : (c.apply s session .init).broker.epoch id =
      if id = session.id then c.broker.epoch session.id + 1 else c.broker.epoch id := by
    simp only [Cluster.apply, Request.effect, Broker.epoch_register]
  refine ⟨fun t y hy => ?_, fun t y hy positive current => ?_, fun a ha id registers => ?_⟩
  · by_cases same : s = t
    · subst t
      obtain rfl := Option.some.inj (here.symm.trans hy)
      exact le_rfl
    · have bound := h.bounded t y (elsewhere same ▸ hy)
      rw [epoch]
      split
      · rename_i id
        exact Nat.le_succ_of_le (id ▸ bound)
      · exact bound
  · by_cases same : s = t
    · subst t
      obtain rfl := Option.some.inj (here.symm.trans hy)
      simp [registrant?, Answered.registers]
    · -- Whoever has the same id is overtaken, and all others are left alone.
      have hy' := elsewhere same ▸ hy
      have bound := h.bounded t y hy'
      rw [epoch] at current
      split at current
      · rename_i id
        rw [id] at bound
        omega
      · rename_i id
        have passed : Answered.registers y.id ⟨s, session.id, .init, .ok ()⟩ = false := by
          simp [Answered.registers, Ne.symm id]
        simpa [registrant?, List.find?_cons, passed] using h.latest t y hy' positive current
  · by_cases same : s = a.session
    · have positive : 0 < (c.broker.register session.id).epoch session.id := by
        simp [Broker.epoch_register]
      rw [← same]
      refine ⟨_, here, ?_, positive⟩
      rcases List.mem_cons.mp ha with rfl | old
      · simpa [Answered.registers] using registers
      · obtain ⟨x, hx, rfl, -⟩ := h.known a old id registers
        obtain rfl := Option.some.inj (hs.symm.trans (same ▸ hx))
        rfl
    · rcases List.mem_cons.mp ha with rfl | old
      · exact absurd rfl same
      · obtain ⟨x, hx, id, positive⟩ := h.known a old id registers
        exact ⟨x, (elsewhere same).trans hx, id, positive⟩

theorem step {note : Option Answered} (h : past.Tracks c) (step : c.Acts note next) :
    Tracks (note.toList ++ past) next := by
  cases step with
  | adjusted =>
    exact h.quiet (by simp) (fun _ => rfl) (fun s x hs => ⟨x, hs, rfl, rfl⟩) fun s hlt => .inl hlt
  | joined id =>
    refine h.quiet (by simp) (fun _ => rfl)
      (fun s x hs => ⟨x, Cluster.join_older hs id, rfl, rfl⟩) fun s hlt => ?_
    rcases Nat.lt_or_ge s c.sessions.length with old | new
    · exact .inl old
    · obtain rfl : s = c.sessions.length := by simp [Cluster.join] at hlt; omega
      exact .inr ⟨{ id := id }, by simp [Cluster.join], rfl⟩
  | @failed s request error failure faults answer =>
    refine h.quiet (by simp [Answered.registers]) (fun _ => rfl) (fun t x ht => ?_) fun t hlt => ?_
    · by_cases same : s = t
      · exact ⟨{ x with failure := failure }, by simp [Cluster.fail, same, ht], rfl, rfl⟩
      · exact ⟨x, by simp [Cluster.fail, same, ht], rfl, rfl⟩
    · exact .inl (by simpa [Cluster.fail] using hlt)
  | @done s request session hs unclosed answer =>
    by_cases registers : request = .init
    · subst request
      exact h.registered hs
    · obtain ⟨id, epoch, epochs⟩ := Request.effect_epoch registers session c.broker
      refine h.quiet (by simp [Answered.registers, registers]) epochs (fun t x ht => ?_)
        fun t hlt => ?_
      · by_cases same : s = t
        · subst t
          obtain rfl := Option.some.inj (hs.symm.trans ht)
          exact ⟨_, Cluster.apply_self hs request, id, epoch⟩
        · exact ⟨x, (c.apply_ne same session request).trans ht, rfl, rfl⟩
      · exact .inl (by simpa [Cluster.apply] using hlt)

end Tracks

end Transcript

namespace ClusterRun

variable (r : ClusterRun)

theorem tracks : r.transcript.Tracks r.cluster :=
  r.keeps (P := Transcript.Tracks) (.empty _) fun _ _ _ _ h step => h.step step

variable {r} {s t : SessionId}

/-- Registering a session fences all others of its transactional id. -/
theorem fenced_of_registered (other : s ≠ t) (same : r.cluster.producer? s = r.cluster.producer? t)
    (registered : (r.cluster.perform t .init).1 = .ok ()) :
    (r.cluster.perform t .init).2.Fenced s := by
  rcases r.cluster.perform_cases t .init with ⟨error, _, _, h⟩ | ⟨y, ht, -, h⟩
  · simp [h] at registered
  · have named : r.cluster.producer? s = some y.id :=
      same.trans (by simp [Cluster.producer?, ht])
    obtain ⟨x, hs, id⟩ := Option.map_eq_some_iff.mp named
    have bound := r.tracks.bounded s x hs
    refine ⟨x, (Cluster.perform_ne (Ne.symm other) .init).trans hs, .inr ?_⟩
    rw [h]
    simp only [Cluster.apply, Request.effect, Broker.epoch_register, id, if_true]
    exact Nat.lt_succ_of_le (id ▸ bound)

theorem registrant_of_unfenced {id : String} {a : Answered} (ha : a ∈ r.transcript)
    (registers : a.registers id = true) (unfenced : ¬ r.cluster.Fenced a.session) :
    r.transcript.registrant? id = some a.session := by
  obtain ⟨x, hs, rfl, positive⟩ := r.tracks.known a ha id registers
  have current : ¬ x.epoch < r.cluster.broker.epoch x.id := fun overtaken =>
    unfenced ⟨x, hs, .inr overtaken⟩
  have bound := r.tracks.bounded a.session x hs
  exact r.tracks.latest a.session x hs positive (by omega)

variable (r)

/-- Once a session has been overtaken, and unless it is registered again before it makes a request
that belongs to a transaction, every such request fails for good for the rest of the run: it
uses up no injected failure, changes neither the log nor another session, and nothing that the
session held comes into the log. So of the sessions that were registered for a transactional id
none can commit but the one that was registered last. -/
theorem fenced_for_good :
    (∀ s t, s ≠ t → r.cluster.producer? s = r.cluster.producer? t →
      (r.cluster.perform t .init).1 = .ok () →
      ∀ later, ¬ (r.cluster.act (.request t .init)).Renews s later →
        let after := r.extend (.request t .init :: later)
        (∀ request : Request, request.isTransactional = true →
          (∃ reason, (after.cluster.perform s request).1 = .error (.fatal reason)) ∧
          (after.cluster.perform s request).2.broker = after.cluster.broker ∧
          ∀ u ≠ s, (after.cluster.perform s request).2.sessions[u]? =
            after.cluster.sessions[u]?) ∧
        after.cluster.broker.topics = (Topics.empty r.partitions).post after.transcript.logged ∧
        ∀ m ∈ r.transcript.held s, m ∉ after.transcript.shown) ∧
    ∀ (s : SessionId) (id : String), (∃ a ∈ r.transcript, a.session = s ∧ a.registers id = true) →
      (∀ reason, (r.cluster.perform s .commit).1 ≠ .error (.fatal reason)) →
      r.transcript.registrant? id = some s := by
  constructor
  · intro s t other same registered later unrenewed after
    have shutOut : (r.cluster.act (.request t .init)).ShutOut s later :=
      .inr ⟨fenced_of_registered other same registered, unrenewed⟩
    have fenced : after.cluster.Fenced s := by
      rw [extend_cluster]
      exact shutOut.afterwards
    refine ⟨fun request transactional => ?_, after.describes.log, fun m hm => ?_⟩
    · obtain ⟨failed, broker, -⟩ := fenced.perform transactional
      exact ⟨failed, broker, fun u hu => Cluster.perform_ne (Ne.symm hu) request⟩
    · rw [extend_transcript]
      refine shutOut.unseen (Transcript.session_of_held hm) fun visible => ?_
      rcases Transcript.mem_shown_cons visible with old | ⟨commit, -⟩
      · exact Transcript.not_shown_of_held hm old
      · cases commit
  · rintro s id ⟨a, ha, rfl, registers⟩ unfailed
    refine registrant_of_unfenced ha registers fun fenced => ?_
    obtain ⟨reason, failed⟩ := fenced.commit_fails
    exact unfailed reason failed

/-- Two sessions of one transactional id, the first of which holds a record. -/
def overtaken : ClusterRun where
  partitions := 1
  actions :=
    let settings := Settings.transactional ["b"] "svc" (.ofSecs 60)
    [.connect settings, .request 0 .init, .request 0 .begin, .request 0 (.send "results" ⟨#[1]⟩),
      .connect settings, .inject .commit (.retriable "busy")]

/-- The first session asks once more before it is registered again. -/
def tooLate : List Action := [.request 0 (.send "results" ⟨#[2]⟩), .request 0 .init]

theorem overtaken_fenced :
    overtaken.transcript.held 0 = [⟨2, 0, "results", ⟨#[1]⟩⟩] ∧
    (let after := overtaken.extend (.request 1 .init :: tooLate)
     ((∃ reason, (after.cluster.perform 0 .commit).1 = .error (.fatal reason)) ∧
       (after.cluster.perform 0 .commit).2.broker = after.cluster.broker ∧
       ∀ u ≠ 0, (after.cluster.perform 0 .commit).2.sessions[u]? = after.cluster.sessions[u]?) ∧
     after.cluster.broker.topics = (Topics.empty 1).post after.transcript.logged ∧
     ∀ m ∈ overtaken.transcript.held 0, m ∉ after.transcript.shown) ∧
    overtaken.transcript.registrant? "svc" = some 0 := by
  have unrenewed : ¬ (overtaken.cluster.act (.request 1 .init)).Renews 0 tooLate := by
    rintro ⟨before, rest, split, -, others⟩
    cases before with
    | nil => simp [tooLate] at split
    | cons a before =>
      obtain ⟨rfl, -⟩ := List.cons.inj split
      exact absurd (others _ List.mem_cons_self) (by simp [Request.isTransactional])
  obtain ⟨fenced, registered⟩ := overtaken.fenced_for_good
  obtain ⟨down, log, unseen⟩ :=
    fenced 0 1 (by decide) (by decide +kernel) (by decide +kernel) tooLate unrenewed
  refine ⟨by decide +kernel, ⟨down .commit rfl, log, unseen⟩, registered 0 "svc" ?_ ?_⟩
  · exact ⟨⟨0, "svc", .init, .ok ()⟩, by decide +kernel, rfl, by decide +kernel⟩
  · have busy : (overtaken.cluster.perform 0 .commit).1 = .error (.retriable "busy") := by
      decide +kernel
    simp [busy]

end ClusterRun

end OutcomeRelay
