import OutcomeRelay.Proofs.Holdings
import OutcomeRelay.Proofs.Step
import OutcomeRelay.Proofs.Tally

set_option autoImplicit false

namespace OutcomeRelay

namespace Account

structure Idle (a : Account) : Prop where
  order : a.order = none
  untouched : a.Untouched

def Balanced (a : Account) (i : Nat) : Prop :=
  a.Idle ∨ ∃ topic payload producer, a.order = some (topic, payload) ∧
    a.Shown ⟨some i, some i, producer, topic, payload⟩

/-- A publish has returned, and its result tells whether a commit was answered in time. -/
def Returned (a : Account) (i : Nat) (result : PublishResult) : Prop :=
  ∃ topic payload producer, a.order = some (topic, payload) ∧
    a.Shown ⟨some i, some i, producer, topic, payload⟩ ∧
    a.commits = a.lateCommits + confirmed result

end Account

def Purpose.Fresh (a : Account) : Purpose → Prop
  | publish topic payload => a.order = some (topic, payload) ∧ a.Untouched
  | lend _ => a.Idle

def Outcome.Settled (i : Nat) (a : Account) : Outcome → Prop
  | published result => a.Returned i result
  | crashed _ => a.Balanced i
  | _ => a.Idle

namespace Handle

/-- A producer that is ready has nothing left over from an earlier transaction. -/
def Clean (buffer : SessionId → List Entry) (h : Handle) : Prop :=
  h.status = .ready → buffer h.session = []

def AtRest (buffer : SessionId → List Entry) (h : Handle) : Prop :=
  h.status = .ready ∧ buffer h.session = []

def Lent (buffer : SessionId → List Entry) (h : Handle) : Prop :=
  h.Clean buffer ∧ ∀ e ∈ buffer h.session, e.sender = none

theorem AtRest.lent {buffer : SessionId → List Entry} {h : Handle} (rest : h.AtRest buffer) :
    h.Lent buffer :=
  ⟨fun _ => rest.2, by simp [rest.2]⟩

theorem Lent.markFatal {buffer : SessionId → List Entry} {h : Handle} (lent : h.Lent buffer) :
    h.markFatal.Lent buffer := by
  refine ⟨?_, by simpa using lent.2⟩
  unfold Clean Handle.markFatal
  split <;> simp_all

theorem Lent.perform {buffer : SessionId → List Entry} {h : Handle} (lent : h.Lent buffer)
    {request : Request} {answer : Option Reply}
    (emptied : answer = some (.ok ()) → request = .commit ∨ request = .abort →
      buffer h.session = []) : (h.perform request answer).2.Lent buffer := by
  refine ⟨?_, by simpa using lent.2⟩
  intro ready
  rw [perform_session]
  by_cases permitted : h.status.permits request.operation = true
  · rw [perform_permitted permitted] at ready
    rcases Status.eq_ready_of_after ready with before | ⟨done, ended⟩
    · exact lent.1 before
    · cases answer with
      | none => simp [verdict] at done
      | some reply =>
        refine emptied (congrArg some done) ?_
        cases request <;> simp [Request.operation] at ended ⊢
  · have refused : h.perform request answer =
        (.error (.illegalState request.operation h.status.name), h) := by
      simp [Handle.perform, refusal?, permitted]
    rw [refused] at ready
    exact lent.1 ready

end Handle

def AllEmpty (buffer : SessionId → List Entry) (held : Multiset Hold) : Prop :=
  ∀ hold ∈ held, buffer hold.1 = []

theorem AllEmpty.zero {buffer : SessionId → List Entry} : AllEmpty buffer 0 := by
  simp [AllEmpty]

theorem AllEmpty.of_le {buffer : SessionId → List Entry} {held more : Multiset Hold}
    (h : AllEmpty buffer more) (hle : held ≤ more) : AllEmpty buffer held :=
  fun hold hm => h hold (Multiset.mem_of_le hle hm)

namespace Activity

/-- The account of an activity and the sessions that it holds are as they must be. -/
def Sound (i : Nat) (a : Account) (buffer : SessionId → List Entry) (answer : Option Signal) :
    Activity → Prop
  | waiting _ purpose => purpose.Fresh a
  | borrowing purpose => purpose.Fresh a
  | creating purpose id creation => purpose.Fresh a ∧ AllEmpty buffer (creation.held id answer)
  | transacting t => a.order = some (t.topic, t.payload) ∧
      ∃ reply : Option Reply, answer = reply.map Signal.answered ∧
        t.Tallied i a (buffer t.handle.session) reply
  | returning handle outcome => outcome.Settled i a ∧ handle.Clean buffer
  | retiring _ _ outcome => outcome.Settled i a
  | draining _ _ => a.Idle
  | operating _ handle request => a.Idle ∧ handle.Lent buffer ∧
      (answer = some (.answered (.ok ())) → request = .commit ∨ request = .abort →
        buffer handle.session = [])
  | making _ id attempt => a.Idle ∧ AllEmpty buffer (attempt.held id answer)
  | ended outcome => outcome.Settled i a

variable {i : Nat} {a : Account} {buffer : SessionId → List Entry} {answer : Option Signal}

theorem Sound.congr {activity : Activity} (h : activity.Sound i a buffer answer)
    {other : SessionId → List Entry}
    (same : ∀ hold ∈ activity.held answer, other hold.1 = buffer hold.1) :
    activity.Sound i a other answer := by
  cases activity with
  | waiting | borrowing | retiring | draining | ended => exact h
  | creating purpose id creation =>
    exact ⟨h.1, fun hold hm => (same hold hm).trans (h.2 hold hm)⟩
  | making slot id attempt =>
    exact ⟨h.1, fun hold hm => (same hold hm).trans (h.2 hold hm)⟩
  | transacting t =>
    have own : other t.handle.session = buffer t.handle.session :=
      same t.handle.hold (Multiset.mem_singleton_self _)
    simpa only [Sound, own] using h
  | returning handle outcome =>
    have own : other handle.session = buffer handle.session :=
      same handle.hold (Multiset.mem_singleton_self _)
    simpa only [Sound, Handle.Clean, own] using h
  | operating slot handle request =>
    have own : other handle.session = buffer handle.session :=
      same handle.hold (Multiset.mem_singleton_self _)
    simpa only [Sound, Handle.Lent, Handle.Clean, own] using h

theorem Sound.balanced {activity : Activity} (h : activity.Sound i a buffer answer) :
    a.Balanced i := by
  have fresh {purpose : Purpose} (hp : purpose.Fresh a) : a.Balanced i := by
    cases purpose with
    | publish topic payload => exact .inr ⟨topic, payload, "", hp.1, hp.2.shown _⟩
    | lend slot => exact .inl hp
  have settled {outcome : Outcome} (ho : outcome.Settled i a) : a.Balanced i := by
    cases outcome with
    | published result =>
      obtain ⟨topic, payload, producer, order, shown, _⟩ := ho
      exact .inr ⟨topic, payload, producer, order, shown⟩
    | crashed text => exact ho
    | rejected | lent | returned | drained | replied | dropped => exact .inl ho
  cases activity with
  | waiting millis purpose => exact fresh h
  | borrowing purpose => exact fresh h
  | creating purpose id creation => exact fresh h.1
  | transacting t =>
    obtain ⟨order, reply, _, tallied⟩ := h
    exact .inr ⟨t.topic, t.payload, t.handle.id, order, tallied.shown⟩
  | returning handle outcome => exact settled h.1
  | retiring handle discarded outcome => exact settled h
  | draining handles closed => exact .inl h
  | operating slot handle request => exact .inl h.1
  | making slot id attempt => exact .inl h.1
  | ended outcome => exact settled h

end Activity

structure Move.Sound (m : Move) (i : Nat) (a : Account) (buffer : SessionId → List Entry) :
    Prop where
  activity : m.activity.Sound i a buffer none
  idle : ∀ handle ∈ m.pool.idle, handle.AtRest buffer
  lent : ∀ slot ∈ m.lent, slot.2.Lent buffer

theorem Move.sound_of_unlent {m : Move} {i : Nat} {a : Account} {buffer : SessionId → List Entry}
    (activity : m.activity.Sound i a buffer none)
    (idle : ∀ handle ∈ m.pool.idle, handle.AtRest buffer) (unlent : m.lent = none) :
    m.Sound i a buffer :=
  ⟨activity, idle, by simp [unlent]⟩

namespace Activity

variable {i : Nat} {a : Account} {buffer : SessionId → List Entry} {pool : Pool}
  (rest : ∀ handle ∈ pool.idle, handle.AtRest buffer)

include rest

theorem serve_sound {handle : Handle} (ready : handle.AtRest buffer) {purpose : Purpose}
    (fresh : purpose.Fresh a) : (serve pool handle purpose).Sound i a buffer := by
  cases purpose with
  | publish topic payload =>
    exact Move.sound_of_unlent ⟨fresh.1, none, rfl, ready.1, fresh.2, ready.2⟩ rest rfl
  | lend slot =>
    refine ⟨fresh, rest, ?_⟩
    rintro _ ⟨⟩
    exact ready.lent

theorem refuse_sound (error : PoolError) {purpose : Purpose} (fresh : purpose.Fresh a) :
    (refuse pool error purpose).Sound i a buffer := by
  cases purpose with
  | publish topic payload =>
    obtain ⟨order, untouched⟩ := fresh
    refine Move.sound_of_unlent ⟨topic, payload, "", order, untouched.shown _, ?_⟩ rest rfl
    simp [untouched.commits, untouched.lateCommits, confirmed]
  | lend slot => exact Move.sound_of_unlent fresh rest rfl

theorem afterCreation_sound (service : Service) {purpose : Purpose} (fresh : purpose.Fresh a)
    (id : String) {next : Creation.Next} (empty : AllEmpty buffer (next.held id)) :
    (afterCreation service pool purpose id next).Sound i a buffer := by
  cases next with
  | ongoing creation => exact Move.sound_of_unlent ⟨fresh, empty⟩ rest rfl
  | made session =>
    have ready : (Attempt.handle service.options id session).AtRest buffer :=
      ⟨rfl, empty (session, some id) (Multiset.mem_singleton_self _)⟩
    have counted : ∀ handle ∈ pool.countCreated.idle, handle.AtRest buffer := rest
    exact serve_sound counted ready fresh
  | failed error => exact refuse_sound rest error fresh

theorem giveBack_sound {handle : Handle} (clean : handle.Clean buffer) {outcome : Outcome}
    (settled : outcome.Settled i a) : (giveBack pool handle outcome).Sound i a buffer := by
  rcases giveBack_cases pool handle outcome with ⟨ready, h⟩ | ⟨discarded, -, h⟩
  · rw [h]
    refine Move.sound_of_unlent settled ?_ rfl
    intro other hm
    rcases List.mem_cons.mp hm with rfl | old
    · exact ⟨ready, clean ready⟩
    · exact rest other old
  · rw [h]
    exact Move.sound_of_unlent settled rest rfl

theorem afterTransaction_sound {t : Transaction} (order : a.order = some (t.topic, t.payload))
    (tallied : t.Tallied i a (buffer t.handle.session) none) :
    (afterTransaction pool t).Sound i a buffer := by
  unfold afterTransaction Transaction.result?
  split
  · exact Move.sound_of_unlent ⟨order, none, rfl, tallied⟩ rest rfl
  · rename_i result hr
    split at hr
    · rename_i ended hp
      cases hr
      simp only [Transaction.Tallied, hp] at tallied
      obtain ⟨_, finished⟩ := tallied
      exact Move.sound_of_unlent
        ⟨⟨t.topic, t.payload, t.handle.id, order, finished.shown, finished.commits⟩,
          finished.clean⟩ rest rfl
    · simp at hr

theorem afterOperating_sound (idle : a.Idle) (slot : String) {handle : Handle} {request : Request}
    {answer : Option Reply} (lent : handle.Lent buffer)
    (emptied : answer = some (.ok ()) → request = .commit ∨ request = .abort →
      buffer handle.session = []) :
    (afterOperating pool slot handle request answer).Sound i a buffer := by
  refine ⟨idle, rest, ?_⟩
  rintro _ ⟨⟩
  exact lent.perform emptied

theorem afterMaking_sound {service : Service} (same : pool = service.pool) (idle : a.Idle)
    (slot id : String) {next : Attempt.Next} (empty : AllEmpty buffer (next.held id)) :
    (afterMaking service slot id next).Sound i a buffer := by
  subst same
  cases next with
  | ongoing attempt => exact Move.sound_of_unlent ⟨idle, empty⟩ rest rfl
  | made session =>
    have ready : (Attempt.handle service.options id session).AtRest buffer :=
      ⟨rfl, empty (session, some id) (Multiset.mem_singleton_self _)⟩
    refine ⟨idle, rest, ?_⟩
    rintro _ ⟨⟩
    exact ready.lent
  | failed error => exact Move.sound_of_unlent idle rest rfl

theorem borrow_sound {service : Service} (same : pool = service.pool) (cancelled : Bool)
    {purpose : Purpose} (fresh : purpose.Fresh a) :
    (borrow service cancelled purpose).Sound i a buffer := by
  subst same
  rcases borrow_cases service cancelled purpose with h | ⟨handle, idle, hi, h⟩ | ⟨id, ids, h⟩
  · rw [h]
    exact refuse_sound rest .closed fresh
  · rw [hi] at rest
    rw [h]
    have others : ∀ other ∈ idle, other.AtRest buffer := fun other hm =>
      rest other (List.mem_cons_of_mem _ hm)
    exact serve_sound others (rest handle List.mem_cons_self) fresh
  · have nothing : AllEmpty buffer ((Creation.begin cancelled 0).held id) := by
      rw [Creation.begin_held]
      exact .zero
    have kept : ∀ handle ∈ ({ service.pool with ids := ids } : Pool).idle,
        handle.AtRest buffer := rest
    rw [h]
    exact afterCreation_sound kept service fresh id nothing

/-- Unless it is a transaction, an activity that is told something stays in order. -/
theorem resume_sound {service : Service} (same : pool = service.pool) (cancelled : Bool)
    {activity : Activity} {signal : Signal} {answer : Option Signal}
    (other : ∀ t, activity ≠ .transacting t) (h : activity.Sound i a buffer answer)
    (news : signal.IsNews answer) :
    (activity.resume service cancelled signal).Sound i a buffer := by
  subst same
  cases activity with
  | waiting millis purpose => exact Move.sound_of_unlent h rest rfl
  | borrowing purpose => exact borrow_sound rest rfl cancelled h
  | creating purpose id creation =>
    exact afterCreation_sound rest service h.1 id
      (h.2.of_le (creation.resume_held id _ _ cancelled news))
  | transacting t => exact absurd rfl (other t)
  | returning handle outcome => exact giveBack_sound rest h.2 h.1
  | retiring handle discarded outcome => cases discarded <;> exact Move.sound_of_unlent h rest rfl
  | draining handles closed => cases handles <;> exact Move.sound_of_unlent h rest rfl
  | operating slot handle request =>
    refine afterOperating_sound rest h.1 slot h.2.1 ?_
    intro arrived
    refine h.2.2 ?_
    cases signal with
    | answered reply =>
      obtain rfl : reply = .ok () := by simpa [replyOf] using arrived
      simpa [Signal.IsNews] using news
    | opened | silence | resumed => simp [replyOf] at arrived
  | making slot id attempt =>
    exact afterMaking_sound rest rfl h.1 slot id (h.2.of_le (attempt.resume_held id _ news))
  | ended outcome => exact Move.sound_of_unlent h rest rfl

end Activity

end OutcomeRelay
