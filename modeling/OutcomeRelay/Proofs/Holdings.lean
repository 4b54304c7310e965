import Mathlib.Data.Multiset.OrderedMonoid
import OutcomeRelay.Proofs.Transaction
import OutcomeRelay.World.Basic

set_option autoImplicit false

namespace OutcomeRelay

/-- A session that is held, with the transactional id of the handle that holds it, if one does. -/
abbrev Hold := SessionId × Option String

def Handle.hold (h : Handle) : Hold := (h.session, some h.id)

namespace Attempt

def held (id : String) (answer : Option Signal) : Attempt → Multiset Hold
  | connecting =>
    match answer with
    | some (.opened session) => {(session, some id)}
    | _ => 0
  | registering session => {(session, some id)}
  | closing session _ => {(session, some id)}

def Next.held (id : String) : Next → Multiset Hold
  | ongoing attempt => attempt.held id none
  | made session => {(session, some id)}
  | failed _ => 0

end Attempt

namespace Creation

def held (id : String) (answer : Option Signal) : Creation → Multiset Hold
  | trying _ attempt => attempt.held id answer
  | pausing _ => 0

def Next.held (id : String) : Next → Multiset Hold
  | ongoing creation => creation.held id none
  | made session => {(session, some id)}
  | failed _ => 0

end Creation

def Activity.held (answer : Option Signal) : Activity → Multiset Hold
  | waiting _ _ => 0
  | borrowing _ => 0
  | creating _ id creation => creation.held id answer
  | transacting transaction => {transaction.handle.hold}
  | returning handle _ => {handle.hold}
  | retiring handle _ _ => {handle.hold}
  | draining handles _ => ↑(handles.map Handle.hold)
  | operating _ handle _ => {handle.hold}
  | making _ id attempt => attempt.held id answer
  | ended _ => 0

def Task.held (task : Task) : Multiset Hold := task.activity.held task.answer

def Pool.held (pool : Pool) : Multiset Hold := ↑(pool.idle.map Handle.hold)

def heldInSlots (slots : Slots Handle) : Multiset Hold := ↑(slots.map fun slot => slot.2.hold)

def heldBare (slots : Slots SessionId) : Multiset Hold :=
  ↑(slots.map fun slot => ((slot.2, none) : Hold))

def World.heldIdle (w : World) : Multiset Hold := (w.services.map (·.pool.held)).sum

def World.held (w : World) : Multiset Hold :=
  w.heldIdle + (w.tasks.map Task.held).sum + heldInSlots w.handles + heldBare w.sessions

def Move.held (m : Move) : Multiset Hold :=
  m.activity.held none + m.pool.held + (m.lent.elim 0 fun lent => {lent.2.hold})

/-- Connections and answers reach a task only if they were on their way to it. -/
def Signal.IsNews (signal : Signal) (answer : Option Signal) : Prop :=
  signal = .silence ∨ signal = .resumed ∨ answer = some signal

theorem Attempt.resume_held (id : String) (limit : Span) {signal : Signal}
    {answer : Option Signal} (h : signal.IsNews answer) (attempt : Attempt) :
    (attempt.resume limit signal).held id ≤ attempt.held id answer := by
  cases attempt with
  | connecting =>
    cases signal with
    | opened session =>
      obtain rfl : answer = some (.opened session) := by simpa [Signal.IsNews] using h
      simp [resume, Next.held, held]
    | answered reply => cases reply <;> simp [resume, Next.held, held]
    | silence => simp [resume, Next.held]
    | resumed => simp [resume, Next.held, held]
  | registering session =>
    cases signal with
    | answered reply => cases reply <;> simp [resume, Next.held, held]
    | opened _ | silence | resumed => simp [resume, Next.held, held]
  | closing session error =>
    cases signal <;> simp [resume, Next.held, held]

theorem Creation.begin_held (id : String) (cancelled : Bool) (failures : UInt32) :
    (begin cancelled failures).held id = 0 := by
  unfold begin
  split <;> rfl

theorem Creation.resume_held (id : String) (limit : Span) (policy : Backoff) (cancelled : Bool)
    {signal : Signal} {answer : Option Signal} (h : signal.IsNews answer) (creation : Creation) :
    (creation.resume limit policy cancelled signal).held id ≤ creation.held id answer := by
  cases creation with
  | pausing failures =>
    cases signal with
    | resumed => simp [resume, begin_held]
    | opened _ | answered _ | silence => simp [resume, Next.held, held]
  | trying failures attempt =>
    have step := attempt.resume_held id limit h
    simp only [resume, held]
    cases hn : attempt.resume limit signal with
    | ongoing next => simpa [hn, Next.held, Attempt.Next.held, held] using step
    | made session => simpa [hn, Next.held, Attempt.Next.held] using step
    | failed error =>
      simp only [fail]
      split <;> simp [Next.held, held]

namespace Activity

theorem borrow_cases (service : Service) (cancelled : Bool) (purpose : Purpose) :
    borrow service cancelled purpose = refuse service.pool .closed purpose ∨
    (∃ handle idle, service.pool.idle = handle :: idle ∧
      borrow service cancelled purpose = serve { service.pool with idle := idle } handle purpose) ∨
    ∃ id ids, borrow service cancelled purpose =
      afterCreation service { service.pool with ids := ids } purpose id
        (Creation.begin cancelled 0) := by
  by_cases closed : service.pool.isClosed = true
  · have found : service.pool.lookup service.options.baseId = (.closed, service.pool) := by
      simp [Pool.lookup, closed]
    exact .inl (by rw [borrow, found])
  · cases hi : service.pool.idle with
    | nil =>
      have found : service.pool.lookup service.options.baseId =
          (.miss (service.pool.ids.nextId service.options.baseId).1,
            { service.pool with ids := (service.pool.ids.nextId service.options.baseId).2 }) := by
        simp [Pool.lookup, closed, hi]
      exact .inr (.inr ⟨_, _, by rw [borrow, found]⟩)
    | cons handle idle =>
      have found : service.pool.lookup service.options.baseId =
          (.hit handle, { service.pool with idle := idle }) := by
        simp [Pool.lookup, closed, hi]
      exact .inr (.inl ⟨handle, idle, rfl, by rw [borrow, found]⟩)

theorem giveBack_cases (pool : Pool) (handle : Handle) (outcome : Outcome) :
    (handle.status = .ready ∧ giveBack pool handle outcome =
      { activity := ended outcome, pool := { pool with idle := handle :: pool.idle } }) ∨
    ∃ discarded, ((discarded = true ↔ handle.status ≠ .ready) ∧
        (discarded = false → pool.isClosed = true)) ∧ giveBack pool handle outcome =
      { activity := retiring handle discarded outcome, pool := pool } := by
  by_cases reusable : handle.status.isReusable = true
  · have ready : handle.status = .ready := by simpa [Status.isReusable] using reusable
    by_cases closed : pool.isClosed = true
    · have returned : pool.giveBack handle = (.close, pool) := by
        simp [Pool.giveBack, reusable, closed]
      exact .inr ⟨false, by simp [ready, closed], by rw [giveBack, returned]⟩
    · have returned : pool.giveBack handle =
          (.kept, { pool with idle := handle :: pool.idle }) := by
        simp [Pool.giveBack, reusable, closed]
      exact .inl ⟨ready, by rw [giveBack, returned]⟩
  · have returned : pool.giveBack handle = (.discard, pool) := by
      simp [Pool.giveBack, reusable]
    have unready : handle.status ≠ .ready := by simpa [Status.isReusable] using reusable
    exact .inr ⟨true, by simp [unready], by rw [giveBack, returned]⟩

theorem serve_held (pool : Pool) (handle : Handle) (purpose : Purpose) :
    (serve pool handle purpose).held = {handle.hold} + pool.held := by
  cases purpose <;> simp [serve, Move.held, held, add_comm]

theorem refuse_held (pool : Pool) (error : PoolError) (purpose : Purpose) :
    (refuse pool error purpose).held = pool.held := by
  cases purpose <;> simp [refuse, Move.held, held]

theorem afterCreation_held (service : Service) (pool : Pool) (purpose : Purpose) (id : String)
    (next : Creation.Next) :
    (afterCreation service pool purpose id next).held = next.held id + pool.held := by
  cases next with
  | ongoing creation => simp [afterCreation, Move.held, held, Creation.Next.held]
  | made session =>
    rw [afterCreation, serve_held]
    rfl
  | failed error => simp [afterCreation, refuse_held, Creation.Next.held]

theorem borrow_held (service : Service) (cancelled : Bool) (purpose : Purpose) :
    (borrow service cancelled purpose).held = service.pool.held := by
  rcases borrow_cases service cancelled purpose with h | ⟨handle, idle, hi, h⟩ | ⟨id, ids, h⟩
  · rw [h, refuse_held]
  · rw [h, serve_held]
    simp [Pool.held, hi]
  · rw [h, afterCreation_held, Creation.begin_held, zero_add]
    rfl

theorem giveBack_held (pool : Pool) (handle : Handle) (outcome : Outcome) :
    (giveBack pool handle outcome).held = {handle.hold} + pool.held := by
  rcases giveBack_cases pool handle outcome with ⟨_, h⟩ | ⟨discarded, -, h⟩
  · rw [h]
    simp [Move.held, held, Pool.held]
  · rw [h]
    simp [Move.held, held]

theorem afterMaking_held (service : Service) (slot id : String) (next : Attempt.Next) :
    (afterMaking service slot id next).held = next.held id + service.pool.held := by
  cases next with
  | ongoing attempt => simp [afterMaking, Move.held, held, Attempt.Next.held]
  | made session =>
    simp [afterMaking, Move.held, held, Attempt.Next.held, Attempt.handle, Handle.hold, add_comm]
  | failed error => simp [afterMaking, Move.held, held, Attempt.Next.held]

theorem afterOperating_held (pool : Pool) (slot : String) (handle : Handle) (request : Request)
    (answer : Option Reply) :
    (afterOperating pool slot handle request answer).held = {handle.hold} + pool.held := by
  simp [afterOperating, Move.held, held, Handle.hold, add_comm]

theorem afterTransaction_held (pool : Pool) (transaction : Transaction) :
    (afterTransaction pool transaction).held = {transaction.handle.hold} + pool.held := by
  unfold afterTransaction
  split <;> simp [Move.held, held]

theorem afterRetiring_held (pool : Pool) (discarded : Bool) (outcome : Outcome) :
    (afterRetiring pool discarded outcome).held = pool.held := by
  cases discarded <;> simp [afterRetiring, Move.held, held, Pool.held, Pool.countDiscarded]

/-- A move hands sessions on and may let go of some, but takes none from anywhere else. -/
theorem resume_held (service : Service) (cancelled : Bool) {signal : Signal}
    {answer : Option Signal} (h : signal.IsNews answer) (activity : Activity) :
    (activity.resume service cancelled signal).held ≤
      activity.held answer + service.pool.held := by
  cases activity with
  | waiting millis purpose => simp [resume, Move.held, held]
  | borrowing purpose => simp [resume, borrow_held, held]
  | creating purpose id creation =>
    simp only [resume, afterCreation_held, held]
    exact add_le_add_left (creation.resume_held id _ _ cancelled h) _
  | transacting transaction =>
    have alike := transaction.resume_alike service.retry cancelled signal
    simp [resume, afterTransaction_held, held, Handle.hold, alike.session, alike.id]
  | returning handle outcome => simp [resume, giveBack_held, held]
  | retiring handle discarded outcome =>
    simp [resume, afterRetiring_held, held, Multiset.le_cons_self]
  | draining handles closed =>
    cases handles with
    | nil => simp [resume, Move.held, held]
    | cons handle handles =>
      simp only [resume, Move.held, held, Option.elim_none, add_zero, List.map_cons]
      exact add_le_add_left (Multiset.le_cons_self _ _) _
  | operating slot handle request => simp [resume, afterOperating_held, held]
  | making slot id attempt =>
    simp only [resume, afterMaking_held, held]
    exact add_le_add_left (attempt.resume_held id _ h) _
  | ended outcome => simp [resume, Move.held, held]

end Activity

end OutcomeRelay
