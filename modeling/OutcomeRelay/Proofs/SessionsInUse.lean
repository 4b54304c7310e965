import OutcomeRelay.Proofs.Custody
import OutcomeRelay.Proofs.ExactlyOnce

set_option autoImplicit false

namespace OutcomeRelay

def Event.isCrash : Event → Bool
  | .crash _ _ => true
  | _ => false

def Attempt.inUse (answer : Option Signal) : Attempt → Multiset SessionId
  | connecting =>
    match answer with
    | some (.opened session) => {session}
    | _ => 0
  | registering session => {session}
  | closing session _ => if answer.isSome then 0 else {session}

def Creation.inUse (answer : Option Signal) : Creation → Multiset SessionId
  | trying _ attempt => attempt.inUse answer
  | pausing _ => 0

/-- The sessions that a task has and has not closed. An answer to a closing says that it is done. -/
def Activity.inUse (answer : Option Signal) : Activity → Multiset SessionId
  | creating _ _ creation => creation.inUse answer
  | transacting transaction => {transaction.handle.session}
  | returning handle _ => {handle.session}
  | retiring handle _ _ => if answer.isSome then 0 else {handle.session}
  | draining (handle :: handles) _ =>
    (if answer.isSome then 0 else {handle.session}) + sessionsOf handles
  | operating _ handle request =>
    if request = .close ∧ answer.isSome then 0 else {handle.session}
  | making _ _ attempt => attempt.inUse answer
  | _ => 0

/-- A connection is granted or refused, and a session is closed; the caller does not give up. -/
def Demand.mustBeMet : Demand → Bool
  | .connection _ _ => true
  | .answer _ _ .close _ => true
  | _ => false

theorem Status.after_ne_closed {s : Status} (h : s ≠ .closed) {operation : Operation}
    (other : operation ≠ .close) (reply : Reply) : s.after operation reply ≠ .closed := by
  unfold after
  rw [if_neg other]
  split
  · exact h
  · split <;> simp_all

theorem Handle.perform_ne_closed {h : Handle} (unclosed : h.status ≠ .closed) {request : Request}
    (other : request ≠ .close) (answer : Option Reply) :
    (h.perform request answer).2.status ≠ .closed := by
  have operation : request.operation ≠ .close := by cases request <;> simp_all [Request.operation]
  unfold perform
  split
  · exact unclosed
  · exact Status.after_ne_closed unclosed operation _

theorem Handle.markFatal_ne_closed {h : Handle} (unclosed : h.status ≠ .closed) :
    h.markFatal.status ≠ .closed := by
  simp [markFatal, unclosed]

namespace Transaction

variable {t : Transaction} (unclosed : t.handle.status ≠ .closed)

include unclosed

omit unclosed in
theorem request?_ne_close {request : Request} (h : t.request? = some request) :
    request ≠ .close := by
  rintro rfl
  unfold request? at h
  split at h
  · simp at h
  · rename_i step _ _
    cases step <;> simp [stepRequest] at h
  · simp at h
  · simp at h

theorem settle_ne_closed (retry : Backoff) (cancelled : Bool) (answer : Option Reply) :
    (t.settle retry cancelled answer).handle.status ≠ .closed := by
  unfold settle
  split
  · exact unclosed
  · rename_i request asked
    have performed := Handle.perform_ne_closed unclosed (request?_ne_close asked) answer
    rcases afterReply_handle { t with handle := (t.handle.perform request answer).2 } retry
      cancelled (t.handle.perform request answer).1 with same | spent
    · rw [same]
      exact performed
    · rw [spent]
      exact Handle.markFatal_ne_closed performed

theorem resume_ne_closed (retry : Backoff) (cancelled : Bool) (signal : Signal) :
    (t.resume retry cancelled signal).handle.status ≠ .closed := by
  unfold resume
  split
  · split <;> exact unclosed
  · exact unclosed
  · exact settle_ne_closed unclosed retry cancelled _
  · exact settle_ne_closed unclosed retry cancelled none
  · split
    · exact settle_ne_closed unclosed retry cancelled none
    · exact unclosed
  · exact unclosed

end Transaction

namespace Activity

def Unclosed (activity : Activity) : Prop := ∀ g ∈ activity.handles, g.status ≠ .closed

theorem resume_unclosed (service : Service) (cancelled : Bool) {activity : Activity}
    (serving : activity.serves = true) (unclosed : activity.Unclosed)
    (ready : ∀ g ∈ service.pool.idle, g.status = .ready) (signal : Signal) :
    (activity.resume service cancelled signal).activity.Unclosed := by
  have served (pool : Pool) {handle : Handle} (h : handle.status ≠ .closed) (purpose : Purpose) :
      (serve pool handle purpose).activity.Unclosed := by
    cases purpose <;> simp [serve, Unclosed, handles, h]
  have refused (pool : Pool) (error : PoolError) (purpose : Purpose) :
      (refuse pool error purpose).activity.Unclosed := by
    cases purpose <;> simp [refuse, Unclosed, handles]
  have created (pool : Pool) (purpose : Purpose) (id : String) (next : Creation.Next) :
      (afterCreation service pool purpose id next).activity.Unclosed := by
    cases next with
    | ongoing creation => simp [afterCreation, Unclosed, handles]
    | made session => exact served _ (by simp [Attempt.handle]) purpose
    | failed error => exact refused _ _ _
  cases activity with
  | waiting millis purpose => simp [resume, Unclosed, handles]
  | borrowing purpose =>
    simp only [resume]
    rcases borrow_cases service cancelled purpose with h | ⟨handle, idle, taken, h⟩ | ⟨id, ids, h⟩
    · exact h ▸ refused _ _ _
    · have unused := ready handle (taken ▸ List.mem_cons_self)
      exact h ▸ served _ (by simp [unused]) purpose
    · exact h ▸ created _ _ _ _
  | creating purpose id creation => exact created _ _ _ _
  | transacting t =>
    have own : (t.resume service.retry cancelled signal).handle.status ≠ .closed :=
      Transaction.resume_ne_closed (unclosed t.handle (List.mem_singleton_self _)) _ _ _
    simp only [resume, afterTransaction]
    split <;> simpa [Unclosed, handles] using own
  | returning handle outcome =>
    rcases giveBack_cases service.pool handle outcome with ⟨-, h⟩ | ⟨discarded, -, h⟩
    · simp [resume, h, Unclosed, handles]
    · simpa [resume, h, Unclosed, handles] using unclosed
  | retiring handle discarded outcome => simp [resume, afterRetiring, Unclosed, handles]
  | draining rest closed =>
    cases rest with
    | nil => simp [resume, Unclosed, handles]
    | cons handle rest => exact fun g hg => unclosed g (List.mem_cons_of_mem _ hg)
  | operating | making => simp [serves, isPublish] at serving
  | ended outcome => simp [resume, Unclosed, handles]

theorem inUse_draining (handles : List Handle) (closed : Nat) :
    (draining handles closed).inUse none = sessionsOf handles := by
  cases handles <;> rfl

theorem serve_inUse (pool : Pool) (handle : Handle) {purpose : Purpose}
    (publish : purpose.isPublish = true) :
    (serve pool handle purpose).activity.inUse none = {handle.session} := by
  cases purpose with
  | publish topic payload => rfl
  | lend slot => simp [Purpose.isPublish] at publish

theorem refuse_inUse (pool : Pool) (error : PoolError) (purpose : Purpose) :
    (refuse pool error purpose).activity.inUse none = 0 ∧
      (refuse pool error purpose).pool = pool := by
  cases purpose <;> exact ⟨rfl, rfl⟩

end Activity

def Attempt.Next.inUse : Attempt.Next → Multiset SessionId
  | ongoing attempt => attempt.inUse none
  | made session => {session}
  | failed _ => 0

def Creation.Next.inUse : Creation.Next → Multiset SessionId
  | ongoing creation => creation.inUse none
  | made session => {session}
  | failed _ => 0

theorem Attempt.resume_inUse (id : String) (limit limit' : Span) {attempt : Attempt}
    {signal : Signal} {answer : Option Signal} (ends : (attempt.demand id limit).EndsWith signal)
    (news : signal.IsNews answer)
    (met : (attempt.demand id limit).mustBeMet = true → signal ≠ .silence) :
    (attempt.resume limit' signal).inUse = attempt.inUse answer := by
  have told {s : Signal} (loud : s ≠ .silence) (busy : s ≠ .resumed) (news : s.IsNews answer) :
      answer = some s := (news.resolve_left loud).resolve_left busy
  cases attempt with
  | connecting =>
    cases ends with
    | opened id limit session => rw [told (by simp) (by simp) news]; rfl
    | refused id limit error => rw [told (by simp) (by simp) news]; rfl
    | unconnected id limit => exact absurd rfl (met rfl)
  | registering session =>
    cases ends with
    | answered session id request limit reply => cases reply <;> rfl
    | unanswered => rfl
  | closing session error =>
    cases ends with
    | answered session id request limit reply => rw [told (by simp) (by simp) news]; rfl

theorem Creation.begin_inUse (cancelled : Bool) (failures : UInt32) :
    (begin cancelled failures).inUse = 0 := by
  unfold begin
  split <;> rfl

theorem Creation.resume_inUse (id : String) (limit limit' : Span) (policy : Backoff)
    (cancelled : Bool) {creation : Creation} {signal : Signal} {answer : Option Signal}
    (ends : (creation.demand id limit policy).EndsWith signal) (news : signal.IsNews answer)
    (met : (creation.demand id limit policy).mustBeMet = true → signal ≠ .silence) :
    (creation.resume limit' policy cancelled signal).inUse = creation.inUse answer := by
  cases creation with
  | pausing failures =>
    cases ends with
    | rested => exact begin_inUse cancelled failures
  | trying failures attempt =>
    have step := attempt.resume_inUse id limit limit' ends news met
    simp only [resume, inUse]
    generalize attempt.resume limit' signal = next at step
    cases next with
    | ongoing next => exact step
    | made session => exact step
    | failed error =>
      simp only [fail]
      split <;> exact step

theorem Activity.afterCreation_inUse (service : Service) (pool : Pool) {purpose : Purpose}
    (publish : purpose.isPublish = true) (id : String) (next : Creation.Next) :
    (afterCreation service pool purpose id next).activity.inUse none = next.inUse ∧
      (afterCreation service pool purpose id next).pool.idle = pool.idle := by
  cases next with
  | ongoing creation => exact ⟨rfl, rfl⟩
  | made session =>
    refine ⟨serve_inUse _ _ publish, ?_⟩
    rw [afterCreation, serve_pool]
    rfl
  | failed error =>
    obtain ⟨nothing, same⟩ := refuse_inUse pool error purpose
    exact ⟨nothing, congrArg Pool.idle same⟩

theorem Activity.closeDemand_eq {handle : Handle} (unclosed : handle.status ≠ .closed) :
    closeDemand handle = .answer handle.session handle.id .close (some handle.limit) :=
  if_neg unclosed

theorem Demand.EndsWith.closed {session : SessionId} {id : String} {limit : Option Span}
    {signal : Signal} {answer : Option Signal}
    (ends : (Demand.answer session id .close limit).EndsWith signal) (news : signal.IsNews answer)
    (met : signal ≠ .silence) : answer.isSome = true := by
  cases ends with
  | answered session id request limit reply =>
    rcases news with silent | turned | given
    · simp at silent
    · simp at turned
    · simp [given]
  | unanswered => exact absurd rfl met

/-- A task that publishes or closes a pool keeps track of its sessions: it passes them on within the
pool or closes them. -/
theorem Activity.resume_inUse (service : Service) (cancelled : Bool) {activity : Activity}
    (serving : activity.serves = true) (unclosed : activity.Unclosed) {signal : Signal}
    {answer : Option Signal} (ends : (activity.demand service).EndsWith signal)
    (news : signal.IsNews answer)
    (met : (activity.demand service).mustBeMet = true → signal ≠ .silence) :
    (activity.resume service cancelled signal).activity.inUse none +
        sessionsOf (activity.resume service cancelled signal).pool.idle =
      activity.inUse answer + sessionsOf service.pool.idle := by
  cases activity with
  | waiting millis purpose => rfl
  | borrowing purpose =>
    simp only [resume]
    rcases borrow_cases service cancelled purpose with h | ⟨handle, idle, taken, h⟩ | ⟨id, ids, h⟩
    · obtain ⟨nothing, same⟩ := refuse_inUse service.pool .closed purpose
      rw [h, nothing, same]
      rfl
    · rw [h, serve_inUse _ _ serving, serve_pool, taken]
      exact (zero_add _).symm
    · obtain ⟨used, idle⟩ := afterCreation_inUse service { service.pool with ids := ids } serving id
        (Creation.begin cancelled 0)
      rw [h, used, idle, Creation.begin_inUse]
      rfl
  | creating purpose id creation =>
    obtain ⟨used, idle⟩ := afterCreation_inUse service service.pool serving id
      (creation.resume service.options.operationLimit service.creation cancelled signal)
    simp only [resume, used, idle]
    rw [creation.resume_inUse id _ _ _ _ ends news met]
    rfl
  | transacting t =>
    have same := (t.resume_alike service.retry cancelled signal).session
    simp only [resume, afterTransaction]
    split <;> simp [inUse, same]
  | returning handle outcome =>
    simp only [resume]
    rcases giveBack_cases service.pool handle outcome with ⟨-, h⟩ | ⟨discarded, -, h⟩
    · rw [h]
      simp [inUse]
    · rw [h]
      simp [inUse]
  | retiring handle discarded outcome =>
    have open? : handle.status ≠ .closed := unclosed handle (List.mem_singleton_self _)
    simp only [demand, closeDemand_eq open?] at ends met
    have done := ends.closed news (met rfl)
    cases discarded <;> simp [resume, afterRetiring, inUse, done, Pool.countDiscarded]
  | draining rest closed =>
    cases rest with
    | nil => rfl
    | cons handle rest =>
      have open? : handle.status ≠ .closed := unclosed handle List.mem_cons_self
      simp only [demand, closeDemand_eq open?] at ends met
      have done := ends.closed news (met rfl)
      simp only [resume, inUse_draining]
      simp [inUse, done]
  | operating | making => simp [serves, isPublish] at serving
  | ended outcome => rfl

namespace World

theorem inUse_of_connection {w : World} {task : Task} {id : String} {limit : Span}
    (hd : w.demand task = .connection id limit) (answer : Option Signal) :
    task.activity.inUse answer = Attempt.inUse answer .connecting := by
  rcases connecting_of_demand hd with ⟨purpose, failures, activity⟩ | ⟨slot, activity⟩ <;>
    rw [activity] <;> rfl

theorem Asks.inUse {activity : Activity} {session : SessionId} {id : String} {request : Request}
    (h : Asks activity session id request) (reply : Reply) :
    activity.inUse none = (if request = .close then {session} else 0) +
      activity.inUse (some (.answered reply)) := by
  cases h with
  | transact asked =>
    rw [if_neg (Transaction.request?_ne_close asked)]
    exact (zero_add _).symm
  | operate slot permitted => by_cases closes : request = .close <;> simp [Activity.inUse, closes]
  | drain handle handles closed => simp [Activity.inUse]
  | register | registerLent => rfl
  | dismiss | dismissLent | retire => rfl

theorem Asks.mem_inUse {activity : Activity} {session : SessionId} {id : String} {request : Request}
    (h : Asks activity session id request) (other : request ≠ .close) (answer : Option Signal) :
    session ∈ activity.inUse answer := by
  cases h with
  | dismiss | retire | drain | dismissLent => exact absurd rfl other
  | operate slot permitted => simp [Activity.inUse, other]
  | register | transact | registerLent => exact Multiset.mem_singleton_self _

end World

end OutcomeRelay
