import OutcomeRelay.Proofs.FatalOutcome
import OutcomeRelay.Proofs.Recovery

set_option autoImplicit false

namespace OutcomeRelay

/-- What is done with a handle: it is asked for something, with what its session answers in time if
it is called, or it is given up. -/
inductive HandleUse where
  | ask (request : Request) (answer : Option Reply)
  | giveUp
deriving DecidableEq

/-- What has come of a use: the session was called, or it was left out of it. -/
inductive HandleDeed where
  | called (request : Request) (answer : Option Reply)
  | spared (request : Request)
  | gaveUp
deriving DecidableEq

abbrev HandlePast := List HandleDeed

structure Tenure where
  handle : Handle
  past : HandlePast := []
deriving DecidableEq

namespace HandleDeed

def Begins (d : HandleDeed) : Prop := d = called .begin (some (.ok ()))

def Aborts (d : HandleDeed) : Prop := d = called .abort (some (.ok ()))

def Completes (d : HandleDeed) : Prop := d = called .commit (some (.ok ())) ∨ d.Aborts

/-- A send or a commit was answered by an error after which the transaction must be aborted. -/
def Spoils (d : HandleDeed) : Prop :=
  ∃ request reason, (request.operation = .send ∨ request.operation = .commit) ∧
    d = called request (some (.error (.abortable reason)))

def Poisons (d : HandleDeed) : Prop :=
  d = gaveUp ∨ ∃ request reason, d = called request (some (.error (.fatal reason)))

def Closes (d : HandleDeed) : Prop := ∃ answer, d = called .close answer

variable {request : Request} {answer : Option Reply}

@[simp]
theorem begins_called :
    (called request answer).Begins ↔ request = .begin ∧ answer = some (.ok ()) := by
  simp [Begins]

@[simp]
theorem aborts_called :
    (called request answer).Aborts ↔ request = .abort ∧ answer = some (.ok ()) := by
  simp [Aborts]

@[simp]
theorem completes_called : (called request answer).Completes ↔
    (request = .commit ∨ request = .abort) ∧ answer = some (.ok ()) := by
  simp [Completes, or_and_right]

@[simp]
theorem spoils_called : (called request answer).Spoils ↔
    (request.operation = .send ∨ request.operation = .commit) ∧
      ∃ reason, answer = some (.error (.abortable reason)) := by
  simp only [Spoils, called.injEq]
  exact ⟨fun ⟨_, reason, works, here, said⟩ => ⟨here ▸ works, reason, said⟩,
    fun ⟨works, reason, said⟩ => ⟨_, reason, works, rfl, said⟩⟩

@[simp]
theorem poisons_called :
    (called request answer).Poisons ↔ ∃ reason, answer = some (.error (.fatal reason)) := by
  simp [Poisons]

@[simp]
theorem closes_called : (called request answer).Closes ↔ request = .close := by
  simp [Closes]

end HandleDeed

namespace HandlePast

/-- Something has happened, and from then on nothing that undoes it. -/
def Since (happens undoes : HandleDeed → Prop) (past : HandlePast) : Prop :=
  ∃ later d earlier, past = later ++ d :: earlier ∧ happens d ∧ ∀ e ∈ later, ¬ undoes e

def IsOpen (past : HandlePast) : Prop := Since HandleDeed.Begins HandleDeed.Completes past

def IsSound (past : HandlePast) : Prop :=
  Since HandleDeed.Begins (fun d => d.Completes ∨ d.Spoils) past

def IsSpoilt (past : HandlePast) : Prop := Since HandleDeed.Spoils HandleDeed.Aborts past

def IsPoisoned (past : HandlePast) : Prop := ∃ d ∈ past, d.Poisons

def IsClosed (past : HandlePast) : Prop := ∃ d ∈ past, d.Closes

variable {happens undoes : HandleDeed → Prop} {past : HandlePast} {d : HandleDeed}

theorem not_since_nil : ¬ Since happens undoes [] := by
  rintro ⟨later, d, earlier, split, -⟩
  simp at split

theorem since_cons :
    Since happens undoes (d :: past) ↔ happens d ∨ (¬ undoes d ∧ Since happens undoes past) := by
  constructor
  · rintro ⟨later, e, earlier, split, happened, kept⟩
    cases later with
    | nil =>
      obtain ⟨rfl, -⟩ := List.cons.inj split
      exact .inl happened
    | cons first later =>
      obtain ⟨rfl, rest⟩ := List.cons.inj split
      obtain ⟨first, kept⟩ := List.forall_mem_cons.mp kept
      exact .inr ⟨first, later, e, earlier, rest, happened, kept⟩
  · rintro (happened | ⟨first, later, e, earlier, rfl, happened, kept⟩)
    · exact ⟨[], d, past, rfl, happened, by simp⟩
    · exact ⟨d :: later, e, earlier, rfl, happened, List.forall_mem_cons.mpr ⟨first, kept⟩⟩

@[simp]
theorem isOpen_cons : IsOpen (d :: past) ↔ d.Begins ∨ (¬ d.Completes ∧ past.IsOpen) := since_cons

@[simp]
theorem isSound_cons :
    IsSound (d :: past) ↔ d.Begins ∨ (¬ (d.Completes ∨ d.Spoils) ∧ past.IsSound) := since_cons

@[simp]
theorem isSpoilt_cons : IsSpoilt (d :: past) ↔ d.Spoils ∨ (¬ d.Aborts ∧ past.IsSpoilt) :=
  since_cons

@[simp]
theorem isPoisoned_cons : IsPoisoned (d :: past) ↔ d.Poisons ∨ past.IsPoisoned := by
  simp [IsPoisoned]

@[simp]
theorem isClosed_cons : IsClosed (d :: past) ↔ d.Closes ∨ past.IsClosed := by
  simp [IsClosed]

theorem IsSound.isOpen (h : past.IsSound) : past.IsOpen := by
  obtain ⟨later, d, earlier, split, begun, kept⟩ := h
  exact ⟨later, d, earlier, split, begun, fun e he done => kept e he (.inl done)⟩

end HandlePast

/-- What a status tells of the past. -/
inductive Status.StandsFor (past : HandlePast) : Status → Prop
  | ready (rests : ¬ past.IsOpen) (pure : ¬ past.IsSpoilt) (sane : ¬ past.IsPoisoned)
      (unclosed : ¬ past.IsClosed) : StandsFor past .ready
  | inTransaction (sound : past.IsSound) (pure : ¬ past.IsSpoilt) (sane : ¬ past.IsPoisoned)
      (unclosed : ¬ past.IsClosed) : StandsFor past .inTransaction
  | abortable (opened : past.IsOpen) (sane : ¬ past.IsPoisoned) (unclosed : ¬ past.IsClosed) :
      StandsFor past .abortable
  | fatal (unclosed : ¬ past.IsClosed) : StandsFor past .fatal
  | closed (closed : past.IsClosed) : StandsFor past .closed

inductive Status.Lets : Status → Request → Prop
  | begin : Lets .ready .begin
  | send (topic : String) (payload : ByteArray) : Lets .inTransaction (.send topic payload)
  | commit : Lets .inTransaction .commit
  | abort {status : Status} (going : status = .inTransaction ∨ status = .abortable) :
      Lets status .abort
  | close (status : Status) : Lets status .close

theorem Status.lets_of_permits {status : Status} {request : Request}
    (permitted : status.permits request.operation = true) : status.Lets request := by
  cases request with
  | init => cases permitted
  | begin =>
    obtain rfl : status = .ready := by simpa [permits, Request.operation] using permitted
    exact .begin
  | send topic payload =>
    obtain rfl : status = .inTransaction := by simpa [permits, Request.operation] using permitted
    exact .send topic payload
  | commit =>
    obtain rfl : status = .inTransaction := by simpa [permits, Request.operation] using permitted
    exact .commit
  | abort => exact .abort (eq_of_permits_abort permitted)
  | close => exact .close status

theorem Request.eq_close_iff {request : Request} :
    request = .close ↔ request.operation = .close := by
  cases request <;> simp [operation]

theorem Status.Lets.closes_or_goes {status : Status} {request : Request}
    (h : status.Lets request) :
    request = .close ∨ (request ≠ .close ∧ status.isTerminal = false) := by
  cases h with
  | begin | send | commit => exact .inr ⟨by simp, rfl⟩
  | abort going => exact .inr ⟨by simp, by rcases going with rfl | rfl <;> rfl⟩
  | close => exact .inl rfl

namespace Status.StandsFor

variable {past : HandlePast} {status : Status} {d : HandleDeed} {request : Request}

theorem unclosed (h : status.StandsFor past) (living : status ≠ .closed) : ¬ past.IsClosed := by
  cases h <;> first | assumption | exact absurd rfl living

theorem sane (h : status.StandsFor past) (going : status.isTerminal = false) :
    ¬ past.IsPoisoned := by
  cases h with
  | ready | inTransaction | abortable => assumption
  | fatal | closed => simp [isTerminal] at going

theorem isOpen (h : status.StandsFor past)
    (going : status = .inTransaction ∨ status = .abortable) : past.IsOpen := by
  cases h with
  | inTransaction sound => exact sound.isOpen
  | abortable opened => exact opened
  | ready | fatal | closed => simp at going

theorem idle (h : status.StandsFor past) (begun : ¬ d.Begins) (completed : ¬ d.Completes)
    (spoilt : ¬ d.Spoils) (poisoned : ¬ d.Poisons) (closed : ¬ d.Closes) :
    status.StandsFor (d :: past) := by
  have aborted : ¬ d.Aborts := fun h => completed (.inr h)
  cases h <;> constructor <;> simp_all

theorem succeed (h : status.StandsFor past) (lets : status.Lets request) :
    (status.after request.operation (.ok ())).StandsFor
      (.called request (some (.ok ())) :: past) := by
  cases lets with
  | begin =>
    cases h with
    | ready rests pure sane unclosed =>
      exact .inTransaction (by simp) (by simpa using pure) (by simpa using sane)
        (by simpa using unclosed)
  | send topic payload => exact h.idle (by simp) (by simp) (by simp) (by simp) (by simp)
  | commit =>
    cases h with
    | inTransaction sound pure sane unclosed =>
      exact .ready (by simp) (by simpa using pure) (by simpa using sane) (by simpa using unclosed)
  | abort going =>
    have sane := h.sane (by rcases going with rfl | rfl <;> rfl)
    have unclosed := h.unclosed (by rcases going with rfl | rfl <;> decide)
    have ready : status.after .abort (.ok ()) = .ready := by rcases going with rfl | rfl <;> rfl
    exact ready ▸ .ready (by simp) (by simp) (by simpa using sane) (by simpa using unclosed)
  | close => exact .closed (by simp)

theorem fail (h : status.StandsFor past) (lets : status.Lets request) (error : BrokerError) :
    (status.after request.operation (.error error)).StandsFor
      (.called request (some (.error error)) :: past) := by
  rcases lets.closes_or_goes with rfl | ⟨closing, going⟩
  · exact .closed (by simp)
  have staying := mt Request.eq_close_iff.mpr closing
  have unclosed := h.unclosed (by rintro rfl; cases going)
  cases error with
  | unreachable | retriable | illegalState =>
    rw [after_of_soft status staying rfl]
    exact h.idle (by simp) (by simp) (by simp) (by simp) (by simpa using closing)
  | fatal reason =>
    rw [after_of_fatal going staying rfl]
    exact .fatal (by simpa [closing] using unclosed)
  | abortable reason =>
    have sane := h.sane going
    cases lets with
    | begin => exact h.idle (by simp) (by simp) (by simp [Request.operation]) (by simp) (by simp)
    | send | commit =>
      exact .abortable (by simpa using h.isOpen (.inl rfl)) (by simpa using sane)
        (by simpa using unclosed)
    | abort =>
      rw [Request.operation, after_of_alive status (.inr rfl) rfl]
      exact h.idle (by simp) (by simp) (by simp [Request.operation]) (by simp) (by simp)
    | close => exact absurd rfl closing

/-- A call does to the status what it does to the past. No answer counts as an error that may be
tried again. -/
theorem called (h : status.StandsFor past)
    (permitted : status.permits request.operation = true) (silence : String)
    (answer : Option Reply) :
    (status.after request.operation (answer.getD (.error (.retriable silence)))).StandsFor
      (.called request answer :: past) := by
  have lets := lets_of_permits permitted
  rcases answer with _ | error | _
  · rcases lets.closes_or_goes with rfl | ⟨closing, -⟩
    · exact .closed (by simp)
    · rw [Option.getD_none, after_retriable (mt Request.eq_close_iff.mpr closing)]
      exact h.idle (by simp) (by simp) (by simp) (by simp) (by simpa using closing)
  · exact h.fail lets error
  · exact h.succeed lets

theorem spare (h : status.StandsFor past) (request : Request) :
    status.StandsFor (.spared request :: past) :=
  h.idle (by simp [HandleDeed.Begins]) (by simp [HandleDeed.Completes, HandleDeed.Aborts])
    (by simp [HandleDeed.Spoils]) (by simp [HandleDeed.Poisons]) (by simp [HandleDeed.Closes])

theorem giveUp {handle : Handle} (h : handle.status.StandsFor past) :
    handle.markFatal.status.StandsFor (.gaveUp :: past) := by
  unfold Handle.markFatal
  split
  · rename_i closed
    rw [closed] at h ⊢
    cases h with
    | closed done => exact .closed (by simpa using .inr done)
  · rename_i living
    exact .fatal (by simpa [HandleDeed.Closes] using h.unclosed living)

end Status.StandsFor

structure Request.Fits (past : HandlePast) (request : Request) : Prop where
  begins : request = .begin → ¬ past.IsOpen
  works : request.operation = .send ∨ request.operation = .commit → past.IsSound
  aborts : request = .abort → past.IsOpen
  saves : past.IsSpoilt → request = .abort ∨ request = .close
  ends : past.IsPoisoned → request = .close
  unclosed : ¬ past.IsClosed

theorem Status.StandsFor.fits {past : HandlePast} {status : Status} {request : Request}
    (h : status.StandsFor past) (permitted : status.permits request.operation = true)
    (living : status ≠ .closed) : request.Fits past := by
  have unclosed := h.unclosed living
  have lets := Status.lets_of_permits permitted
  have ends : past.IsPoisoned → request = .close := fun poisoned =>
    lets.closes_or_goes.elim id fun ⟨_, going⟩ => absurd poisoned (h.sane going)
  cases lets with
  | begin =>
    cases h with
    | ready rests pure =>
      exact ⟨fun _ => rests, by simp [Request.operation], by simp, (absurd · pure), ends, unclosed⟩
  | send | commit =>
    cases h with
    | inTransaction sound pure =>
      exact ⟨by simp, fun _ => sound, by simp, (absurd · pure), ends, unclosed⟩
  | abort going =>
    exact ⟨by simp, by simp [Request.operation], fun _ => h.isOpen going, fun _ => .inl rfl, ends,
      unclosed⟩
  | close =>
    exact ⟨by simp, by simp [Request.operation], by simp, fun _ => .inr rfl, ends, unclosed⟩

namespace Tenure

variable (service : Service) (slot : String)

def task (t : Tenure) (request : Request) : Activity := .operating slot t.handle request

def reaches (t : Tenure) (request : Request) : Bool := ((t.task slot request).demand service).isCall

def move (t : Tenure) (request : Request) (answer : Option Reply) : Move :=
  (t.task slot request).resume service false
    (if t.reaches service slot request then Transaction.Exchange.signal answer else .resumed)

def use (t : Tenure) : HandleUse → Tenure
  | .ask request answer =>
    { handle := (t.move service slot request answer).lent.elim t.handle Prod.snd
      past := (if t.reaches service slot request then .called request answer
        else .spared request) :: t.past }
  | .giveUp => ⟨t.handle.markFatal, .gaveUp :: t.past⟩

def run (t : Tenure) (uses : List HandleUse) : Tenure := uses.foldl (use service slot) t

/-- How a handle deals with its caller and with its session. -/
structure Protocol (session : SessionId) (id : String) (t : Tenure) : Prop where
  /-- Each time the session was called, the request fitted to what had been done before. -/
  fits : ∀ later request answer earlier,
    t.past = later ++ .called request answer :: earlier → request.Fits earlier
  /-- Nothing else than a request to the session is ever waited for. -/
  calls : ∀ request, (t.task slot request).demand service = .turn ∨
    (t.task slot request).demand service =
      .answer session id request (some service.options.operationLimit)
  /-- What the status does not permit is refused at once, and nothing changes. -/
  refuses : ∀ request answer, t.handle.status.permits request.operation = false →
    (t.task slot request).demand service = .turn ∧
      t.move service slot request answer =
        { activity :=
            .ended (.replied (.error (.illegalState request.operation t.handle.status.name)))
          pool := service.pool
          lent := some (slot, t.handle) }
  closed : t.past.IsClosed → t.handle.status = .closed
  /-- A call that is not answered in time leaves the status, unless it closes. -/
  unanswered : ∀ request, (t.use service slot (.ask request none)).handle.status =
    if request = .close then .closed else t.handle.status

variable {service slot} {t : Tenure} {request : Request} {answer : Option Reply}

theorem demand_task (t : Tenure) (request : Request) :
    (t.task slot request).demand service =
      if t.handle.status.permits request.operation = true ∧ t.handle.status ≠ .closed then
        .answer t.handle.session t.handle.id request (some t.handle.limit)
      else .turn := by
  by_cases closing : request = .close
  · subst closing
    simp [task, Activity.demand, Activity.closeDemand, Status.permits, Request.operation]
  · have living (permitted : t.handle.status.permits request.operation = true) :
        t.handle.status ≠ .closed := by
      intro closed
      exact closing (Request.eq_close_iff.mpr
        (Status.eq_close_of_permits (by rw [closed]; rfl) permitted))
    simp only [and_iff_left_of_imp living, task, Activity.demand, if_neg closing]

theorem reaches_iff : t.reaches service slot request = true ↔
    t.handle.status.permits request.operation = true ∧ t.handle.status ≠ .closed := by
  rw [reaches, demand_task]
  split
  · exact iff_of_true rfl ‹_›
  · exact iff_of_false (by simp [Demand.isCall]) ‹_›

theorem use_of_reaches (reached : t.reaches service slot request = true) (answer : Option Reply) :
    t.use service slot (.ask request answer) =
      ⟨t.handle.record request.operation (t.handle.verdict answer),
        .called request answer :: t.past⟩ := by
  have told : Activity.replyOf (Transaction.Exchange.signal answer) = answer := by
    cases answer <;> rfl
  simp [use, move, reached, task, Activity.resume, Activity.afterOperating, told,
    Handle.perform_permitted (reaches_iff.mp reached).1]

theorem use_of_not_reaches (spared : t.reaches service slot request = false)
    (answer : Option Reply) :
    t.use service slot (.ask request answer) = ⟨t.handle, .spared request :: t.past⟩ := by
  have same : (t.handle.perform request none).2 = t.handle := by
    cases permitted : t.handle.status.permits request.operation with
    | false => simp [Handle.perform, Handle.refusal?, permitted]
    | true =>
      have closed : t.handle.status = .closed := by
        by_contra living
        rw [reaches_iff.mpr ⟨permitted, living⟩] at spared
        cases spared
      have closing := Status.eq_close_of_permits (by rw [closed]; rfl) permitted
      rw [Handle.perform_permitted permitted, Handle.record, closing]
      simp [Status.after, ← closed]
  simp [use, move, spared, task, Activity.resume, Activity.afterOperating, Activity.replyOf, same]

/-- A handle that is still the one it was made as, but for its status, which stands for the past. -/
structure Kept (options : ProducerOptions) (id : String) (session : SessionId) (t : Tenure) :
    Prop where
  same : t.handle = { Attempt.handle options id session with status := t.handle.status }
  stands : t.handle.status.StandsFor t.past
  fits : ∀ later request answer earlier,
    t.past = later ++ .called request answer :: earlier → request.Fits earlier

namespace Kept

variable {options : ProducerOptions} {id : String} {session : SessionId}

theorem new (options : ProducerOptions) (id : String) (session : SessionId) :
    Kept options id session ⟨Attempt.handle options id session, []⟩ where
  same := rfl
  stands := .ready HandlePast.not_since_nil HandlePast.not_since_nil
    (by simp [HandlePast.IsPoisoned]) (by simp [HandlePast.IsClosed])
  fits := by simp

theorem fits_cons (h : t.Kept options id session) {d : HandleDeed}
    (uncalled : ∀ request answer, d ≠ .called request answer) (later : HandlePast)
    (request : Request) (answer : Option Reply) (earlier : HandlePast)
    (split : d :: t.past = later ++ .called request answer :: earlier) :
    request.Fits earlier := by
  cases later with
  | nil => exact absurd (List.cons.inj split).1 (uncalled request answer)
  | cons _ later => exact h.fits later request answer earlier (List.cons.inj split).2

theorem use (h : t.Kept options id session) (u : HandleUse) :
    (t.use service slot u).Kept options id session := by
  cases u with
  | ask request answer =>
    cases reached : t.reaches service slot request with
    | true =>
      obtain ⟨permitted, living⟩ := reaches_iff.mp reached
      have said : t.handle.verdict answer = answer.getD (.error t.handle.silence) := by
        cases answer <;> rfl
      rw [use_of_reaches reached]
      refine ⟨?_, ?_, fun later called heard earlier split => ?_⟩
      · simp only [Handle.record]
        rw [h.same]
      · rw [said]
        exact h.stands.called permitted _ answer
      · cases later with
        | nil =>
          obtain ⟨⟨rfl, -⟩, rfl⟩ := by simpa using split
          exact h.stands.fits permitted living
        | cons _ later => exact h.fits later called heard earlier (List.cons.inj split).2
    | false =>
      rw [use_of_not_reaches reached]
      exact ⟨h.same, h.stands.spare request, h.fits_cons (by simp)⟩
  | giveUp =>
    refine ⟨?_, h.stands.giveUp, h.fits_cons (by simp)⟩
    simp only [Tenure.use, Handle.markFatal]
    split
    · exact h.same
    · rw [h.same]

theorem run (h : t.Kept options id session) (uses : List HandleUse) :
    (t.run service slot uses).Kept options id session := by
  induction uses generalizing t with
  | nil => exact h
  | cons u uses ih => exact ih (h.use u)

theorem closed (h : t.Kept options id session) (done : t.past.IsClosed) :
    t.handle.status = .closed := by
  by_contra living
  exact h.stands.unclosed living done

theorem protocol (h : t.Kept service.options id session) :
    t.Protocol service slot session id where
  fits := h.fits
  calls request := by
    rw [demand_task, h.same]
    split
    · exact .inr rfl
    · exact .inl rfl
  refuses request answer refused := by
    have unclosed : request ≠ .close := by
      rintro rfl
      cases refused
    refine ⟨by simp [demand_task, refused], ?_⟩
    simp [move, task, Activity.resume, Activity.afterOperating, Handle.perform,
      Handle.refusal?, refused, unclosed]
  closed := h.closed
  unanswered request := by
    cases reached : t.reaches service slot request with
    | true =>
      rw [use_of_reaches reached]
      split
      · subst request
        rfl
      · exact Status.after_retriable (mt Request.eq_close_iff.mpr ‹_›) t.handle.status
          ("no broker response within " ++ t.handle.limit.text)
    | false =>
      rw [use_of_not_reaches reached]
      split
      · subst request
        by_contra living
        exact Bool.false_ne_true (reached.symm.trans (reaches_iff.mpr ⟨rfl, living⟩))
      · rfl

end Kept

/-- Whatever is done with a new handle, and whatever its session answers or leaves unanswered. -/
theorem keeps_protocol (service : Service) (slot id : String) (session : SessionId)
    (uses : List HandleUse) :
    (run service slot ⟨Attempt.handle service.options id session, []⟩ uses).Protocol service slot
      session id :=
  ((Kept.new service.options id session).run uses).protocol

/-- The send spoils the transaction; the commit is refused and the first abort is not answered. -/
example :
    let service : Service :=
      { options := { brokers := [], baseId := "svc" }
        retry := .immediate 0
        creation := .immediate 0
        topic := "results" }
    run service "a" ⟨Attempt.handle service.options "svc-1" 0, []⟩
        [.ask .begin (some (.ok ())),
          .ask (.send "results" .empty) (some (.error (.abortable "epoch"))),
          .ask .commit (some (.ok ())), .ask .abort none, .ask .abort (some (.ok ()))] =
      ⟨Attempt.handle service.options "svc-1" 0,
        [.called .abort (some (.ok ())), .called .abort none, .spared .commit,
          .called (.send "results" .empty) (some (.error (.abortable "epoch"))),
          .called .begin (some (.ok ()))]⟩ := by
  decide +kernel

end Tenure

end OutcomeRelay
