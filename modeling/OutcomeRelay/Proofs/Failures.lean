import OutcomeRelay.Proofs.Release

set_option autoImplicit false

/-!
# What has failed so far

On its way a publish comes through four loops, each of which makes its attempt again when it has
failed: one creates a producer, one sends, one commits and one aborts. The failures of each loop are
gathered here from what the task hears, and not from the count that it keeps. Main statements: a
signal leaves a task where it stands, lets its loop try again or takes it further on; and in every
run the counts and reports of a task are the numbers of its failures, as long as the repetitions
that its service allows can be counted.
-/

namespace OutcomeRelay

/-- What makes its attempt again when it has failed. -/
inductive Loop where
  | creation
  | step (step : Transaction.Step)
  | abort
deriving DecidableEq

abbrev Failure := Loop × BrokerError

namespace Loop

def retries (service : Service) : Loop → UInt32
  | creation => service.creation.retries
  | step _ => service.retry.retries
  | abort => service.retry.retries

def ofRequest? : Request → Option Loop
  | .send _ _ => some (step .send)
  | .commit => some (step .commit)
  | .abort => some abort
  | _ => none

def errors (loop : Loop) (past : List Failure) : List BrokerError :=
  (past.filter (·.1 = loop)).map Prod.snd

def place : Loop → Nat
  | creation => 1
  | step .send => 3
  | step .commit => 4
  | abort => 5

variable {loop other : Loop} {past : List Failure} {error : BrokerError}

@[simp] theorem errors_nil (loop : Loop) : loop.errors [] = [] := rfl

theorem errors_cons_self : loop.errors ((loop, error) :: past) = error :: loop.errors past := by
  simp [errors]

theorem errors_cons_ne (h : other ≠ loop) :
    loop.errors ((other, error) :: past) = loop.errors past := by
  simp [errors, h]

theorem place_inj (h : loop.place = other.place) : loop = other := by
  rcases loop with _ | (_ | _) | _ <;> rcases other with _ | (_ | _) | _ <;> simp_all [place]

theorem place_lt (loop : Loop) : loop.place < 6 := by
  rcases loop with _ | (_ | _) | _ <;> simp [place]

theorem step_lt_abort (step : Transaction.Step) : (Loop.step step).place < Loop.abort.place := by
  cases step <;> simp [place]

end Loop

/-! ### What fails, and what is counted -/

def Reply.failure? (request : Request) : Reply → Option Failure
  | .ok () => none
  | .error error => (Loop.ofRequest? request).map (·, error)

def Activity.failure? (service : Service) (signal : Signal) : Activity → Option Failure
  | creating _ _ (.trying _ attempt) =>
    match attempt.resume service.options.operationLimit signal with
    | .failed error => some (.creation, error)
    | _ => none
  | transacting t => (t.heard? signal).bind fun (request, reply) => reply.failure? request
  | _ => none

def Transaction.Phase.loop? : Transaction.Phase → Option (Loop × UInt32)
  | performing step failures => some (.step step, failures)
  | pausing step failures => some (.step step, failures)
  | aborting _ failures => some (.abort, failures)
  | abortPausing _ failures => some (.abort, failures)
  | _ => none

def Activity.loop? : Activity → Option (Loop × UInt32)
  | creating _ _ (.trying failures _) => some (.creation, failures)
  | creating _ _ (.pausing failures) => some (.creation, failures)
  | transacting t => t.phase.loop?
  | _ => none

def Outcome.error? : Outcome → Option PublishError
  | published (.error error) => some error
  | lent (.error error) => some (.pool error)
  | _ => none

/-- An error that reports how often something was tried reports the true number, and the last
error. A creation reports its attempts, and a step the repetitions of its first attempt. -/
def PublishError.Counts (past : List Failure) : PublishError → Prop
  | pool (.creationExhausted attempts last) =>
    attempts.toNat = (Loop.creation.errors past).length ∧
      (Loop.creation.errors past).head? = some last
  | retriesExhausted attempts last =>
    ∃ step, attempts.toNat + 1 = ((Loop.step step).errors past).length ∧
      ((Loop.step step).errors past).head? = some last
  | _ => True

/-- The counts of a task are right: a loop that goes on has counted all its failures and may repeat
its attempt once more, no loop has failed more often than its first attempt and all repetitions
can fail, and what the task ends with reports the true number. -/
structure Activity.CountsTruly (service : Service) (past : List Failure) (activity : Activity) :
    Prop where
  counted : ∀ loop failures, activity.loop? = some (loop, failures) →
    failures.toNat = (loop.errors past).length ∧ failures ≤ loop.retries service
  bounded : ∀ loop : Loop, (loop.errors past).length ≤ (loop.retries service).toNat + 1
  reported : ∀ outcome error, activity.outcome? = some outcome → outcome.error? = some error →
    error.Counts past

/-! ### Where a task stands -/

/-- How far a task has come, what its loop has counted and which error it is going to end with. -/
structure Standing where
  place : Nat
  count : UInt32 := 0
  report? : Option PublishError := none

def Transaction.Phase.standing : Transaction.Phase → Standing
  | beginning => { place := 2 }
  | performing step failures => { place := (Loop.step step).place, count := failures }
  | pausing step failures => { place := (Loop.step step).place, count := failures }
  | aborting reason failures =>
    { place := Loop.abort.place, count := failures, report? := some reason }
  | abortPausing reason failures =>
    { place := Loop.abort.place, count := failures, report? := some reason }
  | ended result => { place := 6, report? := (Outcome.published result).error? }

def Creation.standing : Creation → Standing
  | trying failures _ => { place := Loop.creation.place, count := failures }
  | pausing failures => { place := Loop.creation.place, count := failures }

def Activity.standing : Activity → Standing
  | waiting _ _ => { place := 0 }
  | borrowing _ => { place := 0 }
  | creating _ _ creation => creation.standing
  | transacting t => t.phase.standing
  | returning _ outcome => { place := 6, report? := outcome.error? }
  | retiring _ _ outcome => { place := 6, report? := outcome.error? }
  | ended outcome => { place := 6, report? := outcome.error? }
  | draining _ _ => { place := 6 }
  | operating _ _ _ => { place := 6 }
  | making _ _ _ => { place := 6 }

namespace Activity

variable {activity : Activity}

theorem standing_of_loop {loop : Loop} {failures : UInt32}
    (h : activity.loop? = some (loop, failures)) :
    activity.standing.place = loop.place ∧ activity.standing.count = failures := by
  cases activity with
  | creating purpose id creation =>
    cases creation <;>
    · obtain ⟨rfl, rfl⟩ := Prod.mk.inj (Option.some.inj h)
      exact ⟨rfl, rfl⟩
  | transacting t =>
    simp only [loop?, standing] at h ⊢
    cases hp : t.phase with
    | beginning | ended => simp [hp, Transaction.Phase.loop?] at h
    | performing | pausing | aborting | abortPausing =>
      rw [hp] at h
      obtain ⟨rfl, rfl⟩ := Prod.mk.inj (Option.some.inj h)
      exact ⟨rfl, rfl⟩
  | _ => simp [loop?] at h

theorem report?_of_outcome {outcome : Outcome} (h : activity.outcome? = some outcome) :
    activity.standing.report? = outcome.error? := by
  cases activity with
  | ended own =>
    obtain rfl : own = outcome := Option.some.inj h
    rfl
  | _ => simp [outcome?] at h

theorem late_of_report {error : PublishError} (h : activity.standing.report? = some error) :
    Loop.abort.place ≤ activity.standing.place := by
  cases activity with
  | waiting | borrowing => simp [standing] at h
  | creating purpose id creation => cases creation <;> simp [standing, Creation.standing] at h
  | transacting t =>
    simp only [standing] at h ⊢
    cases hp : t.phase <;> simp [hp, Transaction.Phase.standing, Loop.place] at h ⊢
  | returning | retiring | ended | draining | operating | making => simp [standing, Loop.place]

end Activity

def Loop.exhausted? (failures : UInt32) (last : BrokerError) : Loop → Option PublishError
  | creation => some (.pool (.creationExhausted (failures + 1) last))
  | step _ => some (.retriesExhausted (failures + 1 - 1) last)
  | abort => none

namespace Standing

def IsPlain (report? : Option PublishError) : Prop :=
  ∀ error, report? = some error → ∀ past, error.Counts past

theorem isPlain_of_counts {error : PublishError} (h : ∀ past, error.Counts past) :
    IsPlain (some error) := by
  rintro _ ⟨⟩
  exact h

/-- What a signal may do: nothing to be counted, one more attempt after a failure, or a step further
on, with or without a last failure. -/
inductive Proceeds (retries : Loop → UInt32) (s : Standing) : Option Failure → Standing → Prop where
  | stays : Proceeds retries s none s
  | repeats {loop : Loop} (error : BrokerError) (inside : s.place = loop.place)
      (allowed : s.count + 1 ≤ retries loop) :
      Proceeds retries s (some (loop, error)) { s with count := s.count + 1 }
  | advances {next : Standing} (further : s.place < next.place) (fresh : next.count = 0)
      (reports : next.report? = s.report? ∨ IsPlain next.report?) : Proceeds retries s none next
  | leaves {loop : Loop} {error : BrokerError} {next : Standing} (inside : s.place = loop.place)
      (further : s.place < next.place) (fresh : next.count = 0)
      (reports : next.report? = s.report? ∨ IsPlain next.report? ∨
        next.report? = loop.exhausted? s.count error) :
      Proceeds retries s (some (loop, error)) next

end Standing

namespace Transaction

variable {t : Transaction} {service : Service} {cancelled : Bool} {request : Request}
  {signal : Signal}

open Standing (Proceeds isPlain_of_counts)

theorem afterBegin_proceeds (retries : Loop → UInt32) (t : Transaction) (reply : Reply) :
    Phase.beginning.standing.Proceeds retries (reply.failure? .begin)
      (t.afterBegin reply).phase.standing := by
  cases reply with
  | ok _ => exact .advances (show 2 < Loop.place (.step .send) by decide) rfl (.inl rfl)
  | error error =>
    simp only [afterBegin]
    split <;>
      exact .advances (show 2 < 6 by decide) rfl (.inr (isPlain_of_counts fun _ => trivial))

theorem afterStep_proceeds {step : Step} (own : Loop.ofRequest? request = some (.step step))
    (t : Transaction) (failures : UInt32) (reply : Reply) :
    (Phase.performing step failures).standing.Proceeds (·.retries service)
      (reply.failure? request)
      (t.afterStep service.retry cancelled step failures reply).phase.standing := by
  cases reply with
  | ok _ =>
    cases step with
    | commit => exact .advances (Loop.place_lt (.step .commit)) rfl (.inl rfl)
    | send =>
      simp only [afterStep]
      split
      · exact .advances (Loop.step_lt_abort .send) rfl (.inr (isPlain_of_counts fun _ => trivial))
      · exact .advances (show Loop.place (.step .send) < Loop.place (.step .commit) by decide) rfl
          (.inl rfl)
  | error error =>
    have failed : Reply.failure? request (.error error) = some (.step step, error) := by
      simp [Reply.failure?, own]
    rw [failed]
    simp only [afterStep, afterFailure]
    split
    · exact .leaves rfl (Loop.place_lt _) rfl (.inr (.inl (isPlain_of_counts fun _ => trivial)))
    · exact .leaves rfl (Loop.step_lt_abort step) rfl
        (.inr (.inl (isPlain_of_counts fun _ => trivial)))
    · split
      · rename_i allowed
        exact .repeats error rfl (of_decide_eq_true allowed)
      · exact .leaves rfl (Loop.step_lt_abort step) rfl (.inr (.inr rfl))

theorem afterAbort_proceeds (t : Transaction) (reason : PublishError) (failures : UInt32)
    (reply : Reply) :
    (Phase.aborting reason failures).standing.Proceeds (·.retries service)
      (reply.failure? .abort)
      (t.afterAbort service.retry reason failures reply).phase.standing := by
  cases reply with
  | ok _ => exact .advances (Loop.place_lt .abort) rfl (.inl rfl)
  | error error =>
    change Proceeds _ _ (some (.abort, error)) _
    simp only [afterAbort]
    split
    · exact .leaves rfl (Loop.place_lt .abort) rfl
        (.inr (.inl (isPlain_of_counts fun _ => trivial)))
    · split
      · exact .leaves rfl (Loop.place_lt .abort) rfl (.inl rfl)
      · split
        · rename_i allowed
          exact .repeats error rfl (of_decide_eq_true allowed)
        · exact .leaves rfl (Loop.place_lt .abort) rfl (.inl rfl)

theorem resume_proceeds (permits : ∀ request, t.request? = some request →
      t.handle.status.permits request.operation = true)
    (ends : (t.demand service.retry).EndsWith signal) (cancelled : Bool) :
    t.phase.standing.Proceeds (·.retries service)
      ((t.heard? signal).bind fun (request, reply) => reply.failure? request)
      (t.resume service.retry cancelled signal).phase.standing := by
  rcases resume_cases cancelled permits ends with
    ⟨request, reply, hr, heard, hn⟩ | ⟨heard, step, failures, hp, hn⟩ |
    ⟨heard, reason, failures, hp, hn⟩
  · rw [hn, heard, Option.bind_some]
    unfold told afterReply
    rcases request?_cases hr with ⟨hp, rfl⟩ | ⟨failures, hp, rfl⟩ | ⟨failures, hp, rfl⟩ |
      ⟨reason, failures, hp, rfl⟩
    · simp only [hp]
      exact afterBegin_proceeds _ _ reply
    · simp only [hp]
      exact afterStep_proceeds rfl _ failures reply
    · simp only [hp]
      exact afterStep_proceeds rfl _ failures reply
    · simp only [hp]
      exact afterAbort_proceeds _ reason failures reply
  · rw [hn, heard, Option.bind_none, hp]
    split
    · exact .advances (Loop.step_lt_abort step) rfl (.inr (isPlain_of_counts fun _ => trivial))
    · exact .stays
  · rw [hn, heard, Option.bind_none, hp]
    exact .stays

end Transaction

namespace Activity

variable {service : Service} {activity : Activity} {replies : Replies} {signal : Signal}

open Standing (Proceeds isPlain_of_counts)

theorem afterTransaction_standing (pool : Pool) (t : Transaction) :
    (afterTransaction pool t).activity.standing = t.phase.standing := by
  unfold afterTransaction Transaction.result?
  cases hp : t.phase <;> simp [standing, hp, Transaction.Phase.standing]

theorem refuse_standing (pool : Pool) (error : PoolError) (purpose : Purpose) :
    (refuse pool error purpose).activity.standing =
      { place := 6, report? := some (.pool error) } := by
  cases purpose <;> rfl

theorem serve_standing (pool : Pool) (handle : Handle) (purpose : Purpose) :
    ∃ place > Loop.creation.place,
      (serve pool handle purpose).activity.standing = { place := place } := by
  cases purpose with
  | publish topic payload => exact ⟨2, by decide, rfl⟩
  | lend slot => exact ⟨6, by decide, rfl⟩

theorem begun_standing (service : Service) (pool : Pool) (purpose : Purpose) (id : String)
    (cancelled : Bool) (failures : UInt32) :
    (afterCreation service pool purpose id (Creation.begin cancelled failures)).activity.standing =
      if cancelled then { place := 6, report? := some (.pool .cancelled) }
      else { place := Loop.creation.place, count := failures } := by
  cases cancelled with
  | true => exact refuse_standing pool .cancelled purpose
  | false => rfl

theorem borrow_proceeds (retries : Loop → UInt32) (service : Service) (cancelled : Bool)
    (purpose : Purpose) :
    Proceeds retries { place := 0 } none (borrow service cancelled purpose).activity.standing := by
  rcases borrow_cases service cancelled purpose with h | ⟨handle, idle, -, h⟩ | ⟨id, ids, h⟩
  · rw [h, refuse_standing]
    exact .advances (by decide) rfl (.inr (isPlain_of_counts fun _ => trivial))
  · obtain ⟨place, further, served⟩ :=
      serve_standing { service.pool with idle := idle } handle purpose
    rw [h, served]
    exact .advances (Nat.zero_lt_of_lt further) rfl (.inl rfl)
  · rw [h, begun_standing]
    cases cancelled with
    | true => exact .advances (by decide) rfl (.inr (isPlain_of_counts fun _ => trivial))
    | false => exact .advances (by decide) rfl (.inl rfl)

theorem creating_proceeds (service : Service) (purpose : Purpose) (id : String)
    (creation : Creation)
    (ends : (creation.demand id service.options.operationLimit service.creation).EndsWith signal)
    (cancelled : Bool) :
    creation.standing.Proceeds (·.retries service)
      ((creating purpose id creation).failure? service signal)
      (afterCreation service service.pool purpose id (creation.resume
        service.options.operationLimit service.creation cancelled signal)).activity.standing := by
  cases creation with
  | pausing failures =>
    cases ends
    rw [Creation.resume, begun_standing]
    cases cancelled with
    | true =>
      exact .advances (Loop.place_lt .creation) rfl (.inr (isPlain_of_counts fun _ => trivial))
    | false => exact .stays
  | trying failures attempt =>
    simp only [Creation.resume, failure?]
    cases attempt.resume service.options.operationLimit signal with
    | ongoing next => exact .stays
    | made session =>
      obtain ⟨place, further, served⟩ := serve_standing service.pool.countCreated
        (Attempt.handle service.options id session) purpose
      simp only [afterCreation, served]
      exact .advances further rfl (.inl rfl)
    | failed error =>
      simp only [Creation.fail]
      split
      · simp only [afterCreation, refuse_standing]
        exact .leaves rfl (Loop.place_lt .creation) rfl (.inr (.inr rfl))
      · rename_i again
        obtain ⟨-, allowed⟩ :
            error.isFatal = false ∧ service.creation.canRetry (failures + 1) = true := by
          simpa using again
        exact .repeats error rfl (of_decide_eq_true allowed)

/-- What is told to a task leaves it where it stands, or takes it on. -/
theorem resume_proceeds (h : activity.InHand service.retry.retries replies)
    (ends : (activity.demand service).EndsWith signal) (cancelled : Bool) :
    activity.standing.Proceeds (·.retries service) (activity.failure? service signal)
      (activity.resume service cancelled signal).activity.standing := by
  cases activity with
  | waiting millis purpose => exact .stays
  | borrowing purpose => exact borrow_proceeds _ service cancelled purpose
  | creating purpose id creation =>
    exact creating_proceeds service purpose id creation ends cancelled
  | transacting t =>
    simp only [resume, afterTransaction_standing]
    exact Transaction.resume_proceeds (fun _ => h.2.permits) ends cancelled
  | returning handle outcome =>
    simp only [resume]
    rcases giveBack_cases service.pool handle outcome with ⟨-, hg⟩ | ⟨discarded, -, hg⟩ <;>
      rw [hg] <;> exact .stays
  | retiring handle discarded outcome => exact .stays
  | draining handles closed => cases handles <;> exact .stays
  | operating slot handle request => exact .stays
  | making slot id attempt =>
    simp only [resume]
    cases attempt.resume service.options.operationLimit signal <;> exact .stays
  | ended outcome => exact .stays

end Activity

/-! ### What has been counted -/

theorem toNat_succ_of_le {count retries : UInt32} (finite : retries.toNat + 1 < UInt32.size)
    (within : count ≤ retries) : (count + 1).toNat = count.toNat + 1 := by
  rw [UInt32.le_iff_toNat_le] at within
  rw [UInt32.toNat_add, UInt32.toNat_one]
  exact Nat.mod_eq_of_lt (by simp only [UInt32.size] at finite; omega)

theorem PublishError.Counts.unaborted {error : PublishError} {past : List Failure}
    (h : error.Counts past) (last : BrokerError) : error.Counts ((.abort, last) :: past) := by
  cases error with
  | pool error =>
    cases error with
    | creationExhausted attempts reason =>
      simpa only [Counts, Loop.errors_cons_ne (show Loop.abort ≠ .creation by simp)] using h
    | cancelled | closed => trivial
  | retriesExhausted attempts reason =>
    obtain ⟨step, number, same⟩ := h
    have other : Loop.abort ≠ .step step := by simp
    exact ⟨step, by rwa [Loop.errors_cons_ne other], by rwa [Loop.errors_cons_ne other]⟩
  | begin | aborted | cancelled | fatal | interrupted => trivial

namespace Standing

variable {retries : Loop → UInt32} {past : List Failure} {s next : Standing} {loop : Loop}
  {last : BrokerError} {failure : Option Failure}

/-- The failures so far fit where a task stands: the loops ahead have not failed, the one that it is
in has been counted, none has failed too often, and what is going to be reported is true. -/
structure Reckons (retries : Loop → UInt32) (past : List Failure) (s : Standing) : Prop where
  ahead : ∀ loop : Loop, s.place < loop.place → loop.errors past = []
  counted : ∀ loop : Loop, s.place = loop.place →
    s.count.toNat = (loop.errors past).length ∧ s.count ≤ retries loop
  bounded : ∀ loop : Loop, (loop.errors past).length ≤ (retries loop).toNat + 1
  reported : ∀ error, s.report? = some error → error.Counts past

theorem reckons_nil (retries : Loop → UInt32) (fresh : s.count = 0) (silent : s.report? = none) :
    s.Reckons retries [] where
  ahead _ _ := rfl
  counted _ _ := by simp [fresh]
  bounded _ := by simp
  reported error reports := by simp [silent] at reports

theorem counts_of_exhausted {error : PublishError}
    (counted : s.count.toNat = (loop.errors past).length)
    (increased : (s.count + 1).toNat = s.count.toNat + 1)
    (h : loop.exhausted? s.count last = some error) : error.Counts ((loop, last) :: past) := by
  cases loop with
  | creation =>
    obtain rfl := Option.some.inj h
    simp [PublishError.Counts, Loop.errors_cons_self, increased, counted]
  | step step =>
    obtain rfl := Option.some.inj h
    exact ⟨step, by simp [Loop.errors_cons_self, counted],
      by simp [Loop.errors_cons_self]⟩
  | abort => simp [Loop.exhausted?] at h

namespace Reckons

theorem within (h : s.Reckons retries past) (inside : s.place = loop.place) :
    (loop.errors past).length ≤ (retries loop).toNat := by
  obtain ⟨counted, within⟩ := h.counted loop inside
  rw [← counted]
  exact UInt32.le_iff_toNat_le.mp within

theorem ahead_cons (h : s.Reckons retries past) (inside : s.place = loop.place) {other : Loop}
    (further : s.place < other.place) : other.errors ((loop, last) :: past) = [] := by
  have different : loop ≠ other := by
    rintro rfl
    exact Nat.lt_irrefl _ (inside ▸ further)
  rw [Loop.errors_cons_ne different]
  exact h.ahead other further

theorem bounded_cons (h : s.Reckons retries past) (inside : s.place = loop.place) (other : Loop) :
    (other.errors ((loop, last) :: past)).length ≤ (retries other).toNat + 1 := by
  by_cases same : loop = other
  · subst same
    simpa [Loop.errors_cons_self] using h.within inside
  · rw [Loop.errors_cons_ne same]
    exact h.bounded other

theorem reported_cons (h : s.Reckons retries past) (inside : s.place = loop.place)
    (late : ∀ error, s.report? = some error → Loop.abort.place ≤ s.place) {error : PublishError}
    (reports : s.report? = some error) : error.Counts ((loop, last) :: past) := by
  obtain rfl : loop = .abort := by
    have place := late error reports
    rw [inside] at place
    rcases loop with _ | (_ | _) | _ <;> first | rfl | simp [Loop.place] at place
  exact (h.reported error reports).unaborted last

theorem proceeds (h : s.Reckons retries past)
    (finite : ∀ loop, (retries loop).toNat + 1 < UInt32.size)
    (late : ∀ error, s.report? = some error → Loop.abort.place ≤ s.place)
    (moves : s.Proceeds retries failure next) :
    next.Reckons retries (failure.toList ++ past) := by
  cases moves with
  | stays => exact h
  | @repeats loop last inside allowed =>
    obtain ⟨counted, within⟩ := h.counted loop inside
    -- The one step at which a word could run over: the count may still be equal to the budget here.
    have increased := toNat_succ_of_le (finite loop) within
    constructor
    · exact fun other further => h.ahead_cons inside further
    · intro other here
      obtain rfl : loop = other := Loop.place_inj (inside.symm.trans here)
      exact ⟨by simp [Loop.errors_cons_self, increased, counted], allowed⟩
    · exact h.bounded_cons inside
    · exact fun error reports => h.reported_cons inside late reports
  | advances further fresh reports =>
    constructor
    · exact fun other ahead => h.ahead other (further.trans ahead)
    · intro other here
      simp [fresh, h.ahead other (here ▸ further)]
    · exact h.bounded
    · intro error reported
      rcases reports with kept | plain
      · exact h.reported error (kept ▸ reported)
      · exact plain error reported past
  | @leaves loop last next inside further fresh reports =>
    constructor
    · exact fun other ahead => h.ahead_cons inside (further.trans ahead)
    · intro other here
      have nothing : other.errors ((loop, last) :: past) = [] :=
        h.ahead_cons inside (here ▸ further)
      simp [fresh, nothing]
    · exact h.bounded_cons inside
    · intro error reported
      rcases reports with kept | plain | exhausted
      · exact h.reported_cons inside late (kept ▸ reported)
      · exact plain error reported _
      · obtain ⟨counted, within⟩ := h.counted loop inside
        exact counts_of_exhausted counted (toNat_succ_of_le (finite loop) within)
          (exhausted ▸ reported)

theorem silent_end (h : s.Reckons retries past) : Standing.Reckons retries past { place := 6 } where
  ahead loop further := absurd further (Loop.place_lt loop).le.not_gt
  counted loop here := absurd here (Loop.place_lt loop).ne'
  bounded := h.bounded
  reported error reports := by simp at reports

end Reckons

end Standing

theorem Activity.CountsTruly.of_reckons {service : Service} {past : List Failure}
    {activity : Activity} (h : activity.standing.Reckons (·.retries service) past) :
    activity.CountsTruly service past where
  counted loop failures inside := by
    obtain ⟨place, count⟩ := standing_of_loop inside
    exact count ▸ h.counted loop place
  bounded := h.bounded
  reported outcome error ends reports :=
    h.reported error ((report?_of_outcome ends).trans reports)

end OutcomeRelay
