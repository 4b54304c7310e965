import OutcomeRelay.Proofs.Release

set_option autoImplicit false

namespace OutcomeRelay

theorem left_lt {retries failures : UInt32} (finite : retries.toNat + 1 < UInt32.size)
    (again : failures + 1 ≤ retries) :
    (retries - (failures + 1)).toNat < (retries - failures).toNat := by
  have bound := failures.toNat_lt
  simp only [UInt32.le_iff_toNat_le, UInt32.toNat_add, UInt32.toNat_sub, UInt32.toNat_one,
    UInt32.size] at *
  omega

namespace Transaction.Phase

def stage (retries : UInt32) : Nat := 2 * retries.toNat + 2

/-- An upper bound of the signals that a transaction still waits for. -/
def budget (retries : UInt32) : Phase → Nat
  | ended _ => 0
  | aborting _ failures => 2 * (retries - failures).toNat + 1
  | abortPausing _ failures => 2 * (retries - failures).toNat + 2
  | performing .commit failures => stage retries + 2 * (retries - failures).toNat + 1
  | pausing .commit failures => stage retries + 2 * (retries - failures).toNat + 2
  | performing .send failures => 2 * stage retries + 2 * (retries - failures).toNat + 1
  | pausing .send failures => 2 * stage retries + 2 * (retries - failures).toNat + 2
  | beginning => 3 * stage retries

theorem Next.budget_lt {retries : UInt32} {cancelled : Bool} {phase next : Phase}
    (finite : retries.toNat + 1 < UInt32.size) (h : Next retries cancelled phase next) :
    next.budget retries < phase.budget retries := by
  have whole : (retries - 0).toNat = retries.toNat := by simp
  cases h with
  | begun => simp only [budget, stage, whole]; omega
  | unbegun error => simp only [budget, stage]; omega
  | sent failures goes_on => simp only [budget, stage, whole]; omega
  | committed failures => simp only [budget, stage]; omega
  | failed step again =>
    have less := left_lt finite again
    cases step <;> simp only [budget] <;> omega
  | stopped step failures reason => cases step <;> simp only [budget, stage, whole] <;> omega
  | lost step failures error => cases step <;> simp only [budget, stage] <;> omega
  | repeated step failures goes_on => cases step <;> simp only [budget] <;> omega
  | cut step failures heeded => cases step <;> simp only [budget, stage, whole] <;> omega
  | unaborted reason again =>
    have less := left_lt finite again
    simp only [budget]
    omega
  | abortRepeated reason failures => simp only [budget]; omega
  | aborted reason failures error => simp only [budget]; omega

end Transaction.Phase

namespace Attempt

def budget : Attempt → Nat
  | connecting => 3
  | registering _ => 2
  | closing _ _ => 1

theorem budget_pos (attempt : Attempt) : 0 < attempt.budget := by
  cases attempt <;> simp [budget]

theorem resume_budget {attempt next : Attempt} {id : String} {limit : Span} {signal : Signal}
    (ends : (attempt.demand id limit).EndsWith signal)
    (h : attempt.resume limit signal = .ongoing next) : next.budget < attempt.budget := by
  cases attempt with
  | connecting =>
    cases ends <;> cases h
    simp [budget]
  | registering session =>
    cases ends with
    | answered session id request limit reply =>
      cases reply <;> cases h
      simp [budget]
    | unanswered =>
      cases h
      simp [budget]
  | closing session error =>
    cases ends
    cases h

end Attempt

def Creation.budget (retries : UInt32) : Creation → Nat
  | trying failures attempt => 4 * (retries - failures).toNat + attempt.budget
  | pausing failures => 4 * (retries - failures).toNat + 4

def Transaction.Phase.lease (retries : UInt32) : Nat := 3 * stage retries + 4

namespace Activity

/-- An upper bound of what a task is still told, for a service with these numbers of repetitions. -/
def budget (retries creations : UInt32) : Activity → Nat
  | waiting _ _ => Transaction.Phase.lease retries + 4 * creations.toNat + 5
  | borrowing _ => Transaction.Phase.lease retries + 4 * creations.toNat + 4
  | creating _ _ creation => Transaction.Phase.lease retries + creation.budget creations
  | transacting t => t.phase.budget retries + 3
  | returning _ _ => 2
  | retiring _ _ _ => 1
  | draining handles _ => handles.length + 1
  | operating _ _ _ => 1
  | making _ _ attempt => attempt.budget
  | ended _ => 0

variable {service : Service} {past : Replies} {signal : Signal} (retries creations : UInt32)

theorem serve_budget (pool : Pool) (handle : Handle) (purpose : Purpose) :
    (serve pool handle purpose).activity.budget retries creations <
      Transaction.Phase.lease retries := by
  cases purpose with
  | publish topic payload =>
    simp [serve, budget, Transaction.Phase.budget, Transaction.Phase.lease]
  | lend slot => simp [serve, budget, Transaction.Phase.lease]

theorem refuse_budget (pool : Pool) (error : PoolError) (purpose : Purpose) :
    (refuse pool error purpose).activity.budget retries creations = 0 := by
  cases purpose <;> rfl

theorem borrow_budget (service : Service) (cancelled : Bool) (purpose : Purpose) :
    (borrow service cancelled purpose).activity.budget retries creations <
      Transaction.Phase.lease retries + 4 * creations.toNat + 4 := by
  rcases borrow_cases service cancelled purpose with h | ⟨handle, idle, -, h⟩ | ⟨id, ids, h⟩
  · rw [h, refuse_budget]
    omega
  · rw [h]
    have served := serve_budget retries creations { service.pool with idle := idle } handle purpose
    omega
  · rw [h]
    unfold Creation.begin
    split
    · rw [afterCreation, refuse_budget]
      omega
    · simp only [afterCreation, budget, Creation.budget, Attempt.budget, UInt32.sub_zero]
      omega

theorem creating_budget (finite : service.creation.retries.toNat + 1 < UInt32.size)
    (cancelled : Bool) (purpose : Purpose) (id : String) (creation : Creation)
    (ends : (creation.demand id service.options.operationLimit service.creation).EndsWith signal) :
    (afterCreation service service.pool purpose id (creation.resume service.options.operationLimit
      service.creation cancelled signal)).activity.budget retries service.creation.retries <
      Transaction.Phase.lease retries + creation.budget service.creation.retries := by
  have refused (error : PoolError) : (refuse service.pool error purpose).activity.budget retries
      service.creation.retries < Transaction.Phase.lease retries := by
    rw [refuse_budget]
    simp [Transaction.Phase.lease]
  cases creation with
  | pausing failures =>
    cases ends
    simp only [Creation.resume, Creation.begin]
    split
    · exact (refused _).trans_le (Nat.le_add_right _ _)
    · simp only [afterCreation, budget, Creation.budget, Attempt.budget]
      omega
  | trying failures attempt =>
    simp only [Creation.resume]
    cases hn : attempt.resume service.options.operationLimit signal with
    | ongoing next =>
      have less := Attempt.resume_budget ends hn
      simp only [afterCreation, budget, Creation.budget]
      omega
    | made session =>
      exact (serve_budget _ _ _ _ purpose).trans_le (Nat.le_add_right _ _)
    | failed error =>
      simp only [Creation.fail]
      split
      · exact (refused _).trans_le (Nat.le_add_right _ _)
      · rename_i again
        obtain ⟨-, allowed⟩ :
            error.isFatal = false ∧ failures + 1 ≤ service.creation.retries := by
          simpa [Backoff.canRetry] using again
        have less := left_lt finite allowed
        have some_left := attempt.budget_pos
        simp only [afterCreation, budget, Creation.budget]
        omega

/-- Whatever a task is told, it has less left to do than before. -/
theorem resume_budget {activity : Activity} (h : activity.InHand service.retry.retries past)
    (ends : (activity.demand service).EndsWith signal)
    (finite : service.retry.retries.toNat + 1 < UInt32.size)
    (creates : service.creation.retries.toNat + 1 < UInt32.size) (cancelled : Bool) :
    (activity.resume service cancelled signal).activity.budget service.retry.retries
        service.creation.retries <
      activity.budget service.retry.retries service.creation.retries := by
  cases activity with
  | waiting millis purpose => simp [resume, budget]
  | borrowing purpose => exact borrow_budget _ _ service cancelled purpose
  | creating purpose id creation =>
    exact creating_budget _ creates cancelled purpose id creation ends
  | transacting t =>
    have next := (Transaction.resume_next cancelled (fun _ => h.2.permits) ends).budget_lt finite
    simp only [resume, afterTransaction]
    split
    · simpa [budget] using next
    · simp [budget]
  | returning handle outcome =>
    simp only [resume]
    rcases giveBack_cases service.pool handle outcome with ⟨-, hg⟩ | ⟨discarded, -, hg⟩ <;>
      simp [hg, budget]
  | retiring handle discarded outcome => simp [resume, afterRetiring, budget]
  | draining handles closed => cases handles <;> simp [resume, budget]
  | operating slot handle request => simp [resume, afterOperating, budget]
  | making slot id attempt =>
    simp only [resume]
    cases hn : attempt.resume service.options.operationLimit signal with
    | ongoing next => exact Attempt.resume_budget ends hn
    | made session => exact attempt.budget_pos
    | failed error => exact attempt.budget_pos
  | ended outcome => cases ends

end Activity

end OutcomeRelay
