import OutcomeRelay.Producer.CallLine

set_option autoImplicit false

namespace OutcomeRelay

theorem CallOutcome.reply_eq_ok_iff {outcome : CallOutcome} :
    outcome.reply = .ok () ↔ outcome = .replied (.ok ()) := by
  cases outcome <;> simp [CallOutcome.reply]

namespace CallLine

variable {l : CallLine}

def clear (l : CallLine) : CallLine := { l with inFlight := none }

@[simp]
theorem clear_calls (l : CallLine) : l.clear.calls = l.calls := rfl

@[simp]
theorem clear_inFlight (l : CallLine) : l.clear.inFlight = none := rfl

@[simp]
theorem issue_calls (l : CallLine) (operation : Operation) :
    (l.issue operation).calls = l.calls ++ [⟨operation, none⟩] := rfl

@[simp]
theorem issue_inFlight (l : CallLine) (operation : Operation) :
    (l.issue operation).inFlight = some l.calls.length := rfl

@[simp]
theorem finish_inFlight (l : CallLine) (call : Nat) (outcome : CallOutcome) :
    (l.finish call outcome).inFlight = l.inFlight := rfl

@[simp]
theorem finish_length (l : CallLine) (call : Nat) (outcome : CallOutcome) :
    (l.finish call outcome).calls.length = l.calls.length := by
  simp [finish]

theorem issue_older {j : Nat} {c : BlockingCall} (hj : l.calls[j]? = some c)
    (operation : Operation) : (l.issue operation).calls[j]? = some c := by
  rw [issue_calls, List.getElem?_append_left (List.getElem?_eq_some_iff.mp hj).1, hj]

theorem call_of_issue {j : Nat} {c : BlockingCall} {operation : Operation}
    (hj : (l.issue operation).calls[j]? = some c) :
    l.calls[j]? = some c ∨ j = l.calls.length ∧ c = ⟨operation, none⟩ := by
  rw [issue_calls] at hj
  rcases Nat.lt_or_ge j l.calls.length with older | newest
  · exact .inl (by rwa [List.getElem?_append_left older] at hj)
  · have inside : j < l.calls.length + 1 := by simpa using (List.getElem?_eq_some_iff.mp hj).1
    obtain rfl : j = l.calls.length := by omega
    exact .inr ⟨rfl, by simpa using hj.symm⟩

theorem finish_getElem? (l : CallLine) (j k : Nat) (outcome : CallOutcome) :
    (l.finish j outcome).calls[k]? = l.calls[k]?.map fun c =>
      if j = k ∧ c.outcome = none then { c with outcome := some outcome } else c := by
  rw [finish, List.getElem?_modify]
  refine congrArg (fun f => f <$> l.calls[k]?) (funext fun c => ?_)
  by_cases here : j = k <;> simp [here]

theorem finish_operation {k : Nat} {c : BlockingCall} (hk : l.calls[k]? = some c) (j : Nat)
    (outcome : CallOutcome) :
    ∃ result, (l.finish j outcome).calls[k]? = some ⟨c.operation, result⟩ := by
  rw [finish_getElem?, hk, Option.map_some]
  split
  · exact ⟨_, rfl⟩
  · exact ⟨c.outcome, rfl⟩

theorem call_of_finish {j k : Nat} {c : BlockingCall} {outcome : CallOutcome}
    (hk : (l.finish j outcome).calls[k]? = some c) :
    l.calls[k]? = some c ∨
      j = k ∧ l.calls[k]? = some ⟨c.operation, none⟩ ∧ c.outcome = some outcome := by
  rw [finish_getElem?, Option.map_eq_some_iff] at hk
  obtain ⟨before, hb, rfl⟩ := hk
  split
  · obtain ⟨here, running⟩ := ‹_ ∧ _›
    exact .inr ⟨here, by rw [hb, ← running], rfl⟩
  · exact .inl hb

theorem finish_of_ended {j : Nat} (ended : ∀ operation, l.calls[j]? ≠ some ⟨operation, none⟩)
    (outcome : CallOutcome) : l.finish j outcome = l := by
  have same : (l.finish j outcome).calls = l.calls := by
    refine List.ext_getElem? fun k => ?_
    rw [finish_getElem?]
    cases hk : l.calls[k]? with
    | none => rfl
    | some c =>
      refine congrArg some (if_neg ?_)
      rintro ⟨rfl, running⟩
      exact ended c.operation (hk.trans (congrArg some (by rw [← running])))
  cases l
  exact congrArg (CallLine.mk · _) same

structure Landed (l : CallLine) (j : Nat) (operation : Operation) (outcome : CallOutcome) :
    Prop where
  inFlight : l.inFlight = some j
  call : l.calls[j]? = some ⟨operation, some outcome⟩

theorem Landed.unique {j k : Nat} {operation other : Operation} {outcome result : CallOutcome}
    (h : l.Landed j operation outcome) (h' : l.Landed k other result) :
    j = k ∧ operation = other ∧ outcome = result := by
  obtain rfl : j = k := Option.some.inj (h.inFlight.symm.trans h'.inFlight)
  simpa using h.call.symm.trans h'.call

theorem Landed.finish {j : Nat} {operation : Operation} {outcome : CallOutcome}
    (h : l.Landed j operation outcome) (call : Nat) (result : CallOutcome) :
    (l.finish call result).Landed j operation outcome :=
  ⟨h.inFlight, by simp [finish_getElem?, h.call]⟩

inductive Polls (l : CallLine) (wait : Wait) : CallLine → Progress → Prop
  | pending : Polls l wait l (.waiting wait)
  | issued {j : Nat} {parked operation : Operation} {outcome : CallOutcome}
      (landed : l.Landed j parked outcome) (turn : wait = .turn operation)
      (other : parked = operation → outcome ≠ .replied (.ok ())) :
      Polls l wait (l.issue operation) (.waiting .own)
  | answered {j : Nat} {parked : Operation} {outcome : CallOutcome}
      (landed : l.Landed j parked outcome)
      (same : ∀ operation, wait = .turn operation →
        parked = operation ∧ outcome = .replied (.ok ())) :
      Polls l wait l.clear (.answered outcome.reply)

theorem polls (l : CallLine) (wait : Wait) : l.Polls wait (l.poll wait).1 (l.poll wait).2 := by
  unfold poll current?
  cases flying : l.inFlight with
  | none => exact .pending
  | some j =>
    cases called : l.calls[j]? with
    | none => simpa [called] using .pending
    | some call =>
      obtain ⟨parked, _ | outcome⟩ := call
      · simpa [called] using .pending
      · have landed : l.Landed j parked outcome := ⟨flying, called⟩
        cases wait with
        | own => simpa [called] using .answered landed (by simp)
        | settling => simpa [called] using .answered landed (by simp)
        | turn operation =>
          by_cases same : parked = operation ∧ outcome = .replied (.ok ())
          · obtain ⟨rfl, rfl⟩ := same
            simpa [called, CallOutcome.reply] using .answered landed (by simp)
          · simpa [called, CallOutcome.reply_eq_ok_iff, same] using
              .issued landed rfl fun h other => same ⟨h, other⟩

/-- The call in flight is the one that was issued last, and every other call has ended. -/
structure Orderly (l : CallLine) : Prop where
  last : ∀ j, l.inFlight = some j → j + 1 = l.calls.length
  unfinished : ∀ j call, l.calls[j]? = some call → call.outcome = none → l.inFlight = some j

def Quiet (l : CallLine) : Prop := ∀ call ∈ l.calls, call.outcome ≠ none

theorem orderly_empty : Orderly {} := ⟨by simp, by simp⟩

namespace Orderly

theorem quiet_of_idle (h : l.Orderly) (idle : l.inFlight = none) : l.Quiet := by
  intro call mem running
  obtain ⟨j, hj⟩ := List.mem_iff_getElem?.mp mem
  simp [h.unfinished j call hj running] at idle

theorem quiet_of_landed (h : l.Orderly) {j : Nat} {operation : Operation} {outcome : CallOutcome}
    (landed : l.Landed j operation outcome) : l.Quiet := by
  intro call mem running
  obtain ⟨k, hk⟩ := List.mem_iff_getElem?.mp mem
  obtain rfl : k = j :=
    Option.some.inj ((h.unfinished k call hk running).symm.trans landed.inFlight)
  obtain rfl : (⟨operation, some outcome⟩ : BlockingCall) = call := by
    simpa [hk] using landed.call.symm
  cases running

theorem clear (quiet : l.Quiet) : l.clear.Orderly where
  last := by simp
  unfinished _ call hj running := absurd running (quiet call (List.mem_of_getElem? hj))

theorem issue (quiet : l.Quiet) (operation : Operation) : (l.issue operation).Orderly where
  last := by simp
  unfinished j call hj running := by
    rcases call_of_issue hj with older | ⟨rfl, -⟩
    · exact absurd running (quiet call (List.mem_of_getElem? older))
    · exact issue_inFlight l operation

theorem finish (h : l.Orderly) (call : Nat) (outcome : CallOutcome) :
    (l.finish call outcome).Orderly where
  last j flying := by simpa using h.last j flying
  unfinished j c hj running := by
    rcases call_of_finish hj with same | ⟨-, before, -⟩
    · exact h.unfinished j c same running
    · exact h.unfinished j _ before rfl

theorem running_le_one (h : l.Orderly) : l.running ≤ 1 := by
  rcases List.eq_nil_or_concat l.calls with none | ⟨older, newest, split⟩
  · simp [running, none]
  · rw [List.concat_eq_append] at split
    have length : l.calls.length = older.length + 1 := by simp [split]
    have ended : older.countP (fun call => call.outcome.isNone) = 0 := by
      rw [List.countP_eq_zero]
      intro call mem running
      obtain ⟨j, hj⟩ := List.mem_iff_getElem?.mp mem
      have inside : j < older.length := (List.getElem?_eq_some_iff.mp hj).1
      have flying := h.unfinished j call
        (by rw [split, List.getElem?_append_left inside, hj]) (by simpa using running)
      have last := h.last j flying
      omega
    rw [running, split, List.countP_append, ended, Nat.zero_add]
    exact List.countP_le_length

end Orderly

end CallLine

end OutcomeRelay
