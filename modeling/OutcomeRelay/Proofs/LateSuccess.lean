import OutcomeRelay.Proofs.LineNotes

set_option autoImplicit false

namespace OutcomeRelay

def LineNote.source? : LineNote → Option Nat
  | .answered _ _ source => source
  | _ => none

namespace LineNotes

variable {past : LineNotes} {j : Nat} {operation : Operation}

def sources (past : LineNotes) : List Nat := past.filterMap LineNote.source?

def EndedWith (past : LineNotes) (j : Nat) (operation : Operation) (outcome : CallOutcome) : Prop :=
  ∃ later earlier, past = later ++ .ended j outcome :: earlier ∧ .issued j operation ∈ earlier

/-- The success of call `j` is reported, or a call of another operation is issued, or a send or a
close has waited for call `j`. -/
def Released (operation : Operation) (j : Nat) (notes : LineNotes) : Prop :=
  (∃ request, request.operation = operation ∧ .answered request (.ok ()) (some j) ∈ notes) ∨
  (∃ i other, other ≠ operation ∧ .issued i other ∈ notes) ∨
  ∃ request reply, request.isCall = false ∧ .answered request reply (some j) ∈ notes

theorem EndedWith.cons {outcome : CallOutcome} (h : past.EndedWith j operation outcome)
    (n : LineNote) : EndedWith (n :: past) j operation outcome := by
  obtain ⟨later, earlier, split, issued⟩ := h
  exact ⟨n :: later, earlier, congrArg (n :: ·) split, issued⟩

theorem Released.cons {notes : LineNotes} (h : Released operation j notes) (n : LineNote) :
    Released operation j (n :: notes) := by
  rcases h with ⟨request, same, mem⟩ | ⟨i, other, ne, mem⟩ | ⟨request, reply, direct, mem⟩
  · exact .inl ⟨request, same, List.mem_cons_of_mem n mem⟩
  · exact .inr (.inl ⟨i, other, ne, List.mem_cons_of_mem n mem⟩)
  · exact .inr (.inr ⟨request, reply, direct, List.mem_cons_of_mem n mem⟩)

theorem line_answered_calls (request : Request) (reply : Reply) (source : Option Nat) :
    (line (.answered request reply source :: past)).calls = past.line.calls := by
  cases source <;> rfl

namespace Faithful

theorem of_append {later : LineNotes} (h : Faithful (later ++ past)) : past.Faithful := by
  induction later with
  | nil => exact h
  | cons n later ih =>
    cases h with
    | cons faithful => exact ih faithful

theorem before {later : LineNotes} {n : LineNote} (h : Faithful (later ++ n :: past)) :
    past.Faithful := by
  cases h.of_append with
  | cons faithful => exact faithful

theorem admits {later : LineNotes} {n : LineNote} (h : Faithful (later ++ n :: past)) :
    past.Admits n := by
  cases h.of_append with
  | cons _ admits => exact admits

theorem issued_of_call (h : past.Faithful) {outcome : Option CallOutcome}
    (hj : past.line.calls[j]? = some ⟨operation, outcome⟩) : .issued j operation ∈ past := by
  induction h generalizing outcome with
  | nil => simp [line] at hj
  | @cons past n faithful admits ih =>
    cases n with
    | answered request reply source =>
      rw [line_answered_calls] at hj
      exact List.mem_cons_of_mem _ (ih hj)
    | ended k result =>
      rcases CallLine.call_of_finish hj with same | ⟨-, before, -⟩
      · exact List.mem_cons_of_mem _ (ih same)
      · exact List.mem_cons_of_mem _ (ih before)
    | issued k other =>
      cases admits
      rcases CallLine.call_of_issue hj with older | ⟨rfl, issued⟩
      · exact List.mem_cons_of_mem _ (ih older)
      · cases issued
        exact List.mem_cons_self

theorem call_of_issued (h : past.Faithful) (issued : .issued j operation ∈ past) :
    ∃ outcome, past.line.calls[j]? = some ⟨operation, outcome⟩ := by
  induction h with
  | nil => simp at issued
  | @cons past n faithful admits ih =>
    cases n with
    | answered request reply source =>
      rw [line_answered_calls]
      exact ih (by simpa using issued)
    | ended k result =>
      obtain ⟨outcome, hj⟩ := ih (by simpa using issued)
      exact CallLine.finish_operation hj k result
    | issued k other =>
      cases admits
      rcases List.mem_cons.mp issued with newest | older
      · cases newest
        exact ⟨none, by simp [line]⟩
      · obtain ⟨outcome, hj⟩ := ih older
        exact ⟨outcome, CallLine.issue_older hj other⟩

theorem endedWith_of_call (h : past.Faithful) {outcome : CallOutcome}
    (hj : past.line.calls[j]? = some ⟨operation, some outcome⟩) :
    past.EndedWith j operation outcome := by
  induction h with
  | nil => simp [line] at hj
  | @cons past n faithful admits ih =>
    cases n with
    | answered request reply source =>
      rw [line_answered_calls] at hj
      exact (ih hj).cons _
    | issued k other =>
      rcases CallLine.call_of_issue hj with older | ⟨-, unended⟩
      · exact (ih older).cons _
      · cases unended
    | ended k result =>
      rcases CallLine.call_of_finish hj with same | ⟨rfl, before, became⟩
      · exact (ih same).cons _
      · cases became
        exact ⟨[], past, rfl, faithful.issued_of_call before⟩

theorem left_of_source (h : past.Faithful) (mem : j ∈ past.sources) :
    j < past.line.calls.length ∧ past.line.inFlight ≠ some j := by
  induction h with
  | nil => simp [sources] at mem
  | @cons past n faithful admits ih =>
    cases admits with
    | issued =>
      -- A call that is issued has a new number.
      have older := (ih mem).1
      refine ⟨by simp [line]; omega, ?_⟩
      simpa [line] using (Nat.ne_of_lt older).symm
    | ended => simpa [line] using ih mem
    | plain => exact ih mem
    | delivered landed | settled landed =>
      refine ⟨?_, by simp [line]⟩
      rcases List.mem_cons.mp mem with rfl | older
      · exact (List.getElem?_eq_some_iff.mp landed.call).1
      · exact (ih older).1

theorem sources_nodup (h : past.Faithful) : past.sources.Nodup := by
  induction h with
  | nil => exact List.nodup_nil
  | @cons past n faithful admits ih =>
    cases admits with
    | issued | ended | plain => exact ih
    | delivered landed | settled landed =>
      exact List.nodup_cons.mpr
        ⟨fun mem => (faithful.left_of_source mem).2 landed.inFlight, ih⟩

theorem issued_of_inFlight (h : past.Faithful) (flying : past.line.inFlight = some j)
    {outcome : Option CallOutcome} (hj : past.line.calls[j]? = some ⟨operation, outcome⟩) :
    ∃ later earlier, past = later ++ .issued j operation :: earlier ∧
      ∀ request reply k, .answered request reply (some k) ∉ later := by
  induction h generalizing outcome with
  | nil => simp [line] at flying
  | @cons past n faithful admits ih =>
    have kept (flying : past.line.inFlight = some j) {outcome : Option CallOutcome}
        (hj : past.line.calls[j]? = some ⟨operation, outcome⟩)
        (other : ∀ request reply k, .answered request reply (some k) ≠ n) :
        ∃ later earlier, n :: past = later ++ .issued j operation :: earlier ∧
          ∀ request reply k, .answered request reply (some k) ∉ later := by
      obtain ⟨later, earlier, split, none⟩ := ih flying hj
      exact ⟨n :: later, earlier, congrArg (n :: ·) split, fun request reply k => by
        simp [other, none]⟩
    cases admits with
    | issued quiet fresh =>
      obtain rfl : past.line.calls.length = j := Option.some.inj flying
      rcases CallLine.call_of_issue hj with older | ⟨-, issued⟩
      · exact absurd (List.getElem?_eq_some_iff.mp older).1 (Nat.lt_irrefl _)
      · cases issued
        exact ⟨[], past, rfl, by simp⟩
    | ended running =>
      rcases CallLine.call_of_finish hj with same | ⟨-, before, -⟩
      · exact kept flying same (by simp)
      · exact kept flying before (by simp)
    | plain => exact kept flying hj (by simp)
    | delivered | settled => cases flying

/-- After call `j` has succeeded it stays parked until it is released. -/
theorem released_or_landed {notes : LineNotes}
    (h : Faithful (notes ++ .ended j (.replied (.ok ())) :: past))
    (issued : .issued j operation ∈ past) :
    Released operation j notes ∨
      (line (notes ++ .ended j (.replied (.ok ())) :: past)).Landed j operation
        (.replied (.ok ())) := by
  induction notes with
  | nil =>
    cases h with
    | cons faithful admits =>
      cases admits with
      | @ended _ other _ running =>
        obtain ⟨outcome, called⟩ := faithful.call_of_issued issued
        refine .inr ⟨faithful.orderly.unfinished j _ running rfl, ?_⟩
        obtain ⟨rfl, rfl⟩ : operation = other ∧ outcome = none := by
          simpa using called.symm.trans running
        simp [line, CallLine.finish_getElem?, running]
  | cons n notes ih =>
    cases h with
    | cons faithful admits =>
      rcases ih faithful with released | landed
      · exact .inl (released.cons n)
      · cases admits with
        | @issued other quiet fresh =>
          -- No call of the same operation is issued over a success that is parked.
          refine .inl (.inr (.inl ⟨_, other, ?_, List.mem_cons_self⟩))
          rintro rfl
          exact fresh j landed
        | ended running => exact .inr (landed.finish _ _)
        | plain => exact .inr landed
        | @delivered request reply outcome k again call replied begun =>
          obtain ⟨rfl, same, rfl⟩ := landed.unique again
          subst replied
          exact .inl (.inl ⟨request, same.symm, List.mem_cons_self⟩)
        | @settled request reply _ _ k again direct =>
          obtain ⟨rfl, -, -⟩ := landed.unique again
          exact .inl (.inr (.inr ⟨request, reply, direct, List.mem_cons_self⟩))

theorem landed_of_success {later : LineNotes} {request : Request} {source : Option Nat}
    (h : Faithful (later ++ .answered request (.ok ()) source :: past))
    (call : request.isCall = true) :
    ∃ j, source = some j ∧ past.line.Landed j request.operation (.replied (.ok ())) ∧
      (request = .commit → past.Begun) := by
  cases h.admits with
  | delivered landed _ replied begun =>
    obtain rfl := CallOutcome.reply_eq_ok_iff.mp replied.symm
    exact ⟨_, rfl, landed, begun⟩
  | settled landed direct => simp [call] at direct
  | plain failed => exact absurd rfl (failed call)

end Faithful

end LineNotes

namespace LineRun

variable (r : LineRun)

/-- Whatever a producer reports as a success is one. -/
structure Reported : Prop where
  /-- A success is reported of a call that succeeded, of the operation that was asked for. -/
  genuine : ∀ later request source (earlier : LineNotes),
    r.notes = later ++ .answered request (.ok ()) source :: earlier → request.isCall = true →
    ∃ j, source = some j ∧ earlier.EndedWith j request.operation (.replied (.ok ()))
  /-- No call is reported twice. -/
  once : r.notes.sources.Nodup
  /-- Between the success of a call and the next call of its operation, the call was released. -/
  kept : ∀ later i operation notes j (earlier : LineNotes),
    r.notes = later ++ .issued i operation :: (notes ++ .ended j (.replied (.ok ())) :: earlier) →
    .issued j operation ∈ earlier → LineNotes.Released operation j notes
  /-- A commit that is reported was issued after the last begin that was reported. -/
  current : ∀ later source (earlier : LineNotes),
    r.notes = later ++ .answered .commit (.ok ()) source :: earlier →
    ∃ j recent old, source = some j ∧ earlier = recent ++ .issued j .commit :: old ∧
      LineNotes.Begun old ∧ ¬ LineNotes.Begun recent

theorem reported : r.Reported where
  genuine later request source earlier split call := by
    have faithful := split ▸ r.told.faithful
    obtain ⟨j, rfl, landed, -⟩ := faithful.landed_of_success call
    exact ⟨j, rfl, faithful.before.endedWith_of_call landed.call⟩
  once := r.told.faithful.sources_nodup
  kept later i operation notes j earlier split issued := by
    have faithful := split ▸ r.told.faithful
    refine (faithful.before.released_or_landed issued).resolve_right fun landed => ?_
    cases faithful.admits with
    | issued quiet fresh => exact fresh j landed
  current later source earlier split := by
    have faithful := split ▸ r.told.faithful
    obtain ⟨j, rfl, landed, begun⟩ := faithful.landed_of_success rfl
    obtain ⟨recent, old, rfl, none⟩ :=
      faithful.before.issued_of_inFlight landed.inFlight landed.call
    -- A begin that is reported comes with the end of its call, and leaves no call in flight.
    have unbegun : ¬ LineNotes.Begun recent := fun ⟨source, mem⟩ => by
      obtain ⟨newer, older, rfl⟩ := List.append_of_mem mem
      have begins := faithful.before
      rw [List.append_assoc] at begins
      obtain ⟨k, rfl, -⟩ := begins.landed_of_success rfl
      exact none _ _ _ mem
    refine ⟨j, recent, old, rfl, rfl, ?_, unbegun⟩
    obtain ⟨source, mem⟩ := begun rfl
    rcases List.mem_append.mp mem with recently | before
    · exact absurd ⟨source, recently⟩ unbegun
    · exact ⟨source, by simpa using before⟩

/-- The first commit succeeds after its caller has given up, and the second request reports it. -/
def pickedUp : LineRun where
  session := 0
  brokers := ["b"]
  id := "svc"
  limit := .ofSecs 1
  events := [.ask .begin (.ok ()), .finish 0 (.replied (.ok ())), .poll, .ask .commit (.ok ()),
    .expire, .finish 1 (.replied (.ok ())), .ask .commit (.ok ()), .poll]

example : pickedUp.notes.take 3 = [.answered .commit (.ok ()) (some 1),
    .ended 1 (.replied (.ok ())),
    .answered .commit (.error (.retriable "no broker response within 1s")) none] := by
  decide +kernel

end LineRun

end OutcomeRelay
