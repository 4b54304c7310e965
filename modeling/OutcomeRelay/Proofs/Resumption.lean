import OutcomeRelay.Proofs.Release
import OutcomeRelay.World.Simulation

set_option autoImplicit false

/-!
# Runs that are stopped and resumed

A run to the end of a task may be stopped at any time. Main statement: when it goes on from there it
comes to the same end, at the same time.
-/

namespace OutcomeRelay

namespace Simulation

variable {s last : Simulation} {i : Nat}

@[simp] theorem arm_world (j : Nat) : (s.arm j).world = s.world := by
  simp only [arm]
  split <;> rfl

@[simp] theorem step_world (event : Event) : (s.step event).world = s.world.apply event := by
  unfold step
  split
  · rfl
  · split
    · exact arm_world _
    · rfl
  · rfl

/-- Where a run goes on from here, if it goes on at all. -/
def onward? (s : Simulation) (goal : Goal) : Option Simulation :=
  if goal.isReached s then none
  else match s.next? s.line with
    | some (event, line) => some ({ s with line := line }.step event)
    | none => if goal.hasEnded s then none else (s.nextTime? goal).map (s.tick goal)

def isDone (s : Simulation) (goal : Goal) : Bool :=
  goal.isReached s || ((s.next? s.line).isNone && goal.hasEnded s)

theorem run_succ (goal : Goal) (n : Nat) (s : Simulation) :
    run goal (n + 1) s = match s.onward? goal with
      | none => (s, s.isDone goal)
      | some next => run goal n next := by
  rw [run, onward?, isDone]
  cases goal.isReached s with
  | true => rfl
  | false =>
    cases s.next? s.line with
    | some turn => rfl
    | none =>
      cases goal.hasEnded s with
      | true => rfl
      | false => cases s.nextTime? goal <;> rfl

theorem onward?_event {goal : Goal} {next : Simulation} (h : s.onward? goal = some next) :
    ∃ event line, next = ({ s with line := line } : Simulation).step event := by
  unfold onward? at h
  split at h
  · simp at h
  · split at h
    · exact ⟨_, _, (Option.some.inj h).symm⟩
    · split at h
      · simp at h
      · obtain ⟨time, -, rfl⟩ := Option.map_eq_some_iff.mp h
        exact ⟨.tick time, _ ++ _, rfl⟩

theorem run_events (goal : Goal) (n : Nat) (s : Simulation) :
    ∃ events, (run goal n s).1.world = s.world.run events := by
  induction n generalizing s with
  | zero => exact ⟨[], rfl⟩
  | succ n ih =>
    rw [run_succ]
    cases h : s.onward? goal with
    | none => exact ⟨[], rfl⟩
    | some next =>
      obtain ⟨event, line, rfl⟩ := onward?_event h
      obtain ⟨events, he⟩ := ih (({ s with line := line } : Simulation).step event)
      exact ⟨event :: events, he.trans (by rw [step_world]; rfl)⟩

theorem run_of_done {goal : Goal} {n m : Nat} (h : run goal n s = (last, true)) (le : n ≤ m) :
    run goal m s = (last, true) := by
  induction n generalizing s m with
  | zero => simp [run] at h
  | succ n ih =>
    obtain ⟨m, rfl⟩ := Nat.exists_eq_add_of_lt le
    rw [run_succ] at h
    rw [show n + m + 1 = (n + m) + 1 from rfl, run_succ]
    cases ho : s.onward? goal with
    | none => simpa only [ho] using h
    | some next => exact ih (by simpa only [ho] using h) (by omega)

/-- Two runs came to the same, or to nothing but different times after which nothing is going to
happen any more. -/
def SameEnd (a b : Simulation × Bool) : Prop :=
  a = b ∨ (a.2 = false ∧ b.2 = false ∧ ∃ now, a.1.world = { b.1.world with now := now })

/-- A task is still to end, and nothing happens up to a time. -/
structure Lull (s : Simulation) (i t : Nat) : Prop where
  unended : s.hasEnded i = false
  waits : s.next? s.line = none
  later : s.world.now < t
  quiet : ∀ entry ∈ s.agenda, s.world.now < entry.1 → t < entry.1

namespace Lull

variable {t : Nat}

theorem tick_world (h : s.Lull i t) :
    (s.tick (.ended [i]) t).world = { s.world with now := t } := by
  change ({ s.world with now := max s.world.now t } : World) = _
  rw [max_eq_right h.later.le]

theorem tick_eq (h : s.Lull i t) : s.tick (.ended [i]) t =
    { s with line := [], world := { s.world with now := t } } := by
  have nobody : (s.agenda.filter fun entry => s.world.now < entry.1 && entry.1 ≤ t) = [] := by
    refine List.filter_eq_nil_iff.mpr fun entry he => ?_
    have := h.quiet entry he
    simp only [Bool.and_eq_true, decide_eq_true_eq, not_and]
    omega
  simp only [tick, nobody, step, World.eventTask?, World.apply, max_eq_right h.later.le]
  rfl

theorem next_done (h : s.Lull i t) : s.isDone (.ended [i]) = false := by
  simp [isDone, Goal.isReached, Goal.hasEnded, h.unended]

theorem tick_done (h : s.Lull i t) : (s.tick (.ended [i]) t).isDone (.ended [i]) = false := by
  have unended := h.unended
  rw [h.tick_eq]
  simp_all [isDone, Goal.isReached, Goal.hasEnded, hasEnded]

theorem tick_onward? (h : s.Lull i t) :
    (s.tick (.ended [i]) t).onward? (.ended [i]) = s.onward? (.ended [i]) := by
  have unended : (s.tick (.ended [i]) t).hasEnded i = false := h.tick_eq ▸ h.unended
  have waits : (s.tick (.ended [i]) t).next? (s.tick (.ended [i]) t).line = none := by
    rw [h.tick_eq]
    rfl
  have now : (s.tick (.ended [i]) t).world.now = t := by rw [h.tick_world]
  have agenda : (s.tick (.ended [i]) t).agenda = s.agenda := by rw [h.tick_eq]
  -- What is due after the lull is due after its beginning, and the other way round.
  have due (entry) (he : entry ∈ s.agenda) : t < entry.1 ↔ s.world.now < entry.1 :=
    ⟨h.later.trans, h.quiet entry he⟩
  have times : (s.tick (.ended [i]) t).nextTime? (.ended [i]) = s.nextTime? (.ended [i]) := by
    simp only [nextTime?, Goal.time?, Option.toList_none, List.nil_append, now, agenda]
    congr 1
    refine List.filter_congr fun time ht => ?_
    obtain ⟨entry, he, rfl⟩ := List.mem_map.mp ht
    simp [due entry he]
  have ticks (time : Nat) (after : t < time) :
      (s.tick (.ended [i]) t).tick (.ended [i]) time = s.tick (.ended [i]) time := by
    have come : (s.agenda.filter fun entry => t < entry.1 && entry.1 ≤ time) =
        s.agenda.filter fun entry => s.world.now < entry.1 && entry.1 ≤ time :=
      List.filter_congr fun entry he => by simp [due entry he]
    have moment : max t time = max s.world.now time := by
      have := h.later
      omega
    rw [h.tick_eq]
    simp only [tick, come, step, World.eventTask?, World.apply, moment]
  have after (time : Nat) (ht : s.nextTime? (.ended [i]) = some time) : t < time := by
    simp only [nextTime?, Goal.time?, Option.toList_none, List.nil_append,
      List.min?_eq_some_iff] at ht
    obtain ⟨among, hlt⟩ := List.mem_filter.mp ht.1
    obtain ⟨entry, he, rfl⟩ := List.mem_map.mp among
    exact h.quiet entry he (by simpa using hlt)
  simp only [onward?, Goal.isReached, Goal.hasEnded, List.all_cons, unended, h.unended, waits,
    h.waits, times]
  cases ht : s.nextTime? (.ended [i]) with
  | none => rfl
  | some time => simp [ticks time (after time ht)]

end Lull

/-- With an additional time to stop at, a run does the same, or the clock comes to that time before
anything else happens. -/
theorem onward?_endedOr (t : Nat) {next : Simulation} (h : s.onward? (.endedOr i t) = some next) :
    s.onward? (.ended [i]) = some next ∨ (s.Lull i t ∧ next = s.tick (.ended [i]) t) := by
  unfold onward? at h ⊢
  have early : s.world.now < t := by
    by_contra late
    simp [Goal.isReached, not_lt.mp late] at h
  simp only [Goal.isReached, not_le.mpr early, decide_false, Bool.false_eq_true, ↓reduceIte] at h ⊢
  cases turn : s.next? s.line with
  | some turn => exact .inl (by simpa only [turn] using h)
  | none =>
    simp only [turn, Goal.hasEnded, List.all_cons, List.all_nil, Bool.and_true] at h ⊢
    cases ended : s.hasEnded i with
    | true => simp [ended] at h
    | false =>
      simp only [ended, Bool.false_eq_true, ↓reduceIte, Option.map_eq_some_iff] at h ⊢
      obtain ⟨time, first, rfl⟩ := h
      simp only [nextTime?, Goal.time?, Option.toList_some, List.singleton_append,
        List.filter_cons, early, decide_true, ↓reduceIte, List.min?_eq_some_iff, Option.toList_none,
        List.nil_append, List.mem_cons] at first ⊢
      obtain ⟨among, least⟩ := first
      -- Either something is due at the first time or before it, or there is a lull.
      by_cases lull : ∀ x ∈ (s.agenda.map (·.1)).filter (s.world.now < ·), t < x
      · obtain rfl : time = t := by
          refine among.resolve_right fun among => ?_
          exact absurd (lull time among) (not_lt.mpr (least t (.inl rfl)))
        refine .inr ⟨⟨ended, turn, early, fun entry he hlt => ?_⟩, rfl⟩
        exact lull entry.1 (List.mem_filter.mpr
          ⟨List.mem_map_of_mem he, decide_eq_true hlt⟩)
      · push Not at lull
        obtain ⟨x, hx, sooner⟩ := lull
        refine .inl ⟨time, ⟨?_, fun y hy => least y (.inr hy)⟩, rfl⟩
        rcases among with rfl | among
        · exact le_antisymm sooner (least x (.inr hx)) ▸ hx
        · exact among

/-- A run may be stopped at any moment and go on from there. -/
theorem run_resumes (t k n : Nat) (s : Simulation) :
    ∃ m m', n ≤ m ∧ n ≤ m' ∧
      SameEnd (run (.ended [i]) m (run (.endedOr i t) k s).1) (run (.ended [i]) m' s) := by
  have here (s : Simulation) :
      ∃ m m', n ≤ m ∧ n ≤ m' ∧ SameEnd (run (.ended [i]) m s) (run (.ended [i]) m' s) :=
    ⟨n, n, le_rfl, le_rfl, .inl rfl⟩
  induction k generalizing s with
  | zero => exact here s
  | succ k ih =>
    rw [run_succ]
    cases h : s.onward? (.endedOr i t) with
    | none => exact here s
    | some next =>
      rcases onward?_endedOr t h with same | ⟨lull, rfl⟩
      · obtain ⟨m, m', hm, hm', alike⟩ := ih next
        refine ⟨m, m' + 1, hm, by omega, ?_⟩
        simpa only [run_succ _ m', same] using alike
      · have stops : (run (.endedOr i t) k (s.tick (.ended [i]) t)).1 = s.tick (.ended [i]) t := by
          cases k with
          | zero => rfl
          | succ k => simp [run, Goal.isReached, lull.tick_world]
        refine ⟨n + 1, n + 1, by omega, by omega, ?_⟩
        simp only [stops]
        rw [run_succ, run_succ, lull.tick_onward?, lull.tick_done, lull.next_done]
        cases s.onward? (.ended [i]) with
        | none => exact .inr ⟨rfl, rfl, t, lull.tick_world⟩
        | some next => exact .inl rfl

def Finishes (s : Simulation) (i : Nat) (last : Simulation) : Prop :=
  ∃ n, run (.ended [i]) n s = (last, true)

theorem SameEnd.finished {a b : Simulation × Bool} (h : SameEnd a b) :
    a = (last, true) ↔ b = (last, true) := by
  rcases h with rfl | ⟨ha, hb, -⟩
  · rfl
  · obtain ⟨a, reached⟩ := a
    obtain ⟨b, reached'⟩ := b
    simp_all

theorem SameEnd.world {a b : Simulation × Bool} (h : SameEnd a b) :
    ∃ now, a.1.world = { b.1.world with now := now } := by
  rcases h with rfl | ⟨-, -, same⟩
  · exact ⟨a.1.world.now, rfl⟩
  · exact same

theorem finishes_resumed (t k : Nat) :
    (run (.endedOr i t) k s).1.Finishes i last ↔ s.Finishes i last := by
  constructor
  · rintro ⟨n, reached⟩
    obtain ⟨m, m', hm, -, alike⟩ := run_resumes (i := i) t k n s
    exact ⟨m', alike.finished.mp (run_of_done reached hm)⟩
  · rintro ⟨n, reached⟩
    obtain ⟨m, m', -, hm', alike⟩ := run_resumes (i := i) t k n s
    exact ⟨m, alike.finished.mpr (run_of_done reached hm')⟩

theorem Finishes.ended (h : s.Finishes i last) : last.hasEnded i = true := by
  obtain ⟨n, reached⟩ := h
  induction n generalizing s with
  | zero => simp [run] at reached
  | succ n ih =>
    rw [run_succ] at reached
    cases ho : s.onward? (.ended [i]) with
    | none =>
      obtain ⟨rfl, done⟩ : s = last ∧ s.isDone (.ended [i]) = true := by simpa [ho] using reached
      simp_all [isDone, Goal.isReached, Goal.hasEnded]
    | some next => exact ih (by simpa [ho] using reached)

end Simulation

end OutcomeRelay
