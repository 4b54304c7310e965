import OutcomeRelay.Proofs.ClientRun

set_option autoImplicit false

namespace OutcomeRelay

open Simulation (run)

/-- It neither is still to begin its work nor does it by its own polls. -/
def Stage.isPassive : Stage → Bool
  | .joining _ => true
  | .resolved _ => true
  | .dropped => true
  | _ => false

namespace Client

def Happening.refersTo (b : Nat) : Happening → Bool
  | .calls call => call.work.reads b
  | _ => false

/-- Clients that differ only in one future that waits for a task or no longer does, and in the
buffer that it refers to. No future that has yet to begin reads a buffer that differs. -/
structure Alike (f : Nat) (call : Call) (a b : Client) : Prop where
  simulation : a.simulation = b.simulation
  tokens : a.tokens = b.tokens
  clones : a.clones = b.clones
  length : a.futures.length = b.futures.length
  others : ∀ g, f ≠ g → a.futures[g]? = b.futures[g]?
  left : ∃ stage, a.futures[f]? = some ⟨call, stage⟩ ∧ stage.isPassive = true
  right : ∃ stage, b.futures[f]? = some ⟨call, stage⟩ ∧ stage.isPassive = true
  buffers : ∀ k, call.work.reads k = false → a.buffers k = b.buffers k
  unread : ∀ (g : Nat) (own : Call), a.futures[g]? = some ⟨own, .unpolled⟩ →
    ∀ k, own.work.reads k = true → a.buffers k = b.buffers k

variable {a b : Client} {f g : Nat} {call own : Call} {stage : Stage}

theorem setStage_ne (c : Client) (other : f ≠ g) :
    (c.setStage f stage).futures[g]? = c.futures[g]? := by
  simp [setStage, other]

theorem setStage_self {c : Client} {future : Future} (hf : c.futures[f]? = some future) :
    (c.setStage f stage).futures[f]? = some { future with stage := stage } := by
  simp [setStage, hf]

theorem ne_of_isPassive {c : Client} (hf : c.futures[f]? = some ⟨call, stage⟩)
    (passive : stage.isPassive = true) (hg : c.futures[g]? = some ⟨own, .unpolled⟩) : f ≠ g := by
  rintro rfl
  obtain ⟨-, rfl⟩ := Future.mk.inj (Option.some.inj (hf.symm.trans hg))
  simp [Stage.isPassive] at passive

namespace Alike

theorem ne_of_unpolled (h : a.Alike f call b) (hg : a.futures[g]? = some ⟨own, .unpolled⟩) :
    f ≠ g :=
  let ⟨_, hf, passive⟩ := h.left
  ne_of_isPassive hf passive hg

theorem refl {c : Client} (hf : c.futures[f]? = some ⟨call, stage⟩)
    (passive : stage.isPassive = true) : c.Alike f call c where
  simulation := rfl
  tokens := rfl
  clones := rfl
  length := rfl
  others _ _ := rfl
  left := ⟨stage, hf, passive⟩
  right := ⟨stage, hf, passive⟩
  buffers _ _ := rfl
  unread _ _ _ _ _ := rfl

theorem symm (h : a.Alike f call b) : b.Alike f call a where
  simulation := h.simulation.symm
  tokens := h.tokens.symm
  clones := h.clones.symm
  length := h.length.symm
  others g other := (h.others g other).symm
  left := h.right
  right := h.left
  buffers k unread := (h.buffers k unread).symm
  unread g own hg k reads := by
    obtain ⟨stage, hf, passive⟩ := h.right
    have other := ne_of_isPassive hf passive hg
    exact (h.unread g own ((h.others g other).trans hg) k reads).symm

theorem world (h : a.Alike f call b) : a.world = b.world := congrArg Simulation.world h.simulation

theorem advance (h : a.Alike f call b) (s : Simulation) :
    { a with simulation := s }.Alike f call { b with simulation := s } :=
  { h with simulation := rfl }

theorem setStage_left (h : a.Alike f call b) (passive : stage.isPassive = true) :
    (a.setStage f stage).Alike f call b := by
  obtain ⟨old, hf, -⟩ := h.left
  have here : (a.setStage f stage).futures[f]? = some ⟨call, stage⟩ := setStage_self hf
  refine { h with length := ?_, others := ?_, left := ⟨stage, here, passive⟩, unread := ?_ }
  · simpa [setStage] using h.length
  · intro g other
    exact (a.setStage_ne other).trans (h.others g other)
  · intro g own hg
    have other := ne_of_isPassive here passive hg
    exact h.unread g own ((a.setStage_ne other).symm.trans hg)

theorem settle_left (h : a.Alike f call b) : (a.settle f).Alike f call b := by
  unfold settle
  split
  · exact h
  · split
    · exact h
    · exact h.setStage_left rfl

theorem poll_left (h : a.Alike f call b) : (a.poll f).Alike f call b := by
  unfold poll
  split
  · rename_i begins
    exact absurd rfl (h.ne_of_unpolled begins)
  · exact h.settle_left

theorem drop_left (h : a.Alike f call b) : (a.drop f).Alike f call b := by
  obtain ⟨stage, hf, passive⟩ := h.left
  cases stage with
  | joining => simpa only [drop, hf] using h.setStage_left rfl
  | resolved | dropped => simpa only [drop, hf] using h
  | unpolled | driving => simp [Stage.isPassive] at passive

theorem both {act : Client → Client}
    (acts : ∀ {a b : Client}, a.Alike f call b → (act a).Alike f call b) (h : a.Alike f call b) :
    (act a).Alike f call (act b) :=
  (acts (acts h).symm).symm

theorem setStage_other (h : a.Alike f call b) (other : f ≠ g) (begun : stage ≠ .unpolled) :
    (a.setStage g stage).Alike f call (b.setStage g stage) := by
  refine { h with length := ?_, others := ?_, left := ?_, right := ?_, unread := ?_ }
  · simpa [setStage] using h.length
  · intro k distinct
    simp only [setStage, List.getElem?_modify, h.others k distinct]
  · simpa only [a.setStage_ne other.symm] using h.left
  · simpa only [b.setStage_ne other.symm] using h.right
  · intro k own hk
    have apart : g ≠ k := by
      rintro rfl
      simp only [setStage, List.getElem?_modify_eq] at hk
      obtain ⟨old, -, new⟩ := Option.map_eq_some_iff.mp hk
      exact begun (congrArg Future.stage new)
    exact h.unread k own ((a.setStage_ne apart).symm.trans hk)

theorem settle_other (h : a.Alike f call b) (other : f ≠ g) :
    (a.settle g).Alike f call (b.settle g) := by
  simp only [settle, h.others g other, h.world]
  split
  · exact h
  · split
    · exact h
    · exact h.setStage_other other (by simp)

theorem started_eq (h : a.Alike f call b) (hg : a.futures[g]? = some ⟨own, .unpolled⟩) :
    a.started own = b.started own := by
  have same : own.work.job a.buffers = own.work.job b.buffers := by
    have read := h.unread g own hg
    cases hw : own.work with
    | publishFrom k => simp only [Work.job, read k (by simp [hw, Work.reads])]
    | direct job => rfl
  simp only [started, same, h.simulation, h.tokens]

theorem begin_other (h : a.Alike f call b) (other : f ≠ g)
    (hg : a.futures[g]? = some ⟨own, .unpolled⟩) :
    (a.begin g own).Alike f call (b.begin g own) := by
  have begun (s : Simulation) :
      { a with
        simulation := s, clones := (own.token, b.world.tasks.length) :: b.clones }.Alike f call
      { b with
        simulation := s, clones := (own.token, b.world.tasks.length) :: b.clones } :=
    { h with simulation := rfl, clones := rfl }
  simp only [begin, h.started_eq hg, h.world, h.clones]
  split
  · split
    · exact (begun _).setStage_other other (by simp)
    · exact (begun _).setStage_other other (by simp)
  · exact h

theorem poll_other (h : a.Alike f call b) (other : f ≠ g) :
    (a.poll g).Alike f call (b.poll g) := by
  simp only [poll, ← h.others g other]
  split
  · rename_i hg
    exact (h.begin_other other hg).settle_other other
  · exact h.settle_other other

theorem drop_other (h : a.Alike f call b) (other : f ≠ g) :
    (a.drop g).Alike f call (b.drop g) := by
  simp only [drop, ← h.others g other, h.simulation]
  split
  · split
    · exact h.setStage_other other (by simp)
    · exact (h.advance _).setStage_other other (by simp)
  · exact h.setStage_other other (by simp)
  · exact (h.advance _).setStage_other other (by simp)
  · exact h

theorem calls (h : a.Alike f call b)
    (apart : ∀ k, call.work.reads k = true → own.work.reads k = false) :
    (a.call own).Alike f call (b.call own) := by
  have inside : f < a.futures.length := by
    obtain ⟨stage, hf, -⟩ := h.left
    exact (List.getElem?_eq_some_iff.mp hf).1
  refine { h with length := ?_, others := ?_, left := ?_, right := ?_, unread := ?_ }
  · simp [Client.call, h.length]
  · intro g other
    simp only [Client.call, List.getElem?_append, h.length, h.others g other]
  · simpa only [Client.call, List.getElem?_append_left inside] using h.left
  · simpa only [Client.call, List.getElem?_append_left (h.length ▸ inside)] using h.right
  · intro g other hg k reads
    simp only [Client.call, List.getElem?_append] at hg
    split at hg
    · exact h.unread g other hg k reads
    · obtain new := List.mem_singleton.mp (List.mem_of_getElem? hg)
      obtain ⟨rfl, -⟩ := Future.mk.inj new
      refine h.buffers k ?_
      cases mine : call.work.reads k with
      | false => rfl
      | true => exact absurd reads (by simp [apart k mine])

theorem any_borrows (h : a.Alike f call b) {k : Nat} (unread : call.work.reads k = false) :
    a.futures.any (·.borrows k) = b.futures.any (·.borrows k) := by
  have forth {a b : Client} (h : a.Alike f call b)
      (borrowed : a.futures.any (·.borrows k) = true) : b.futures.any (·.borrows k) = true := by
    obtain ⟨future, member, borrows⟩ := List.any_eq_true.mp borrowed
    obtain ⟨g, hg⟩ := List.mem_iff_getElem?.mp member
    have other : f ≠ g := by
      rintro rfl
      obtain ⟨stage, hf, -⟩ := h.left
      obtain rfl := Option.some.inj (hf.symm.trans hg)
      simp [Future.borrows, unread] at borrows
    have kept := (h.others g other).symm.trans hg
    exact List.any_eq_true.mpr ⟨future, List.mem_of_getElem? kept, borrows⟩
  exact Bool.eq_iff_iff.mpr ⟨forth h, forth h.symm⟩

theorem write_eq (c : Client) (k : Nat) (buffer : Buffer) : c.write k buffer =
    { c with buffers := fun j =>
        if j = k ∧ c.futures.any (·.borrows k) = false then buffer else c.buffers j } := by
  simp only [Client.write]
  cases c.futures.any (·.borrows k) <;> simp

theorem write (h : a.Alike f call b) (k : Nat) (buffer : Buffer) :
    (a.write k buffer).Alike f call (b.write k buffer) := by
  rw [write_eq, write_eq]
  refine { h with buffers := fun j unread => ?_, unread := fun g own hg j reads => ?_ }
  · by_cases here : j = k
    · subst here
      simp only [h.any_borrows unread, h.buffers j unread]
    · simp only [here, false_and, ↓reduceIte, h.buffers j unread]
  · by_cases here : j = k
    · subst here
      -- Whoever is still to read the buffer keeps it from being written to.
      have borrowed {c : Client} (hg : c.futures[g]? = some ⟨own, .unpolled⟩) :
          c.futures.any (·.borrows j) = true :=
        List.any_eq_true.mpr
          ⟨_, List.mem_of_getElem? hg, by simp [Future.borrows, reads, Stage.isLive]⟩
      have hg' := (h.others g (h.ne_of_unpolled hg)).symm.trans hg
      simp only [borrowed hg, borrowed hg', h.unread g own hg j reads]
    · simp only [here, false_and, ↓reduceIte, h.unread g own hg j reads]

theorem cancel (h : a.Alike f call b) (token : Nat) :
    (a.cancel token).Alike f call (b.cancel token) := by
  simp only [Client.cancel, h.simulation, h.tokens, h.clones]
  exact { h with simulation := rfl, tokens := rfl, clones := rfl }

theorem happen (h : a.Alike f call b) (happening : Happening)
    (apart : ∀ k, call.work.reads k = true → happening.refersTo k = false) :
    (a.happen happening).Alike f call (b.happen happening) := by
  cases happening with
  | occurs o =>
    simp only [Client.happen, h.simulation]
    exact h.advance _
  | runs goal fuel =>
    simp only [Client.happen, h.simulation]
    exact h.advance _
  | calls own => exact h.calls apart
  | polls g =>
    by_cases same : f = g
    · exact same ▸ h.both poll_left
    · exact h.poll_other same
  | drops g =>
    by_cases same : f = g
    · exact same ▸ h.both drop_left
    · exact h.drop_other same
  | writes k buffer => exact h.write k buffer
  | cancels token => exact h.cancel token

theorem follow (h : a.Alike f call b) {later : List Happening}
    (apart : ∀ happening ∈ later, ∀ k, call.work.reads k = true → happening.refersTo k = false) :
    (a.follow later).Alike f call (b.follow later) := by
  induction later generalizing a b with
  | nil => exact h
  | cons happening later ih =>
    exact ih (h.happen happening (apart happening List.mem_cons_self)) fun other mem =>
      apart other (List.mem_cons_of_mem _ mem)

end Alike

theorem Sound.isPassive {c : Client} (h : c.Sound) (hf : c.futures[f]? = some ⟨call, stage⟩)
    (spawns : call.work.spawns = true) (polled : stage ≠ .unpolled) : stage.isPassive = true := by
  cases stage with
  | joining | resolved | dropped => rfl
  | unpolled => exact absurd rfl polled
  | driving n =>
    have driven := (h.suits f _ hf).1
    simp [spawns] at driven

end Client

namespace ClientRun

variable (r : ClientRun) {f n : Nat} {call : Client.Call} {stage : Stage}

theorem finishes_spawned (hf : r.client.futures[f]? = some ⟨call, .joining n⟩)
    {last : Simulation} (finishes : r.client.simulation.Finishes n last) :
    (∃ outcome, last.world.outcome? n = some outcome ∧ ((∃ result, outcome = .published result) ∨
        (∃ error, outcome = .rejected error) ∨ ∃ text, outcome = .crashed text)) ∧
      last.world.AllReady := by
  obtain ⟨fuel, reached⟩ := finishes
  obtain ⟨later, world⟩ := r.client.simulation.run_follows (.ended [n]) fuel
  rw [reached] at world
  obtain ⟨-, task, ht, spawned⟩ := r.sound.suits f _ hf
  obtain ⟨new, hn, spawned⟩ := r.sound.regular.follow_spawned ht spawned later
  have there : last.world.tasks[n]? = some new := world ▸ hn
  have ended := Simulation.Finishes.ended ⟨fuel, reached⟩
  simp only [Simulation.hasEnded, there] at ended
  obtain ⟨outcome, ho⟩ := Option.isSome_iff_exists.mp ended
  refine ⟨⟨outcome, by simp [World.outcome?, there, ho], spawned.outcome ho⟩, ?_⟩
  rw [show last.world = _ from world]
  exact r.sound.ready.follow later

/-- Nothing is noticed of a publish whose future is dropped once it has been polled. Whatever
happens then, all goes on as if the future were awaited, provided that no other publish is called
from the buffer of this one. By the clock and a script, wherever its caller stops waiting, the task
finishes when and as it does with the caller waiting, and finishes by itself; all idle producers
are ready then. A run that never gets there is the same as long as it goes on. -/
theorem drop_unnoticed (hf : r.client.futures[f]? = some ⟨call, stage⟩)
    (publishes : call.work.spawns = true) (polled : stage ≠ .unpolled) :
    (∀ later, (∀ happening ∈ later, ∀ b, call.work.reads b = true → happening.refersTo b = false) →
      ((r.client.drop f).follow later).simulation = (r.client.follow later).simulation) ∧
    ∀ n, stage = .joining n → ∀ (t k : Nat),
      let kept := r.client.simulation
      let gone := ((r.client.happen (.runs (.endedOr n t) k)).drop f).simulation
      (∀ m, ∃ m₁ m₂ now, m ≤ m₁ ∧ m ≤ m₂ ∧ (run (.ended [n]) m₁ gone).1.world =
        { (run (.ended [n]) m₂ kept).1.world with now := now }) ∧
      (∀ last, gone.Finishes n last ↔ kept.Finishes n last) ∧
      ∀ last, gone.Finishes n last →
        (∃ outcome, last.world.outcome? n = some outcome ∧
          ((∃ result, outcome = .published result) ∨ (∃ error, outcome = .rejected error) ∨
            ∃ text, outcome = .crashed text)) ∧
        ∀ service ∈ last.world.services, ∀ handle ∈ service.pool.idle, handle.status = .ready := by
  have passive := r.sound.isPassive hf publishes polled
  refine ⟨fun later apart => ?_, ?_⟩
  · exact ((Client.Alike.refl hf passive).drop_left.follow apart).simulation
  rintro n rfl t k kept gone
  have stopped : gone = (run (.endedOr n t) k kept).1 := by
    simp only [gone, Client.drop, Client.happen, hf]
    rfl
  have finishes (last) : gone.Finishes n last ↔ kept.Finishes n last := by
    rw [stopped]
    exact Simulation.finishes_resumed t k
  refine ⟨fun m => ?_, finishes, fun last ends => r.finishes_spawned hf ((finishes last).mp ends)⟩
  obtain ⟨m₁, m₂, h₁, h₂, alike⟩ := Simulation.run_resumes (i := n) t k m kept
  obtain ⟨now, same⟩ := alike.world
  exact ⟨m₁, m₂, now, h₁, h₂, stopped ▸ same⟩

/-- A publish whose transaction begins slowly: the begin takes effect after three milliseconds and
is answered four later, and the commit takes two. -/
def slowPublish : ClientRun where
  partitions := 1
  services := (Run.hasty 1 []).services
  script := { plans := [(.operation .begin, { before := 3, after := 4 }),
    (.operation .commit, { before := 2 })] }
  happenings := [.writes 0 ⟨"results", ⟨#[1]⟩⟩, .calls ⟨0, .publishFrom 0, 0⟩, .polls 0]
  fresh := (Run.hasty 1 []).fresh

/-- The future is dropped after five milliseconds. -/
def slowPublishDropped : Client :=
  (slowPublish.client.happen (.runs (.endedOr 0 5) 40)).drop 0

/-- What happens next: five milliseconds pass, the buffer is written to, and the publish ends. -/
def reuse : List Client.Happening :=
  [.runs (.endedOr 0 5) 40, .writes 0 ⟨"results", ⟨#[2]⟩⟩, .runs (.ended [0]) 40]

theorem slowPublish_unnoticed :
    (((slowPublish.client.drop 0).follow reuse).simulation =
        (slowPublish.client.follow reuse).simulation ∧
      (((slowPublish.client.drop 0).follow reuse).buffers 0).payload = ⟨#[2]⟩ ∧
      (((slowPublish.client.drop 0).follow reuse).world.cluster.broker.topics.records
        "results").map StoredRecord.payload = [⟨#[1]⟩]) ∧
    slowPublishDropped.world.now = 5 ∧ slowPublishDropped.world.outcome? 0 = none ∧
    ∃ last, slowPublishDropped.simulation.Finishes 0 last ∧
      slowPublish.client.simulation.Finishes 0 last ∧ last.world.now = 9 ∧
      last.world.outcome? 0 = some (.published (.ok ())) := by
  have begun : slowPublish.client.futures[0]? = some ⟨⟨0, .publishFrom 0, 0⟩, .joining 0⟩ := rfl
  obtain ⟨anyhow, byClock⟩ := slowPublish.drop_unnoticed begun rfl (by simp)
  obtain ⟨-, same, -⟩ := byClock 0 rfl 5 40
  have reached : (run (.ended [0]) 40 slowPublishDropped.simulation).2 = true := by decide +kernel
  have now : (run (.ended [0]) 40 slowPublishDropped.simulation).1.world.now = 9 := by
    decide +kernel
  have outcome : (run (.ended [0]) 40 slowPublishDropped.simulation).1.world.outcome? 0 =
      some (.published (.ok ())) := by decide +kernel
  generalize hl : run (.ended [0]) 40 slowPublishDropped.simulation = last at reached now outcome
  have ends : slowPublishDropped.simulation.Finishes 0 last.1 :=
    ⟨40, hl.trans (Prod.ext rfl reached)⟩
  exact ⟨⟨anyhow reuse (by simp [reuse, Client.Happening.refersTo]), by decide +kernel,
    by decide +kernel⟩, by decide +kernel, by decide +kernel, last.1, ends, (same _).mp ends, now,
    outcome⟩

/-- A future that runs its task by its own polls takes the task with it. -/
theorem drop_ends (hf : r.client.futures[f]? = some ⟨call, .driving n⟩)
    (going : r.client.world.outcome? n = none) (later : List Client.Happening) :
    ((r.client.drop f).follow later).world.outcome? n = some .dropped := by
  have known := (r.sound.suits f _ hf).2
  obtain ⟨task, ht⟩ : ∃ task, r.client.world.tasks[n]? = some task :=
    ⟨_, List.getElem?_eq_getElem known⟩
  have busy : task.activity.outcome? = none := by simpa [World.outcome?, ht] using going
  have quits : (r.client.drop f).world = r.client.world.quit n := by
    simp only [Client.drop, hf]
    exact Simulation.arm_world n
  have here : (r.client.drop f).world.tasks[n]? =
      some (r.client.world.moved task (.ended .dropped)) := by
    rw [quits, World.quit_tasks ht busy, List.getElem?_set_self known]
  obtain ⟨new, hn, ended⟩ := (r.sound.drop f).follow_ended here rfl later
  simp [World.outcome?, hn, ended, Activity.outcome?]

/-- A borrow is dropped while its session is being opened. The session stays open, and nobody has
it. -/
example :
    let r : ClientRun := { slowPublish with
      script := { plans := [(.connect, { after := 4 })] }
      happenings := [.calls ⟨0, .direct (.borrow "a"), 0⟩, .polls 0] }
    let last := (r.client.drop 0).follow [.runs (.clock 10) 40]
    last.world.cluster.openSessions = 1 ∧ last.world.handles = [] ∧
      last.world.outcome? 0 = some .dropped := by
  decide +kernel

end ClientRun

end OutcomeRelay
