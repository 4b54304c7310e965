import OutcomeRelay.Proofs.AnyAnswer

set_option autoImplicit false

namespace OutcomeRelay

namespace World

variable {w : World} {i : Nat} {task : Task}

theorem noteCall_journal (w : World) (i : Nat) :
    (w.noteCall i).journal = ((w.tasks[i]?).bind (w.entry? i)).toList ++ w.journal := by
  unfold noteCall
  split <;> simp_all

theorem noteCall_entry (w : World) (i j : Nat) (task : Task) :
    World.entry? (w.noteCall i) j task = w.entry? j task := by
  unfold noteCall
  split <;> rfl

theorem task_of_entry {entry : JournalEntry} (h : w.entry? i task = some entry) :
    entry.task = i := by
  unfold entry? at h
  split at h
  · cases h
    rfl
  · cases h
    rfl
  · simp at h

theorem putLent_journal (lent : Option (String × Handle)) :
    (w.putLent lent).journal = w.journal := by
  cases lent <;> rfl

theorem signal_journal {service : Service} {s : Signal} (ht : w.tasks[i]? = some task)
    (hs : w.service? task = some service) :
    (w.signal i task s).journal = (World.entry? (w.signal i task s) i
      (w.moved task (move service task s).activity)).toList ++ w.journal := by
  have here : i < w.tasks.length := (List.getElem?_eq_some_iff.mp ht).1
  rw [signal_eq hs, noteCall_journal, noteCall_entry]
  simp [here, setTask, putLent_journal, setPool]

theorem addTask_journal (w : World) (task : Task) :
    (w.addTask task).journal = (World.entry? (w.addTask task) w.tasks.length
      (w.moved task task.activity)).toList ++ w.journal := by
  simp [addTask, noteCall_journal, noteCall_entry]

theorem applyTask_cases (ht : w.tasks[i]? = some task) {event : Event}
    (he : eventTask? event = some i) :
    (∃ s, task.hears? (w.demand task) event = some s ∧
      w.applyTask i task event = w.signal i task s) ∨
    (task.hears? (w.demand task) event = none ∧
      (w.applyTask i task event).journal = w.journal) := by
  have touches := applyTask_touches ht he
  generalize w.applyTask i task event = next at touches
  cases touches with
  | told heard => exact .inl ⟨_, heard, rfl⟩
  | flagged new cluster same cancelled answer unheard calm => exact .inr ⟨unheard, rfl⟩
  | crashed hd panics =>
    subst panics
    exact .inr ⟨rfl, rfl⟩

theorem answerTask_journal (w : World) (i : Nat) (task : Task) (reply : Reply) :
    (w.answerTask i task reply).journal = w.journal := by
  unfold answerTask
  split
  · rfl
  · split <;> rfl

theorem undergo_of_hears {o : Occurrence} {s : Signal} (ht : w.tasks[i]? = some task)
    (heard : w.hears? o i = some s) : w.undergo o = w.signal i task s := by
  cases o with
  | answer index reply => simp [hears?] at heard
  | event event =>
    simp only [hears?, ht, Option.bind_some] at heard
    split at heard
    · rename_i he
      simp only [undergo, apply, he, ht]
      rcases applyTask_cases ht he with ⟨s', hs', told⟩ | ⟨silent, -⟩
      · obtain rfl : s' = s := Option.some.inj (hs'.symm.trans heard)
        exact told
      · simp [silent] at heard
    · simp at heard

theorem Begins.journal {base : World} {activity : Activity} {note : Option Note}
    (h : w.Begins base activity note) : base.journal = w.journal := by
  cases h <;> rfl

/-- Whatever happens, the journal stays as it is, or a new task or a task that has heard something
makes a call. -/
theorem undergo_journal (w : World) (o : Occurrence) :
    (w.undergo o).journal = w.journal ∨
    (∃ new, (w.undergo o).journal =
      (World.entry? (w.undergo o) w.tasks.length new).toList ++ w.journal) ∨
    ∃ i task service s, w.hears? o i = some s ∧ w.tasks[i]? = some task ∧
      w.service? task = some service ∧
      (w.undergo o).journal = (World.entry? (w.undergo o) i
        (w.moved task (move service task s).activity)).toList ++ w.journal := by
  cases o with
  | answer index reply =>
    refine .inl ?_
    simp only [undergo]
    split
    · rfl
    · exact w.answerTask_journal _ _ _
  | event event =>
    simp only [undergo]
    cases he : eventTask? event with
    | none =>
      rcases w.apply_tasks_cases he with ⟨-, same⟩ | ⟨base, task, note, added, begins, -⟩
      · exact .inl same
      · refine .inr (.inl ⟨base.moved task task.activity, ?_⟩)
        rw [added, addTask_journal, begins.journal, begins.tasks]
    | some i =>
      cases ht : w.tasks[i]? with
      | none => exact .inl (by simp [apply, he, ht])
      | some task =>
        have applied : w.apply event = w.applyTask i task event := by simp [apply, he, ht]
        rcases applyTask_cases ht he with ⟨s, heard, told⟩ | ⟨-, same⟩
        · rw [applied, told]
          cases hs : w.service? task with
          | none => exact .inl (by rw [signal_of_no_service hs])
          | some service =>
            refine .inr (.inr ⟨i, task, service, s, ?_, ht, hs, signal_journal ht hs⟩)
            simp [hears?, he, ht, heard]
        · exact .inl (applied ▸ same)

end World

end OutcomeRelay
