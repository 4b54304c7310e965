import Mathlib.Data.List.Basic
import OutcomeRelay.Broker.Cluster

set_option autoImplicit false

namespace OutcomeRelay

def StoredRecord.content (r : StoredRecord) : String × ByteArray := (r.producer, r.payload)

theorem flatten_modify_perm {α : Type} (l : List (List α)) (i : Nat) (f : List α → α)
    (hi : i < l.length) :
    ((l.modify i fun x => x ++ [f x]).flatten).Perm (l.flatten ++ [f l[i]]) := by
  induction l generalizing i with
  | nil => simp at hi
  | cons x l ih =>
    cases i with
    | zero =>
      simp only [List.modify_zero_cons, List.flatten_cons, List.append_assoc,
        List.getElem_cons_zero]
      exact List.perm_append_comm.append_left x
    | succ i =>
      simp only [List.modify_succ_cons, List.flatten_cons, List.append_assoc,
        List.getElem_cons_succ]
      exact (ih i (by simpa using hi)).append_left x

namespace TopicLog

def InBounds (log : TopicLog) : Prop := log.cursor < log.partitions.length

theorem empty_inBounds {partitions : Nat} (h : 0 < partitions) : (empty partitions).InBounds := by
  simpa [InBounds, empty] using h

theorem append_inBounds {log : TopicLog} (h : log.InBounds) (producer : String)
    (payload : ByteArray) : (log.append producer payload).InBounds := by
  simp only [InBounds, append, List.length_modify]
  exact Nat.mod_lt _ (Nat.zero_lt_of_lt h)

theorem append_content {log : TopicLog} (h : log.InBounds) (producer : String)
    (payload : ByteArray) :
    ((log.append producer payload).records.map StoredRecord.content).Perm
      (log.records.map StoredRecord.content ++ [(producer, payload)]) := by
  have perm := (flatten_modify_perm log.partitions log.cursor
    (fun entries => ⟨log.cursor, entries.length, producer, payload⟩) h).map StoredRecord.content
  rw [List.map_append] at perm
  exact perm

end TopicLog

namespace Topics

theorem lookup_putLog (logs : List (String × TopicLog)) (topic name : String) (log : TopicLog) :
    (putLog logs topic log).lookup name = if name = topic then some log else logs.lookup name := by
  induction logs with
  | nil =>
    by_cases h : name = topic
    · simp [putLog, h]
    · simp [putLog, List.lookup_cons, h, beq_eq_false_iff_ne.mpr h]
  | cons entry logs ih =>
    obtain ⟨other, old⟩ := entry
    by_cases ho : other = topic
    · subst other
      by_cases h : name = topic
      · simp [putLog, h]
      · simp [putLog, List.lookup_cons, h, beq_eq_false_iff_ne.mpr h]
    · by_cases h : name = other
      · subst name
        simp [putLog, ho]
      · simp only [putLog, ho, ↓reduceIte, List.lookup_cons, beq_eq_false_iff_ne.mpr h, ih]

def InBounds (t : Topics) : Prop := ∀ topic, (t.log topic).InBounds

theorem log_append (t : Topics) (producer topic name : String) (payload : ByteArray) :
    (t.append producer topic payload).log name =
      if name = topic then (t.log topic).append producer payload else t.log name := by
  unfold log append
  rw [lookup_putLog]
  split <;> rfl

theorem empty_inBounds (partitions : Nat) : (empty partitions).InBounds := fun _ =>
  TopicLog.empty_inBounds (show 0 < max partitions 1 by omega)

theorem append_inBounds {t : Topics} (h : t.InBounds) (producer topic : String)
    (payload : ByteArray) : (t.append producer topic payload).InBounds := by
  intro name
  rw [log_append]
  split
  · exact TopicLog.append_inBounds (h topic) producer payload
  · exact h name

theorem append_records {t : Topics} (h : t.InBounds) (producer topic name : String)
    (payload : ByteArray) :
    (((t.append producer topic payload).records name).map StoredRecord.content).Perm
      ((t.records name).map StoredRecord.content ++
        if topic = name then [(producer, payload)] else []) := by
  unfold records
  rw [log_append]
  by_cases same : name = topic
  · subst name
    simpa using TopicLog.append_content (h topic) producer payload
  · simp [same, Ne.symm same]

theorem appendAll_inBounds {t : Topics} (h : t.InBounds) (producer : String)
    (buffer : List (String × ByteArray)) : (t.appendAll producer buffer).InBounds := by
  induction buffer generalizing t with
  | nil => exact h
  | cons entry buffer ih => exact ih (append_inBounds h producer entry.1 entry.2)

/-- A commit adds its records for a topic to that topic and nothing else. -/
theorem appendAll_records {t : Topics} (h : t.InBounds) (producer name : String)
    (buffer : List (String × ByteArray)) :
    (((t.appendAll producer buffer).records name).map StoredRecord.content).Perm
      ((t.records name).map StoredRecord.content ++
        (buffer.filter (·.1 = name)).map fun entry => (producer, entry.2)) := by
  induction buffer generalizing t with
  | nil => simp [appendAll]
  | cons entry buffer ih =>
    have head := append_records h producer entry.1 name entry.2
    have tail := ih (append_inBounds h producer entry.1 entry.2)
    refine tail.trans ((head.append_right _).trans ?_)
    by_cases same : entry.1 = name <;> simp [same]

end Topics

end OutcomeRelay
