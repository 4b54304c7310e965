import Mathlib.Data.List.Nodup
import OutcomeRelay.Proofs.Transcript

set_option autoImplicit false

namespace OutcomeRelay

namespace StoredRecord

/-- Record number `i` of a topic with so many partitions, counted from zero. -/
def dealt (count i : Nat) (content : String × ByteArray) : StoredRecord :=
  ⟨i % count, i / count, content.1, content.2⟩

def Precedes (a b : StoredRecord) : Prop :=
  a.partition < b.partition ∨ a.partition = b.partition ∧ a.offset < b.offset

def placeLE (a b : StoredRecord) : Bool :=
  a.partition < b.partition || (a.partition == b.partition && a.offset ≤ b.offset)

theorem Precedes.placeLE {a b : StoredRecord} (h : a.Precedes b) : a.placeLE b = true := by
  simp only [Precedes, StoredRecord.placeLE, Bool.or_eq_true, Bool.and_eq_true, decide_eq_true_eq,
    beq_iff_eq] at *
  omega

theorem Precedes.ne {a b : StoredRecord} (h : a.Precedes b) : a ≠ b := by
  rintro rfl
  simp [Precedes] at h

theorem dealt_eq {count p : Nat} (hp : p < count) (o : Nat) (content : String × ByteArray) :
    dealt count (o * count + p) content = ⟨p, o, content.1, content.2⟩ := by
  have offset : (o * count + p) / count = o := by
    rw [Nat.mul_comm, Nat.mul_add_div (Nat.zero_lt_of_lt hp), Nat.div_eq_of_lt hp, Nat.add_zero]
  rw [dealt, offset, Nat.mul_add_mod_of_lt hp]

end StoredRecord

open StoredRecord (dealt Precedes placeLE)

namespace TopicLog

def cell? (log : TopicLog) (partition offset : Nat) : Option StoredRecord :=
  log.partitions[partition]?.bind (·[offset]?)

/-- The contents were dealt out to so many partitions, and it is the turn of the next one. -/
structure Deals (log : TopicLog) (count : Nat) (contents : List (String × ByteArray)) : Prop where
  partitions : log.partitions.length = count
  cursor : log.cursor = contents.length % count
  entries : ∀ p < count, ∀ o,
    log.cell? p o = contents[o * count + p]?.map (dealt count (o * count + p))

variable {log : TopicLog} {count : Nat} {contents : List (String × ByteArray)} {p o : Nat}
  {entries : List StoredRecord}

theorem mem_records {record : StoredRecord} :
    record ∈ log.records ↔ ∃ p o, log.cell? p o = some record := by
  unfold records cell?
  constructor
  · intro mem
    obtain ⟨entries, he, hr⟩ := List.mem_flatten.mp mem
    obtain ⟨p, hp⟩ := List.mem_iff_getElem?.mp he
    obtain ⟨o, ho⟩ := List.mem_iff_getElem?.mp hr
    exact ⟨p, o, Option.bind_eq_some_iff.mpr ⟨entries, hp, ho⟩⟩
  · rintro ⟨p, o, h⟩
    obtain ⟨entries, hp, ho⟩ := Option.bind_eq_some_iff.mp h
    exact List.mem_flatten.mpr ⟨entries, List.mem_of_getElem? hp, List.mem_of_getElem? ho⟩

theorem empty_deals (count : Nat) : (empty count).Deals count [] where
  partitions := by simp [empty]
  cursor := by simp [empty]
  entries p hp o := by simp [empty, cell?, hp]

namespace Deals

theorem bound (h : log.Deals count contents) (he : log.partitions[p]? = some entries) :
    p < count :=
  h.partitions ▸ (List.getElem?_eq_some_iff.mp he).1

theorem exists_partition (h : log.Deals count contents) (hp : p < count) :
    ∃ entries, log.partitions[p]? = some entries :=
  ⟨_, List.getElem?_eq_getElem (h.partitions.symm ▸ hp)⟩

theorem getElem?_eq (h : log.Deals count contents) (he : log.partitions[p]? = some entries)
    (o : Nat) : entries[o]? = contents[o * count + p]?.map (dealt count (o * count + p)) := by
  have entry := h.entries p (h.bound he) o
  simpa [cell?, he] using entry

theorem lt_length_iff (h : log.Deals count contents) (he : log.partitions[p]? = some entries)
    (o : Nat) : o < entries.length ↔ o * count + p < contents.length := by
  rw [← Nat.not_le, ← Nat.not_le, not_iff_not, ← List.getElem?_eq_none_iff,
    ← List.getElem?_eq_none_iff, h.getElem?_eq he, Option.map_eq_none_iff]

theorem length_eq (h : log.Deals count contents) (he : log.partitions[p]? = some entries)
    (next : o * count + p = contents.length) : entries.length = o := by
  refine eq_of_forall_lt_iff fun earlier => ?_
  rw [h.lt_length_iff he, ← next, Nat.add_lt_add_iff_right,
    Nat.mul_lt_mul_right (Nat.zero_lt_of_lt (h.bound he))]

/-- The next record goes to the end of the partition whose turn it is. -/
theorem turn_iff (h : log.Deals count contents) (he : log.partitions[p]? = some entries) (o : Nat) :
    log.cursor = p ∧ entries.length = o ↔ o * count + p = contents.length := by
  rw [h.cursor]
  constructor
  · rintro ⟨rfl, rfl⟩
    rw [h.length_eq he (Nat.div_add_mod' _ _), Nat.div_add_mod']
  · intro next
    refine ⟨?_, h.length_eq he next⟩
    rw [← next, Nat.mul_add_mod_of_lt (h.bound he)]

theorem append (h : log.Deals count contents) (producer : String) (payload : ByteArray) :
    (log.append producer payload).Deals count (contents ++ [(producer, payload)]) where
  partitions := by simpa [TopicLog.append] using h.partitions
  cursor := by simp [TopicLog.append, h.partitions, h.cursor]
  entries p hp o := by
    obtain ⟨entries, he⟩ := h.exists_partition hp
    have now : (log.append producer payload).cell? p o = if log.cursor = p
        then (entries ++ [⟨p, entries.length, producer, payload⟩])[o]? else entries[o]? := by
      by_cases turn : log.cursor = p <;> simp [cell?, TopicLog.append, he, turn]
    rw [now]
    -- Of all places only the one of the next record is filled, whichever partition it is in.
    by_cases next : o * count + p = contents.length
    · obtain ⟨turn, rfl⟩ := (h.turn_iff he o).mpr next
      rw [if_pos turn, List.getElem?_concat_length, next, List.getElem?_concat_length,
        Option.map_some, ← next, StoredRecord.dealt_eq hp]
    · rw [getElem?_concat_ne next, ← h.getElem?_eq he]
      split
      · rename_i turn
        exact getElem?_concat_ne fun last => next ((h.turn_iff he o).mp ⟨turn, last.symm⟩)
      · rfl

variable (h : log.Deals count contents)
include h

theorem cell?_eq_some_iff {record : StoredRecord} :
    log.cell? p o = some record ↔
      p < count ∧ ∃ content, contents[o * count + p]? = some content ∧
        record = dealt count (o * count + p) content := by
  constructor
  · intro stored
    obtain ⟨entries, he, -⟩ := Option.bind_eq_some_iff.mp stored
    rw [h.entries p (h.bound he) o] at stored
    obtain ⟨content, hc, rfl⟩ := Option.map_eq_some_iff.mp stored
    exact ⟨h.bound he, content, hc, rfl⟩
  · rintro ⟨hp, content, hc, rfl⟩
    rw [h.entries p hp o, hc, Option.map_some]

theorem cell?_place {record : StoredRecord} (stored : log.cell? p o = some record) :
    record.partition = p ∧ record.offset = o := by
  obtain ⟨hp, content, -, rfl⟩ := h.cell?_eq_some_iff.mp stored
  rw [StoredRecord.dealt_eq hp]
  exact ⟨rfl, rfl⟩

theorem cell?_dealt (positive : 0 < count) {i : Nat} {content : String × ByteArray}
    (hi : contents[i]? = some content) :
    log.cell? (i % count) (i / count) = some (dealt count i content) := by
  rw [h.entries _ (Nat.mod_lt i positive), Nat.div_add_mod', hi, Option.map_some]

theorem balanced {short long : List StoredRecord} (hs : short ∈ log.partitions)
    (hl : long ∈ log.partitions) : long.length ≤ short.length + 1 := by
  obtain ⟨p, hp⟩ := List.mem_iff_getElem?.mp hs
  obtain ⟨q, hq⟩ := List.mem_iff_getElem?.mp hl
  by_contra ahead
  have last : (short.length + 1) * count + q < contents.length :=
    (h.lt_length_iff hq _).mp (Nat.lt_of_not_le ahead)
  have full : contents.length ≤ short.length * count + p :=
    Nat.le_of_not_lt (mt (h.lt_length_iff hp _).mpr (Nat.lt_irrefl _))
  have bound := h.bound hp
  rw [Nat.succ_mul] at last
  omega

theorem offsets (he : log.partitions[p]? = some entries) :
    entries.map (·.offset) = List.range entries.length := by
  refine List.ext_getElem (by simp) fun o ho _ => ?_
  rw [List.length_map] at ho
  have stored : log.cell? p o = some entries[o] := by simp [cell?, he]
  simpa using (h.cell?_place stored).2

theorem mem_records_iff (positive : 0 < count) {record : StoredRecord} :
    record ∈ log.records ↔ record ∈ contents.mapIdx (dealt count) := by
  rw [mem_records, List.mem_mapIdx]
  constructor
  · rintro ⟨p, o, stored⟩
    obtain ⟨-, content, hc, rfl⟩ := h.cell?_eq_some_iff.mp stored
    obtain ⟨hi, rfl⟩ := List.getElem?_eq_some_iff.mp hc
    exact ⟨_, hi, rfl⟩
  · rintro ⟨i, hi, rfl⟩
    exact ⟨_, _, h.cell?_dealt positive (List.getElem?_eq_getElem hi)⟩

theorem increasing : log.records.Pairwise Precedes := by
  refine List.pairwise_flatten.mpr ⟨fun entries mem => ?_, ?_⟩
  · obtain ⟨p, hp⟩ := List.mem_iff_getElem?.mp mem
    have stored (o : Nat) (ho : o < entries.length) : log.cell? p o = some entries[o] := by
      simp [cell?, hp]
    refine List.pairwise_iff_getElem.mpr fun o o' ho ho' earlier => .inr ?_
    obtain ⟨partition, offset⟩ := h.cell?_place (stored o ho)
    obtain ⟨partition', offset'⟩ := h.cell?_place (stored o' ho')
    exact ⟨partition.trans partition'.symm, by rwa [offset, offset']⟩
  · -- Records of two partitions are in the order of the partitions.
    refine List.pairwise_iff_getElem.mpr fun p p' hp hp' earlier a ha b hb => .inl ?_
    obtain ⟨o, ho⟩ := List.mem_iff_getElem?.mp ha
    obtain ⟨o', ho'⟩ := List.mem_iff_getElem?.mp hb
    have stored : log.cell? p o = some a := by simpa [cell?, hp] using ho
    have stored' : log.cell? p' o' = some b := by simpa [cell?, hp'] using ho'
    rwa [(h.cell?_place stored).1, (h.cell?_place stored').1]

theorem records_perm (positive : 0 < count) : log.records.Perm (contents.mapIdx (dealt count)) := by
  have apart : (contents.mapIdx (dealt count)).Nodup := by
    refine List.pairwise_iff_getElem.mpr fun i j hi hj earlier same => ?_
    have number := congrArg (fun r => r.offset * count + r.partition) same
    simp only [List.getElem_mapIdx, dealt, Nat.div_add_mod'] at number
    exact absurd number (Nat.ne_of_lt earlier)
  have listed : log.records.Nodup := h.increasing.imp Precedes.ne
  exact (List.perm_ext_iff_of_nodup listed apart).mpr fun _ => h.mem_records_iff positive

end Deals

/-- The layout of a topic over its partitions; `contents` is all that has ever been appended to it,
in the order in which it was. -/
structure LaidOut (log : TopicLog) (count : Nat) (contents : List (String × ByteArray)) : Prop where
  placed : ∀ (i : Nat) (h : i < contents.length), log.cell? (i % count) (i / count) =
    some ⟨i % count, i / count, contents[i].1, contents[i].2⟩
  /-- There is nothing else in the partitions. -/
  filled : ∀ (p o : Nat) (record : StoredRecord), log.cell? p o = some record →
    record.partition = p ∧ record.offset = o ∧ p < count ∧ o * count + p < contents.length
  partitions : log.partitions.length = count
  inBounds : log.cursor < log.partitions.length
  balanced : ∀ short ∈ log.partitions, ∀ long ∈ log.partitions, long.length ≤ short.length + 1
  offsets : ∀ entries ∈ log.partitions, entries.map (·.offset) = List.range entries.length
  listed : log.records.Perm (contents.mapIdx (dealt count))
  increasing : log.records.Pairwise Precedes
  /-- Sorting the records by their places changes nothing. -/
  sorted : log.records.mergeSort placeLE = log.records

theorem Deals.laidOut (h : log.Deals count contents) (positive : 0 < count) :
    log.LaidOut count contents where
  placed i hi := h.cell?_dealt positive (List.getElem?_eq_getElem hi)
  filled p o record stored := by
    obtain ⟨hp, content, hc, -⟩ := h.cell?_eq_some_iff.mp stored
    obtain ⟨partition, offset⟩ := h.cell?_place stored
    exact ⟨partition, offset, hp, (List.getElem?_eq_some_iff.mp hc).1⟩
  partitions := h.partitions
  inBounds := by
    rw [h.cursor, h.partitions]
    exact Nat.mod_lt _ positive
  balanced _ hs _ hl := h.balanced hs hl
  offsets entries mem := by
    obtain ⟨p, hp⟩ := List.mem_iff_getElem?.mp mem
    exact h.offsets hp
  listed := h.records_perm positive
  increasing := h.increasing
  sorted := List.mergeSort_of_pairwise (h.increasing.imp Precedes.placeLE)

end TopicLog

namespace Topics

def Deals (t : Topics) (count : Nat) (entries : List Logged) : Prop :=
  ∀ topic, (t.log topic).Deals count
    ((entries.filter (·.sent.topic = topic)).map Logged.content)

theorem empty_deals (partitions : Nat) : (empty partitions).Deals (max partitions 1) [] := fun _ =>
  TopicLog.empty_deals _

variable {t : Topics} {count : Nat} {entries : List Logged}

theorem Deals.append (h : t.Deals count entries) (e : Logged) :
    (t.append e.producer e.sent.topic e.sent.payload).Deals count (entries ++ [e]) := by
  intro topic
  rw [log_append, List.filter_append, List.map_append]
  by_cases own : topic = e.sent.topic
  · subst topic
    simpa [Logged.content] using (h e.sent.topic).append e.producer e.sent.payload
  · simpa [own, Ne.symm own] using h topic

theorem Deals.post (h : t.Deals count entries) (more : List Logged) :
    (t.post more).Deals count (entries ++ more) := by
  induction more generalizing t entries with
  | nil => simpa [Topics.post] using h
  | cons e more ih =>
    have later := ih (h.append e)
    rwa [List.append_assoc] at later

end Topics

end OutcomeRelay
