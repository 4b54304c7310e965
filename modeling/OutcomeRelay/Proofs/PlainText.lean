import Mathlib.Data.List.TakeWhile
import OutcomeRelay.Config

set_option autoImplicit false

namespace OutcomeRelay

namespace Text

theorem trimChars_parts (cs : List Char) : ∃ before after, cs = before ++ trimChars cs ++ after ∧
    (∀ c ∈ before, isBlankChar c = true) ∧ ∀ c ∈ after, isBlankChar c = true := by
  have front := List.takeWhile_append_dropWhile (p := isBlankChar) (l := cs)
  have back := List.takeWhile_append_dropWhile (p := isBlankChar)
    (l := (cs.dropWhile isBlankChar).reverse)
  refine ⟨cs.takeWhile isBlankChar,
    ((cs.dropWhile isBlankChar).reverse.takeWhile isBlankChar).reverse, ?_,
    fun c mem => List.mem_takeWhile_imp mem,
    fun c mem => List.mem_takeWhile_imp (List.mem_reverse.mp mem)⟩
  rw [trimChars, List.append_assoc, ← List.reverse_append, back, List.reverse_reverse, front]

theorem mem_of_mem_trimChars {cs : List Char} {c : Char} (mem : c ∈ trimChars cs) : c ∈ cs := by
  obtain ⟨before, after, parts, -⟩ := trimChars_parts cs
  rw [parts]
  simp [mem]

theorem trimChars_eq_nil_iff {cs : List Char} :
    trimChars cs = [] ↔ cs.all isBlankChar = true := by
  constructor
  · intro nothing
    obtain ⟨before, after, parts, front, back⟩ := trimChars_parts cs
    rw [parts, nothing]
    simpa [List.all_eq_true, or_imp, forall_and] using ⟨front, back⟩
  · intro blank
    have gone : cs.dropWhile isBlankChar = [] :=
      List.dropWhile_eq_nil_iff.mpr (List.all_eq_true.mp blank)
    simp [trimChars, gone]

theorem all_trimChars_iff {cs : List Char} :
    (trimChars cs).all isBlankChar = true ↔ cs.all isBlankChar = true := by
  simp only [List.all_eq_true]
  constructor
  · intro blank c mem
    obtain ⟨before, after, parts, front, back⟩ := trimChars_parts cs
    rw [parts, List.append_assoc, List.mem_append, List.mem_append] at mem
    rcases mem with first | middle | last
    · exact front c first
    · exact blank c middle
    · exact back c last
  · exact fun blank c mem => blank c (mem_of_mem_trimChars mem)

/-- The text writes the number in decimal digits, with a plus sign or without. -/
def Writes (s : String) (n : Nat) : Prop :=
  ∃ sign digits, (sign = [] ∨ sign = ['+']) ∧ s.toList = sign ++ digits ∧ digits ≠ [] ∧
    (∀ c ∈ digits, '0' ≤ c ∧ c ≤ '9') ∧ Nat.ofDigitChars 10 digits 0 = n

theorem isDigitChar_iff {c : Char} : isDigitChar c = true ↔ '0' ≤ c ∧ c ≤ '9' := by
  simp [isDigitChar]

theorem unsigned_parts (cs : List Char) :
    ∃ sign, (sign = [] ∨ sign = ['+']) ∧ cs = sign ++ unsigned cs := by
  unfold unsigned
  split
  · exact ⟨['+'], .inr rfl, rfl⟩
  · exact ⟨[], .inl rfl, rfl⟩

theorem unsigned_append {sign digits : List Char} (signed : sign = [] ∨ sign = ['+'])
    (ascii : ∀ c ∈ digits, '0' ≤ c ∧ c ≤ '9') : unsigned (sign ++ digits) = digits := by
  rcases signed with rfl | rfl
  · rw [List.nil_append]
    unfold unsigned
    split
    · -- A plus sign is no digit.
      exact absurd (ascii '+' (by simp)) (by decide)
    · rfl
  · rfl

theorem Writes.of_unsigned {s : String} (nonempty : unsigned s.toList ≠ [])
    (ascii : ∀ c ∈ unsigned s.toList, '0' ≤ c ∧ c ≤ '9') :
    Writes s (digitsValue (unsigned s.toList)) := by
  obtain ⟨sign, signed, parts⟩ := unsigned_parts s.toList
  exact ⟨sign, _, signed, parts, nonempty, ascii, rfl⟩

theorem Writes.unsigned {s : String} {n : Nat} (h : Writes s n) :
    Text.unsigned s.toList ≠ [] ∧ (∀ c ∈ Text.unsigned s.toList, '0' ≤ c ∧ c ≤ '9') ∧
      digitsValue (Text.unsigned s.toList) = n := by
  obtain ⟨sign, digits, signed, parts, nonempty, ascii, value⟩ := h
  rw [parts, unsigned_append signed ascii]
  exact ⟨nonempty, ascii, value⟩

theorem Writes.unique {s : String} {m n : Nat} (hm : Writes s m) (hn : Writes s n) : m = n :=
  hm.unsigned.2.2.symm.trans hn.unsigned.2.2

theorem readNumeral?_eq_some_iff {bound n : Nat} {s : String} :
    readNumeral? bound s = some n ↔ Writes s n ∧ n < bound := by
  simp only [readNumeral?, cappedValue_eq_min, Option.ite_none_right_eq_some, Bool.and_eq_true,
    Bool.not_eq_true', List.isEmpty_eq_false_iff, List.all_eq_true, isDigitChar_iff,
    decide_eq_true_eq]
  constructor
  · rintro ⟨⟨⟨nonempty, ascii⟩, below⟩, value⟩
    have written := Writes.of_unsigned nonempty ascii
    have exact : digitsValue (unsigned s.toList) = n := by
      have := Option.some.inj value
      omega
    exact ⟨exact ▸ written, by omega⟩
  · rintro ⟨written, below⟩
    obtain ⟨nonempty, ascii, value⟩ := written.unsigned
    rw [value, Nat.min_eq_right (Nat.le_of_lt below)]
    exact ⟨⟨⟨nonempty, ascii⟩, below⟩, rfl⟩

end Text

namespace Config

theorem commaParts_eq (cs : List Char) : commaParts cs = cs.splitOn ',' := by
  induction cs with
  | nil => rfl
  | cons c cs ih =>
    rw [commaParts, ih, List.splitOn_cons_eq_if_modifyHead]
    split
    · rename_i nothing
      exact absurd nothing (List.splitOn_ne_nil _ _)
    · rename_i part parts split
      by_cases comma : c = ',' <;> simp [comma, split]

theorem comma_not_mem {cs part : List Char} (mem : part ∈ cs.splitOn ',') : ',' ∉ part := by
  induction cs generalizing part with
  | nil => simp_all
  | cons c cs ih =>
    rw [List.splitOn_cons_eq_if_modifyHead] at mem
    split at mem
    · rcases List.mem_cons.mp mem with rfl | later
      · exact List.not_mem_nil
      · exact ih later
    · rename_i other
      obtain ⟨first, others, split⟩ := List.exists_cons_of_ne_nil (List.splitOn_ne_nil ',' cs)
      rw [split] at mem ih
      rcases List.mem_cons.mp mem with rfl | later
      · have ne : ',' ≠ c := fun same => other (beq_iff_eq.mpr same.symm)
        exact List.not_mem_cons_of_ne_of_not_mem ne (ih List.mem_cons_self)
      · exact ih (List.mem_cons_of_mem first later)

theorem brokerList_eq (value : String) :
    brokerList value = ((value.toList.splitOn ',').filter fun part =>
      !part.all Text.isBlankChar).map fun part => String.ofList (Text.trimChars part) := by
  rw [brokerList, commaParts_eq, List.filter_map]
  congr 1
  refine List.filter_congr fun part _ => ?_
  rw [Bool.eq_iff_iff]
  simp [Text.trimChars_eq_nil_iff]

end Config

end OutcomeRelay
