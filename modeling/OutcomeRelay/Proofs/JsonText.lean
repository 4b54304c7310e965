import OutcomeRelay.Outcome.Codec

set_option autoImplicit false

namespace OutcomeRelay

namespace Json

open OutcomeRelay.Text (isDigitChar digitValue digitsValue cappedValue hexValue?_hexDigit)

theorem skipSpace_cons {c : Char} (visible : isSpace c = false) (cs : List Char) :
    skipSpace (c :: cs) = c :: cs := by
  simp [skipSpace, visible]

theorem hexUnit?_of_lt {n : Nat} (small : n < 32) :
    hexUnit? '0' '0' (Text.hexDigit (n / 16)) (Text.hexDigit (n % 16)) = some n := by
  have high := hexValue?_hexDigit ⟨n / 16, by omega⟩
  have low := hexValue?_hexDigit ⟨n % 16, by omega⟩
  have zero : Text.hexValue? '0' = some 0 := by decide
  simp only [hexUnit?, zero, high, low, Option.some.injEq]
  omega

theorem readChars?_short {letter c : Char} (short : shortEscape? letter = some c)
    (seen rest : List Char) :
    readChars? seen ('\\' :: letter :: rest) = readChars? (c :: seen) rest := by
  have unicode : letter ≠ 'u' := by
    rintro rfl
    cases short
  simp [readChars?, unicode, short]

theorem readChars?_code {c : Char} (small : c.toNat < 32) (seen rest : List Char) :
    readChars? seen ('\\' :: 'u' :: '0' :: '0' :: Text.hexDigit (c.toNat / 16) ::
      Text.hexDigit (c.toNat % 16) :: rest) = readChars? (c :: seen) rest := by
  have low : isLowSurrogate c.toNat = false := by
    simp only [isLowSurrogate, Bool.and_eq_false_iff, decide_eq_false_iff_not]
    omega
  have high : isHighSurrogate c.toNat = false := by
    simp only [isHighSurrogate, Bool.and_eq_false_iff, decide_eq_false_iff_not]
    omega
  simp [readChars?, hexUnit?_of_lt small, low, high, Char.ofNat_toNat]

theorem readChars?_plain {c : Char} (printable : 32 ≤ c.toNat) (unquoted : c ≠ '"')
    (backslash : c ≠ '\\') (seen rest : List Char) :
    readChars? seen (c :: rest) = readChars? (c :: seen) rest := by
  simp [readChars?, backslash, Nat.not_lt.mpr printable]

theorem readChars?_escape (c : Char) (seen rest : List Char) :
    readChars? seen (escape c ++ rest) = readChars? (c :: seen) rest := by
  have same {n : Nat} (h : c.toNat = n) : c = Char.ofNat n := h ▸ (Char.ofNat_toNat c).symm
  unfold escape
  split
  · subst_vars
    exact readChars?_short rfl seen rest
  split
  · subst_vars
    exact readChars?_short rfl seen rest
  split
  · rw [same ‹_›]
    exact readChars?_short rfl seen rest
  split
  · rw [same ‹_›]
    exact readChars?_short rfl seen rest
  split
  · rw [same ‹_›]
    exact readChars?_short rfl seen rest
  split
  · rw [same ‹_›]
    exact readChars?_short rfl seen rest
  split
  · rw [same ‹_›]
    exact readChars?_short rfl seen rest
  split
  · exact readChars?_code ‹_› seen rest
  · exact readChars?_plain (Nat.le_of_not_lt ‹_›) ‹_› ‹_› seen rest

theorem readChars?_escaped (cs seen rest : List Char) :
    readChars? seen (cs.flatMap escape ++ '"' :: rest) =
      some (String.ofList (seen.reverse ++ cs), rest) := by
  induction cs generalizing seen with
  | nil => simp [readChars?]
  | cons c cs ih => simp [readChars?_escape, ih]

theorem readString?_quoted (s : String) (rest : List Char) :
    readString? (s.toList.flatMap escape ++ '"' :: rest) = some (s, rest) := by
  simp [readString?, readChars?_escaped]

theorem readValue?_quote (fuel depth : Nat) (s : String) (rest : List Char) :
    readValue? fuel depth (quote s ++ rest) = some (.string s, rest) := by
  have visible : isSpace '"' = false := by decide
  simp [readValue?, quote, skipSpace_cons visible, readString?_quoted]

theorem isDigitChar_eq_isDigit (c : Char) : isDigitChar c = c.isDigit := by
  simp [isDigitChar, Char.isDigit, Char.le_def]

/-- What follows a number: neither a digit nor a point nor an exponent. -/
def Stops (rest : List Char) : Prop :=
  ∀ c ∈ rest.head?, isDigitChar c = false ∧ c ≠ '.' ∧ c ≠ 'e' ∧ c ≠ 'E'

theorem isDigitChar_of_mem_toDigits {n : Nat} {c : Char} (mem : c ∈ Nat.toDigits 10 n) :
    isDigitChar c = true := by
  rw [isDigitChar_eq_isDigit]
  exact Nat.isDigit_of_mem_toDigits (by decide) (by decide) mem

theorem toDigits_cons (n : Nat) :
    ∃ first others, Nat.toDigits 10 n = first :: others ∧ isDigitChar first = true := by
  obtain ⟨first, others, text⟩ :=
    List.exists_cons_of_ne_nil (Nat.toDigits_ne_nil (b := 10) (n := n))
  exact ⟨first, others, text, isDigitChar_of_mem_toDigits (n := n) (by simp [text])⟩

theorem digitsValue_toDigits (n : Nat) : digitsValue (Nat.toDigits 10 n) = n :=
  Nat.ofDigitChars_toDigits (by decide) (by decide)

theorem head?_toDigits {n : Nat} (positive : 0 < n) : (Nat.toDigits 10 n).head? ≠ some '0' := by
  induction n using Nat.strongRecOn with
  | ind n ih =>
    rcases Nat.lt_or_ge n 10 with small | large
    · rw [Nat.toDigits_of_lt_base small]
      have nonzero : ∀ m < 10, 0 < m → [m.digitChar].head? ≠ some '0' := by decide
      exact nonzero n small positive
    · have first : (Nat.toDigits 10 (n / 10)).head?.isSome := by simp
      rw [Nat.toDigits_of_base_le (by decide) large, List.head?_append,
        Option.or_of_isSome first]
      exact ih (n / 10) (by omega) (by omega)

theorem readSomeDigits?_toDigits (n : Nat) {rest : List Char} (stops : Stops rest) :
    readSomeDigits? (Nat.toDigits 10 n ++ rest) = some (Nat.toDigits 10 n, rest) := by
  have digits : ∀ c ∈ Nat.toDigits 10 n, isDigitChar c = true :=
    fun c mem => isDigitChar_of_mem_toDigits mem
  have last : rest.takeWhile isDigitChar = [] ∧ rest.dropWhile isDigitChar = rest := by
    cases rest with
    | nil => exact ⟨rfl, rfl⟩
    | cons c rest => simp [(stops c rfl).1]
  unfold readSomeDigits?
  rw [List.takeWhile_append_of_pos digits, List.dropWhile_append_of_pos digits, last.1, last.2,
    List.append_nil]
  split
  · exact absurd ‹_› Nat.toDigits_ne_nil
  · rfl

theorem readWhole?_toDigits (n : Nat) {rest : List Char} (stops : Stops rest) :
    readWhole? (Nat.toDigits 10 n ++ rest) = some (Nat.toDigits 10 n, rest) := by
  rw [readWhole?, readSomeDigits?_toDigits n stops]
  split
  · rename_i digit digits others same
    have text : Nat.toDigits 10 n = '0' :: digit :: digits :=
      congrArg Prod.fst (Option.some.inj same)
    rcases Nat.eq_zero_or_pos n with rfl | positive
    · cases text
    · exact absurd (by rw [text]; rfl) (head?_toDigits positive)
  · rfl

theorem readDigits?_toDigits (negative : Bool) (n : Nat) {rest : List Char} (stops : Stops rest) :
    readDigits? negative (Nat.toDigits 10 n ++ rest) =
      some (⟨negative, Nat.toDigits 10 n, [], none⟩, rest) := by
  have point : readFraction? rest = some ([], rest) := by
    unfold readFraction?
    split
    · exact absurd rfl (stops _ rfl).2.1
    · rfl
  have exponent : readExponent? rest = some (none, rest) := by
    unfold readExponent?
    split
    · exact absurd rfl (stops _ rfl).2.2.1
    · exact absurd rfl (stops _ rfl).2.2.2
    · rfl
  simp [readDigits?, readWhole?_toDigits n stops, point, exponent]

theorem cappedValue_toDigits {cap n : Nat} (below : n ≤ cap) :
    cappedValue cap (Nat.toDigits 10 n) = n := by
  rw [Text.cappedValue_eq_min, digitsValue_toDigits, Nat.min_eq_right below]

theorem value?_toDigits {n : Nat} (small : n < UInt64.size) :
    Digits.value? ⟨false, Nat.toDigits 10 n, [], none⟩ = some (.integer n) := by
  simp [Digits.value?, Digits.integer?, cappedValue_toDigits (Nat.le_of_lt small), small]

theorem value?_toDigits_neg {n : Nat} (positive : 0 < n) (small : n ≤ signBit) :
    Digits.value? ⟨true, Nat.toDigits 10 n, [], none⟩ = some (.integer (-n)) := by
  have below : n ≤ UInt64.size := Nat.le_trans small (Nat.div_le_self _ _)
  have fits : ¬ (n = 0 ∨ signBit < n) := by omega
  simp [Digits.value?, Digits.integer?, cappedValue_toDigits below, fits]

theorem readNumber?_integerText {n : Int} (least : -(signBit : Int) ≤ n) (most : n < signBit)
    {rest : List Char} (stops : Stops rest) :
    readNumber? (Envelope.integerText n ++ rest) = some (.integer n, rest) := by
  cases n with
  | ofNat n =>
    have small : n < UInt64.size :=
      Nat.lt_of_lt_of_le (Int.ofNat_lt.mp most) (Nat.div_le_self _ _)
    have read := readDigits?_toDigits false n stops
    have value := value?_toDigits small
    obtain ⟨first, others, text, digit⟩ := toDigits_cons n
    have unsigned : first ≠ '-' := by
      rintro rfl
      cases digit
    rw [text] at read value
    rw [List.cons_append] at read
    simp [Envelope.integerText, text, readNumber?, unsigned, read, value]
  | negSucc n =>
    have read := readDigits?_toDigits true (n + 1) stops
    have value := value?_toDigits_neg (Nat.succ_pos n) (by
      rw [Int.negSucc_eq] at least
      omega)
    simp [Envelope.integerText, readNumber?, read, value, Int.negSucc_eq]

theorem integerText_cons (n : Int) :
    ∃ first others, Envelope.integerText n = first :: others ∧
      (isDigitChar first = true ∨ first = '-') := by
  cases n with
  | ofNat n =>
    obtain ⟨first, others, text, digit⟩ := toDigits_cons n
    exact ⟨first, others, text, .inl digit⟩
  | negSucc n => exact ⟨'-', Nat.toDigits 10 (n + 1), rfl, .inr rfl⟩

theorem readValue?_integerText (fuel depth : Nat) {n : Int} (least : -(signBit : Int) ≤ n)
    (most : n < signBit) {rest : List Char} (stops : Stops rest) :
    readValue? fuel depth (Envelope.integerText n ++ rest) = some (.integer n, rest) := by
  have read := readNumber?_integerText least most stops
  obtain ⟨first, others, text, start⟩ := integerText_cons n
  rw [text, List.cons_append] at read ⊢
  have other (c : Char) (h : isDigitChar c = false) (h' : c ≠ '-') : first ≠ c := by
    rintro rfl
    simp [h, h'] at start
  have visible : isSpace first = false := by
    have blank := other ' ' (by decide) (by decide)
    have newline := other '\n' (by decide) (by decide)
    have tab := other '\t' (by decide) (by decide)
    have carriage := other '\r' (by decide) (by decide)
    simp [isSpace, blank, newline, tab, carriage]
  unfold readValue?
  rw [skipSpace_cons visible]
  split
  case h_7 => exact read
  -- No other value begins with a digit or with the sign of a number.
  all_goals exact absurd (List.cons.inj ‹first :: _ = _›).1 (other _ (by decide) (by decide))

/-- Whatever follows the text behind a comma or at the end, the reader takes this value from it. -/
def Reads {α : Type} (item : List Char → Option (α × List Char)) (close : Char)
    (part : List Char × α) : Prop :=
  ∀ c rest, c = ',' ∨ c = close → item (part.1 ++ c :: rest) = some (part.2, c :: rest)

theorem readItems?_intercalate {α : Type} {item : List Char → Option (α × List Char)}
    {close : Char} (visible : isSpace close = false) (bracket : close ≠ ',')
    {parts : List (List Char × α)} (reads : ∀ part ∈ parts, Reads item close part)
    (nonempty : parts ≠ []) {fuel : Nat} (enough : parts.length ≤ fuel) (seen : List α)
    (rest : List Char) :
    readItems? item close fuel seen
        ([','].intercalate (parts.map Prod.fst) ++ close :: rest) =
      some (seen.reverse ++ parts.map Prod.snd, rest) := by
  induction parts generalizing fuel seen with
  | nil => exact absurd rfl nonempty
  | cons part parts ih =>
    obtain ⟨fuel, rfl⟩ : ∃ less, fuel = less + 1 :=
      Nat.exists_eq_add_one.mpr (Nat.lt_of_lt_of_le (Nat.succ_pos _) enough)
    have read := reads part List.mem_cons_self
    cases parts with
    | nil =>
      have first := read close rest (.inr rfl)
      simp [readItems?, first, skipSpace_cons visible, bracket]
    | cons next parts =>
      have comma : isSpace ',' = false := by decide
      have later := ih (fun part mem => reads part (List.mem_cons_of_mem _ mem)) (by simp)
        (Nat.le_of_succ_le_succ enough) (part.2 :: seen)
      have first := read ',' ([','].intercalate ((next :: parts).map Prod.fst) ++ close :: rest)
        (.inl rfl)
      have joined : [','].intercalate ((part :: next :: parts).map Prod.fst) =
          part.1 ++ ',' :: [','].intercalate ((next :: parts).map Prod.fst) := by
        simp [List.intercalate]
      rw [joined, List.append_assoc, List.cons_append, readItems?, first]
      simp only [skipSpace_cons comma, if_true, later]
      simp

theorem length_le_intercalate (texts : List (List Char)) :
    texts.length ≤ ([','].intercalate texts).length + 1 := by
  induction texts with
  | nil => simp
  | cons text texts ih =>
    cases texts with
    | nil => simp
    | cons next texts =>
      have joined : [','].intercalate (text :: next :: texts) =
          text ++ ',' :: [','].intercalate (next :: texts) := by
        simp [List.intercalate]
      rw [joined]
      simp only [List.length_cons, List.length_append] at ih ⊢
      omega

structure Part where
  name : String
  text : List Char
  value : Json

namespace Part

def written (p : Part) : List Char := Envelope.field p.name p.text

def member (p : Part) : String × Json := (p.name, p.value)

def Readable (p : Part) : Prop :=
  ∀ fuel depth, Reads (readValue? fuel depth) '\x7d' (p.text, p.value)

theorem Readable.reads {p : Part} (h : p.Readable) (fuel depth : Nat) :
    Reads (readMember? (readValue? fuel depth)) '\x7d' (p.written, p.member) := by
  intro c rest follows
  have quoted : isSpace '"' = false := by decide
  have colon : isSpace ':' = false := by decide
  have read := h fuel depth c rest follows
  simp [readMember?, written, member, Envelope.field, quote, skipSpace_cons quoted,
    skipSpace_cons colon, readString?_quoted, read]

end Part

theorem parse?_object {parts : List Part} (nonempty : parts ≠ [])
    (readable : ∀ part ∈ parts, part.Readable) :
    parse? ('\x7b' :: ([','].intercalate (parts.map Part.written) ++ ['\x7d'])) =
      some (.object (parts.map Part.member)) := by
  have opening : isSpace '\x7b' = false := by decide
  have closing : isSpace '\x7d' = false := by decide
  have quoted : isSpace '"' = false := by decide
  have items (fuel : Nat) (enough : parts.length ≤ fuel) :
      readItems? (readMember? (readValue? fuel 126)) '\x7d' fuel []
        ([','].intercalate (parts.map Part.written) ++ ['\x7d']) =
        some (parts.map Part.member, []) := by
    have reads : ∀ pair ∈ parts.map fun part => (part.written, part.member),
        Reads (readMember? (readValue? fuel 126)) '\x7d' pair := by
      simpa using fun part mem => (readable part mem).reads fuel 126
    simpa [Function.comp_def] using
      readItems?_intercalate closing (by decide) reads (by simpa) (by simpa) [] []
  have enough := length_le_intercalate (parts.map Part.written)
  obtain ⟨others, first⟩ :
      ∃ others, [','].intercalate (parts.map Part.written) = '"' :: others := by
    cases parts with
    | nil => exact absurd rfl nonempty
    | cons part parts => cases parts <;> exact ⟨_, rfl⟩
  rw [List.length_map] at enough
  generalize [','].intercalate (parts.map Part.written) = text at items enough first ⊢
  have read := items ('\x7b' :: (text ++ ['\x7d'])).length.succ (by simp; omega)
  subst first
  rw [List.cons_append] at read ⊢
  simp only [parse?, readValue?, maxDepth, skipSpace_cons opening, readContainer?,
    skipSpace_cons quoted, read]
  simp [skipSpace]

end Json

end OutcomeRelay
