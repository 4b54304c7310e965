import OutcomeRelay.Proofs.PlainText

set_option autoImplicit false

namespace OutcomeRelay

/-- The keys whose values can be out of order, in the order in which they are looked at. -/
def ConfigKey.checked : List ConfigKey :=
  [.brokers, .transactionalId, .httpAddress, .operationLimit, .creationRetries, .commitRetries,
    .backoffBase, .backoffCap]

namespace Config

def CountsBelow (bound : Nat) (table : Table) (key : ConfigKey) : Prop :=
  ∀ value, table key = some value → ∃ n < bound, Text.Writes (Text.trim value) n

def InOrder (table : Table) : ConfigKey → Prop
  | .brokers => ∃ value, table .brokers = some value ∧
      ∃ part ∈ value.toList.splitOn ',', part.all Text.isBlankChar = false
  | .transactionalId => ∃ value, table .transactionalId = some value ∧ Text.isBlank value = false
  | .resultsTopic => True
  | .httpAddress => ∀ value, table .httpAddress = some value →
      ∃ address, readAddress? (Text.trim value) = some address
  | .operationLimit => CountsBelow UInt64.size table .operationLimit
  | .creationRetries => CountsBelow UInt32.size table .creationRetries
  | .commitRetries => CountsBelow UInt32.size table .commitRetries
  | .backoffBase => CountsBelow UInt64.size table .backoffBase
  | .backoffCap => CountsBelow UInt64.size table .backoffCap

/-- How a key is reported that is not in order: one that has to be there is missing, and the value
of any other is told as it is in the table. -/
def Reports (table : Table) (key : ConfigKey) (error : ConfigError) : Prop :=
  if key = .brokers ∨ key = .transactionalId then error = .missing key
  else ∃ value, table key = some value ∧ error = .invalid key value

def IsFirstFault (table : Table) (keys : List ConfigKey) (key : ConfigKey) : Prop :=
  ¬ InOrder table key ∧ ∃ before after, keys = before ++ key :: after ∧
    ∀ earlier ∈ before, InOrder table earlier

/-- The key stands for what is read from its value, or for the default if it is absent. -/
structure StandsFor {α : Type} (table : Table) (key : ConfigKey) (Reads : String → α → Prop)
    (default a : α) : Prop where
  absent : table key = none → a = default
  present : ∀ value, table key = some value → Reads (Text.trim value) a

def StandsForMillis (table : Table) (key : ConfigKey) (default : Nat) (span : Span) : Prop :=
  ∃ n < UInt64.size, StandsFor table key Text.Writes default n ∧ span.toNanos = n * 1000000

structure Follows (c : Config) (table : Table) : Prop where
  brokers : ∃ value, table .brokers = some value ∧
    c.brokers = ((value.toList.splitOn ',').filter fun part => !part.all Text.isBlankChar).map
      fun part => String.ofList (Text.trimChars part)
  someBroker : c.brokers ≠ []
  brokerNames : ∀ broker ∈ c.brokers, Text.isBlank broker = false ∧ ',' ∉ broker.toList
  transactionalId : table .transactionalId = some c.transactionalId
  baseName : Text.isBlank c.transactionalId = false
  resultsTopic : c.resultsTopic = (table .resultsTopic).getD "saga-step-results"
  httpAddress : StandsFor table .httpAddress (fun s address => readAddress? s = some address)
    (.v4 [0, 0, 0, 0] 8080) c.httpAddress
  operationLimit : StandsForMillis table .operationLimit 10000 c.operationLimit
  creationRetries : StandsFor table .creationRetries Text.Writes 8 c.creationRetries.toNat
  commitRetries : StandsFor table .commitRetries Text.Writes 5 c.commitRetries.toNat
  backoffBase : StandsForMillis table .backoffBase 100 c.backoffBase
  backoffCap : StandsForMillis table .backoffCap 5000 c.backoffCap

variable {table : Table} {key : ConfigKey} {keys : List ConfigKey}

/-- What looking at the keys one after the other may come to. -/
inductive Judges {α : Type} (table : Table) (keys : List ConfigKey) (Fits : α → Prop) :
    Except ConfigError α → Prop
  | accepts {a : α} (inOrder : ∀ key ∈ keys, InOrder table key) (fits : Fits a) :
      Judges table keys Fits (.ok a)
  | refuses {key : ConfigKey} {error : ConfigError} (first : IsFirstFault table keys key)
      (reported : Reports table key error) : Judges table keys Fits (.error error)

theorem isFirstFault_cons_self (fault : ¬ InOrder table key) :
    IsFirstFault table (key :: keys) key :=
  ⟨fault, [], keys, rfl, by simp⟩

theorem IsFirstFault.cons {key' : ConfigKey} (h : IsFirstFault table keys key')
    (inOrder : InOrder table key) : IsFirstFault table (key :: keys) key' := by
  obtain ⟨fault, before, after, rfl, earlier⟩ := h
  exact ⟨fault, key :: before, after, rfl, List.forall_mem_cons.mpr ⟨inOrder, earlier⟩⟩

theorem Judges.bind {α β : Type} {P : α → Prop} {Q : β → Prop} {first : Except ConfigError α}
    {rest : α → Except ConfigError β} (h : Judges table [key] P first)
    (next : ∀ a, P a → Judges table keys Q (rest a)) :
    Judges table (key :: keys) Q (first >>= rest) := by
  cases h with
  | @accepts a inOrder fits =>
    have here : InOrder table key := inOrder key List.mem_cons_self
    have later := next a fits
    -- The first reader has given its value, so what is bound to it is the rest itself.
    change Judges table (key :: keys) Q (rest a)
    generalize rest a = result at later
    cases later with
    | accepts inOrder fits => exact .accepts (List.forall_mem_cons.mpr ⟨here, inOrder⟩) fits
    | refuses first reported => exact .refuses (first.cons here) reported
  | refuses first reported =>
    obtain ⟨fault, before, after, same, -⟩ := first
    cases before with
    | nil =>
      obtain ⟨rfl, -⟩ := List.cons.inj same
      exact .refuses (isFirstFault_cons_self fault) reported
    | cons => simp at same

theorem transactionalId_judged (table : Table) : Judges table [.transactionalId]
    (fun id => table .transactionalId = some id ∧ Text.isBlank id = false)
    (required table .transactionalId) := by
  have reported : Reports table .transactionalId (.missing .transactionalId) := by simp [Reports]
  unfold required
  cases given : table .transactionalId with
  | none => exact .refuses (isFirstFault_cons_self (by simp [InOrder, given])) reported
  | some value =>
    dsimp only
    by_cases blank : Text.isBlank value = true
    · rw [if_pos blank]
      exact .refuses (isFirstFault_cons_self (by simp [InOrder, given, blank])) reported
    · have named : Text.isBlank value = false := by simpa using blank
      rw [if_neg blank]
      exact .accepts (by simp [InOrder, given, named]) ⟨rfl, named⟩

theorem brokerList_ne_nil_iff {value : String} : brokerList value ≠ [] ↔
    ∃ part ∈ value.toList.splitOn ',', part.all Text.isBlankChar = false := by
  rw [brokerList_eq, ne_eq, List.map_eq_nil_iff, List.filter_eq_nil_iff]
  simp

/-- A comma is no blank, so that a blank list has a single part. -/
theorem brokerList_of_isBlank {value : String} (blank : Text.isBlank value = true) :
    brokerList value = [] := by
  have whole : value.toList.splitOn ',' = [value.toList] := by
    refine List.splitOn_eq_singleton fun comma => ?_
    exact absurd (List.all_eq_true.mp blank ',' comma) (by decide)
  have blankPart : value.toList.all Text.isBlankChar = true := blank
  simp [brokerList_eq, whole, blankPart]

theorem readBrokers_eq {value : String} (given : table .brokers = some value) :
    readBrokers table = if brokerList value = [] then .error (.missing .brokers)
      else .ok (brokerList value) := by
  by_cases blank : Text.isBlank value = true
  · have read : required table .brokers = .error (.missing .brokers) := by
      simp [required, given, blank]
    rw [if_pos (brokerList_of_isBlank blank), readBrokers, read]
    rfl
  · have read : required table .brokers = .ok value := by simp [required, given, blank]
    simp only [readBrokers, read]
    cases listed : brokerList value <;> simp [bind, Except.bind, listed]

theorem brokers_judged (table : Table) : Judges table [.brokers]
    (fun brokers => brokers ≠ [] ∧
      ∃ value, table .brokers = some value ∧ brokers = brokerList value)
    (readBrokers table) := by
  have reported : Reports table .brokers (.missing .brokers) := by simp [Reports]
  cases given : table .brokers with
  | none =>
    have read : readBrokers table = .error (.missing .brokers) := by
      simp only [readBrokers, required, given]
      rfl
    rw [read]
    exact .refuses (isFirstFault_cons_self (by simp [InOrder, given])) reported
  | some value =>
    have inOrder : InOrder table .brokers ↔ brokerList value ≠ [] := by
      rw [brokerList_ne_nil_iff]
      simp [InOrder, given]
    rw [readBrokers_eq given]
    split
    · rename_i nothing
      exact .refuses (isFirstFault_cons_self (by simpa [inOrder] using nothing)) reported
    · rename_i something
      exact .accepts (by simpa [inOrder] using something) ⟨something, value, rfl, rfl⟩

theorem readOr_judged {α : Type} {key : ConfigKey} {read? : String → Option α}
    (optional : ¬ (key = .brokers ∨ key = .transactionalId))
    (inOrder : InOrder table key ↔
      ∀ value, table key = some value → ∃ a, read? (Text.trim value) = some a) (default : α) :
    Judges table [key] (StandsFor table key (fun s a => read? s = some a) default)
      (readOr table key read? default) := by
  unfold readOr
  cases given : table key with
  | none => exact .accepts (by simp [inOrder, given]) ⟨fun _ => rfl, by simp [given]⟩
  | some value =>
    dsimp only
    cases read : read? (Text.trim value) with
    | none =>
      refine .refuses (isFirstFault_cons_self ?_) ?_
      · simp [inOrder, given, read]
      · rw [Reports, if_neg optional]
        exact ⟨value, given, rfl⟩
    | some a =>
      exact .accepts (by simp [inOrder, given, read]) ⟨by simp [given], by simp [given, read]⟩

theorem readMillis?_eq_some_iff {s : String} {span : Span} : readMillis? s = some span ↔
    ∃ n < UInt64.size, Text.Writes s n ∧ span.toNanos = n * 1000000 := by
  simp only [readMillis?, Option.map_eq_some_iff, Text.readNumeral?_eq_some_iff]
  constructor
  · rintro ⟨n, ⟨written, below⟩, rfl⟩
    exact ⟨n, below, written, Span.toNanos_ofMillis below⟩
  · rintro ⟨n, below, written, exact⟩
    exact ⟨n, ⟨written, below⟩, Span.toNanos_inj (by rw [Span.toNanos_ofMillis below, exact])⟩

theorem readCount?_eq_some_iff {s : String} {count : UInt32} :
    readCount? s = some count ↔ Text.Writes s count.toNat := by
  simp only [readCount?, Option.map_eq_some_iff, Text.readNumeral?_eq_some_iff]
  constructor
  · rintro ⟨n, ⟨written, below⟩, rfl⟩
    rwa [UInt32.toNat_ofNat_of_lt' below]
  · intro written
    exact ⟨count.toNat, ⟨written, count.toNat_lt⟩, UInt32.ofNat_toNat⟩

theorem exists_readNumeral?_iff {α : Type} (bound : Nat) (f : Nat → α) (s : String) :
    (∃ a, (Text.readNumeral? bound s).map f = some a) ↔ ∃ n < bound, Text.Writes s n := by
  simp only [Option.map_eq_some_iff, Text.readNumeral?_eq_some_iff]
  constructor
  · rintro ⟨-, n, ⟨written, below⟩, -⟩
    exact ⟨n, below, written⟩
  · rintro ⟨n, below, written⟩
    exact ⟨f n, n, ⟨written, below⟩, rfl⟩

theorem Judges.imp {α : Type} {P Q : α → Prop} {result : Except ConfigError α}
    (h : Judges table keys P result) (weaker : ∀ a, P a → Q a) : Judges table keys Q result := by
  cases h with
  | accepts inOrder fits => exact .accepts inOrder (weaker _ fits)
  | refuses first reported => exact .refuses first reported

theorem millis_judged (optional : ¬ (key = .brokers ∨ key = .transactionalId))
    (counted : InOrder table key ↔ CountsBelow UInt64.size table key) {default : Nat}
    (short : default < UInt64.size) : Judges table [key] (StandsForMillis table key default)
      (readOr table key readMillis? (.ofMillis default)) := by
  have inOrder : InOrder table key ↔
      ∀ value, table key = some value → ∃ span, readMillis? (Text.trim value) = some span :=
    counted.trans (forall₂_congr fun _ _ => (exists_readNumeral?_iff _ _ _).symm)
  refine (readOr_judged optional inOrder (.ofMillis default)).imp fun span read => ?_
  cases given : table key with
  | none =>
    have same := read.absent given
    exact ⟨default, short, ⟨fun _ => rfl, by simp [given]⟩, same ▸ Span.toNanos_ofMillis short⟩
  | some value =>
    obtain ⟨n, below, written, exact⟩ := readMillis?_eq_some_iff.mp (read.present value given)
    exact ⟨n, below, ⟨by simp [given], by simpa [given] using written⟩, exact⟩

theorem count_judged (optional : ¬ (key = .brokers ∨ key = .transactionalId))
    (counted : InOrder table key ↔ CountsBelow UInt32.size table key) (default : UInt32) :
    Judges table [key] (fun n => StandsFor table key Text.Writes default.toNat n.toNat)
      (readOr table key readCount? default) := by
  have inOrder : InOrder table key ↔
      ∀ value, table key = some value → ∃ count, readCount? (Text.trim value) = some count :=
    counted.trans (forall₂_congr fun _ _ => (exists_readNumeral?_iff _ _ _).symm)
  refine (readOr_judged optional inOrder default).imp fun count read => ⟨fun none => ?_, ?_⟩
  · rw [read.absent none]
  · exact fun value given => readCount?_eq_some_iff.mp (read.present value given)

theorem name_of_mem_brokerList {value broker : String} (mem : broker ∈ brokerList value) :
    Text.isBlank broker = false ∧ ',' ∉ broker.toList := by
  rw [brokerList_eq] at mem
  obtain ⟨part, listed, rfl⟩ := List.mem_map.mp mem
  obtain ⟨split, named⟩ := List.mem_filter.mp listed
  rw [Text.isBlank, String.toList_ofList]
  refine ⟨?_, fun comma => comma_not_mem split (Text.mem_of_mem_trimChars comma)⟩
  rw [Bool.eq_false_iff, ne_eq, Text.all_trimChars_iff]
  simpa using named

theorem read_judged (table : Table) :
    Judges table ConfigKey.checked (Follows · table) (read table) := by
  unfold read
  -- Step by step the list of keys gets shorter in the order in which they are read.
  refine (brokers_judged table).bind fun brokers ⟨known, value, given, list⟩ => ?_
  refine (transactionalId_judged table).bind fun id ⟨named, base⟩ => ?_
  refine (readOr_judged (by simp) Iff.rfl _).bind fun address http => ?_
  refine (millis_judged (by simp) Iff.rfl (by decide)).bind fun limit hlimit => ?_
  refine (count_judged (by simp) Iff.rfl _).bind fun creation hcreation => ?_
  refine (count_judged (by simp) Iff.rfl _).bind fun commit hcommit => ?_
  refine (millis_judged (by simp) Iff.rfl (by decide)).bind fun backoffBase hbase => ?_
  refine (millis_judged (by simp) Iff.rfl (by decide)).bind fun backoffCap hcap => ?_
  exact .accepts (by simp) {
    brokers := ⟨value, given, list.trans (brokerList_eq value)⟩
    someBroker := known
    brokerNames := fun broker mem => name_of_mem_brokerList (list ▸ mem)
    transactionalId := named
    baseName := base
    resultsTopic := rfl
    httpAddress := http
    operationLimit := hlimit
    creationRetries := hcreation
    commitRetries := hcommit
    backoffBase := hbase
    backoffCap := hcap }

theorem StandsForMillis.countsBelow {default : Nat} {span : Span}
    (h : StandsForMillis table key default span) : CountsBelow UInt64.size table key := by
  intro value given
  obtain ⟨n, below, stands, -⟩ := h
  exact ⟨n, below, stands.present value given⟩

theorem StandsFor.countsBelow {default : Nat} {count : UInt32}
    (h : StandsFor table key Text.Writes default count.toNat) :
    CountsBelow UInt32.size table key := fun value given =>
  ⟨count.toNat, count.toNat_lt, h.present value given⟩

theorem Follows.inOrder {c : Config} (h : c.Follows table) :
    ∀ key ∈ ConfigKey.checked, InOrder table key := by
  intro key mem
  cases key with
  | brokers =>
    obtain ⟨value, given, list⟩ := h.brokers
    rw [← brokerList_eq] at list
    exact ⟨value, given, brokerList_ne_nil_iff.mp (list ▸ h.someBroker)⟩
  | transactionalId => exact ⟨_, h.transactionalId, h.baseName⟩
  | resultsTopic => trivial
  | httpAddress => exact fun value given => ⟨_, h.httpAddress.present value given⟩
  | operationLimit => exact h.operationLimit.countsBelow
  | creationRetries => exact h.creationRetries.countsBelow
  | commitRetries => exact h.commitRetries.countsBelow
  | backoffBase => exact h.backoffBase.countsBelow
  | backoffCap => exact h.backoffCap.countsBelow

theorem StandsFor.unique {α : Type} {R : String → α → Prop} {a b default : α}
    (ha : StandsFor table key R default a) (hb : StandsFor table key R default b)
    (same : ∀ {s a b}, R s a → R s b → a = b) : a = b := by
  cases given : table key with
  | none => rw [ha.absent given, hb.absent given]
  | some value => exact same (ha.present value given) (hb.present value given)

theorem StandsForMillis.unique {default : Nat} {span span' : Span}
    (h : StandsForMillis table key default span) (h' : StandsForMillis table key default span') :
    span = span' := by
  obtain ⟨n, -, stands, exact⟩ := h
  obtain ⟨n', -, stands', exact'⟩ := h'
  obtain rfl := stands.unique stands' Text.Writes.unique
  exact Span.toNanos_inj (exact.trans exact'.symm)

theorem Follows.unique {c c' : Config} (h : c.Follows table) (h' : c'.Follows table) : c = c' := by
  have brokers : c.brokers = c'.brokers := by
    obtain ⟨value, given, list⟩ := h.brokers
    obtain ⟨value', given', list'⟩ := h'.brokers
    obtain rfl := Option.some.inj (given.symm.trans given')
    exact list.trans list'.symm
  have id := Option.some.inj (h.transactionalId.symm.trans h'.transactionalId)
  have topic := h.resultsTopic.trans h'.resultsTopic.symm
  have address := h.httpAddress.unique h'.httpAddress fun ha hb =>
    Option.some.inj (ha.symm.trans hb)
  have limit := h.operationLimit.unique h'.operationLimit
  have creation := UInt32.toNat_inj.mp
    (h.creationRetries.unique h'.creationRetries Text.Writes.unique)
  have commit := UInt32.toNat_inj.mp (h.commitRetries.unique h'.commitRetries Text.Writes.unique)
  have base := h.backoffBase.unique h'.backoffBase
  have cap := h.backoffCap.unique h'.backoffCap
  cases c
  cases c'
  simp_all

theorem IsFirstFault.not_all (h : IsFirstFault table keys key) :
    ¬ ∀ key ∈ keys, InOrder table key := by
  obtain ⟨fault, before, after, rfl, -⟩ := h
  exact fun all => fault (all key (by simp))

theorem IsFirstFault.unique {key' : ConfigKey} (h : IsFirstFault table keys key)
    (h' : IsFirstFault table keys key') : key = key' := by
  obtain ⟨fault, before, after, rfl, earlier⟩ := h
  obtain ⟨fault', before', after', same, earlier'⟩ := h'
  -- If one of them came earlier, it would be in order, because the other one is the first fault.
  rcases List.append_eq_append_iff.mp same with ⟨between, rfl, split⟩ | ⟨between, rfl, split⟩
  · cases between with
    | nil => exact (List.cons.inj split).1
    | cons next between =>
      obtain ⟨rfl, -⟩ := List.cons.inj split
      exact absurd (earlier' key (by simp)) fault
  · cases between with
    | nil => exact (List.cons.inj split).1.symm
    | cons next between =>
      obtain ⟨rfl, -⟩ := List.cons.inj split
      exact absurd (earlier key' (by simp)) fault'

theorem Reports.unique {error error' : ConfigError} (h : Reports table key error)
    (h' : Reports table key error') : error = error' := by
  unfold Reports at h h'
  split at h
  · rename_i needed
    rw [if_pos needed] at h'
    exact h.trans h'.symm
  · rename_i optional
    rw [if_neg optional] at h'
    obtain ⟨value, given, rfl⟩ := h
    obtain ⟨value', given', rfl⟩ := h'
    rw [Option.some.inj (given.symm.trans given')]

/-- Of two values that cannot be read the first one is reported. -/
example : read (fun
    | .brokers => some " k1:9092 ,, k2:9092"
    | .transactionalId => some "settings-svc"
    | .commitRetries => some " many"
    | .backoffCap => some "-1"
    | _ => none) = .error (.invalid .commitRetries " many") := by decide +kernel

example : readAddress? "0.0.0.0:8080" = some defaultAddress := by decide +kernel

end Config

end OutcomeRelay
