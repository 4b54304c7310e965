import OutcomeRelay.Outcome.Report
import OutcomeRelay.Proofs.EnvelopeText

set_option autoImplicit false

namespace OutcomeRelay

abbrev Members := List (String × Json)

namespace Json

variable {members more extra : Members} {name s : String} {x : Json} {n : Int}

/-- The name occurs once among the members, and there with this value. -/
def Sole (members : Members) (name : String) (x : Json) : Prop :=
  (members.map Prod.fst).count name = 1 ∧ (name, x) ∈ members

theorem single?_eq_some_iff : single? members name = some x ↔ Sole members name x := by
  have count : (members.map Prod.fst).count name =
      (members.filter fun member => member.1 = name).length := by
    rw [List.count, List.countP_map, List.countP_eq_length_filter]
    rfl
  have mem (member : String × Json) : member ∈ members.filter (fun member => member.1 = name) ↔
      member ∈ members ∧ member.1 = name := by
    simp
  rw [Sole, count, single?]
  generalize members.filter (fun member => member.1 = name) = found at mem
  rcases found with - | ⟨⟨own, y⟩, - | ⟨another, others⟩⟩
  · simp
  · obtain ⟨here, rfl⟩ := (mem (own, y)).mp (by simp)
    have same : (own, x) ∈ members ↔ x = y := by simpa using (mem (own, x)).symm
    simp [same, eq_comm]
  · simp

theorem string?_eq_some_iff : string? x = some s ↔ x = .string s := by
  cases x <;> simp [string?]

theorem singleString?_eq_some_iff :
    singleString? members name = some s ↔ Sole members name (.string s) := by
  simp [singleString?, Option.bind_eq_some_iff, single?_eq_some_iff, string?_eq_some_iff]

theorem int64?_eq_some_iff :
    int64? x = some n ↔ x = .integer n ∧ -(signBit : Int) ≤ n ∧ n < signBit := by
  cases x with
  | integer m =>
    simp only [int64?, Option.ite_none_right_eq_some, Option.some.injEq, integer.injEq]
    constructor
    · rintro ⟨bounds, rfl⟩
      exact ⟨rfl, bounds⟩
    · rintro ⟨rfl, bounds⟩
      exact ⟨bounds, rfl⟩
  | _ => simp [int64?]

theorem sole_congr (same : more.Perm (members ++ extra)) (fresh : name ∉ extra.map Prod.fst) :
    Sole more name x ↔ Sole members name x := by
  have count : (more.map Prod.fst).count name = (members.map Prod.fst).count name := by
    rw [(same.map Prod.fst).count_eq, List.map_append, List.count_append,
      List.count_eq_zero_of_not_mem fresh, Nat.add_zero]
  have absent : (name, x) ∉ extra := fun mem => fresh (List.mem_map_of_mem mem)
  rw [Sole, Sole, count, same.mem_iff, List.mem_append, or_iff_left absent]

/-- Each of the names has the same sole value in both, or in neither. -/
def AgreeOn (names : List String) (members more : Members) : Prop :=
  ∀ name ∈ names, ∀ x, Sole more name x ↔ Sole members name x

theorem AgreeOn.of_perm {names : List String} (same : more.Perm (members ++ extra))
    (fresh : ∀ name ∈ extra.map Prod.fst, name ∉ names) : AgreeOn names members more :=
  fun _ counts _ => sole_congr same fun mem => fresh _ mem counts

end Json

open Json (Sole AgreeOn)

variable {members more extra : Members}

namespace StepOutcome

def Given (members : Members) : StepOutcome → Prop
  | succeeded => ∃ x, Sole members "status" x ∧ (x = .string "succeeded" ∨ x = .integer 0)
  | failed reason => (∃ x, Sole members "status" x ∧ (x = .string "failed" ∨ x = .integer 1)) ∧
      Sole members "reason" (.string reason)

namespace Tag

/-- The number by which a status may be given instead of its name. -/
def number : Tag → Int
  | succeeded => 0
  | failed => 1

theorem read?_eq_some_iff {tag : Tag} {x : Json} :
    read? x = some tag ↔ x = .string tag.name ∨ x = .integer tag.number := by
  cases x with
  | string s =>
    have apart : name .succeeded ≠ name .failed := by decide
    by_cases first : s = name .succeeded
    · cases tag <;> simp [read?, first, apart]
    · by_cases second : s = name .failed <;> cases tag <;> simp [read?, first, second, apart.symm]
  | integer n =>
    by_cases first : n = 0
    · cases tag <;> simp [read?, first, number]
    · by_cases second : n = 1 <;> cases tag <;> simp [read?, first, second, number]
  | _ => simp [read?]

end Tag

theorem ofMembers?_eq_some_iff {outcome : StepOutcome} :
    ofMembers? members = some outcome ↔ outcome.Given members := by
  have tagged (tag : Tag) : (Json.single? members "status").bind Tag.read? = some tag ↔
      ∃ x, Sole members "status" x ∧ (x = .string tag.name ∨ x = .integer tag.number) := by
    simp only [Option.bind_eq_some_iff, Json.single?_eq_some_iff, Tag.read?_eq_some_iff]
  unfold ofMembers?
  cases outcome with
  | succeeded =>
    refine Iff.trans ?_ (tagged .succeeded)
    generalize (Json.single? members "status").bind Tag.read? = tag
    rcases tag with - | - | - <;> simp
  | failed reason =>
    refine Iff.trans ?_ (and_congr (tagged .failed) Json.singleString?_eq_some_iff)
    generalize (Json.single? members "status").bind Tag.read? = tag
    rcases tag with - | - | - <;> simp

theorem given_congr (same : AgreeOn ["status", "reason"] members more) (outcome : StepOutcome) :
    outcome.Given more ↔ outcome.Given members := by
  have status := same "status" (by simp)
  have reason := same "reason" (by simp)
  cases outcome <;> simp [Given, status, reason]

end StepOutcome

namespace Report

def names : List String := ["saga_id", "step", "status", "reason"]

structure Given (members : Members) (r : Report) : Prop where
  sagaId : Sole members "saga_id" (.string r.sagaId)
  step : Sole members "step" (.string r.step)
  outcome : r.outcome.Given members

theorem ofMembers?_eq_some_iff {r : Report} :
    ofMembers? members = some r ↔ r.Given members := by
  obtain ⟨sagaId, step, outcome⟩ := r
  simp only [ofMembers?, Option.bind_eq_bind, Option.bind_eq_some_iff, Option.pure_def,
    Option.some.injEq, mk.injEq, Json.singleString?_eq_some_iff,
    StepOutcome.ofMembers?_eq_some_iff]
  constructor
  · rintro ⟨_, saga, _, named, _, told, rfl, rfl, rfl⟩
    exact ⟨saga, named, told⟩
  · rintro ⟨saga, named, told⟩
    exact ⟨_, saga, _, named, _, told, rfl, rfl, rfl⟩

theorem given_congr (same : AgreeOn names members more) (r : Report) :
    r.Given more ↔ r.Given members := by
  have saga := same "saga_id" (by simp [names])
  have step := same "step" (by simp [names])
  have outcome := StepOutcome.given_congr (fun name counts => same name (by simp_all [names]))
    r.outcome
  exact ⟨fun h => ⟨(saga _).mp h.sagaId, (step _).mp h.step, outcome.mp h.outcome⟩,
    fun h => ⟨(saga _).mpr h.sagaId, (step _).mpr h.step, outcome.mpr h.outcome⟩⟩

end Report

namespace Envelope

def names : List String := ["event_id", "occurred_at"] ++ Report.names

structure Given (members : Members) (e : Envelope) : Prop where
  eventId : Sole members "event_id" (.string e.eventId)
  sagaId : Sole members "saga_id" (.string e.sagaId)
  step : Sole members "step" (.string e.step)
  occurredAt : Sole members "occurred_at" (.integer e.occurredAt)
  timely : e.Timely
  outcome : e.outcome.Given members

theorem ofMembers?_eq_some_iff {e : Envelope} :
    ofMembers? members = some e ↔ e.Given members := by
  obtain ⟨eventId, sagaId, step, outcome, occurredAt⟩ := e
  simp only [ofMembers?, Option.bind_eq_bind, Option.bind_eq_some_iff, Option.pure_def,
    Option.some.injEq, mk.injEq, Json.singleString?_eq_some_iff, Json.single?_eq_some_iff,
    Json.int64?_eq_some_iff, StepOutcome.ofMembers?_eq_some_iff]
  constructor
  · rintro ⟨_, event, _, saga, _, named, _, ⟨_, time, rfl, timely⟩, _, told, rfl, rfl, rfl, rfl,
      rfl⟩
    exact ⟨event, saga, named, time, timely, told⟩
  · rintro ⟨event, saga, named, time, timely, told⟩
    exact ⟨_, event, _, saga, _, named, _, ⟨_, time, rfl, timely⟩, _, told, rfl, rfl, rfl, rfl,
      rfl⟩

theorem given_congr (same : AgreeOn names members more) (e : Envelope) :
    e.Given more ↔ e.Given members := by
  have event := same "event_id" (by simp [names])
  have saga := same "saga_id" (by simp [names, Report.names])
  have step := same "step" (by simp [names, Report.names])
  have time := same "occurred_at" (by simp [names])
  have outcome := StepOutcome.given_congr
    (fun name counts => same name (by simp_all [names, Report.names])) e.outcome
  exact ⟨fun h => ⟨(event _).mp h.eventId, (saga _).mp h.sagaId, (step _).mp h.step,
      (time _).mp h.occurredAt, h.timely, outcome.mp h.outcome⟩,
    fun h => ⟨(event _).mpr h.eventId, (saga _).mpr h.sagaId, (step _).mpr h.step,
      (time _).mpr h.occurredAt, h.timely, outcome.mpr h.outcome⟩⟩

end Envelope

theorem decode?_of_object {bytes : ByteArray}
    (object : Json.parseBytes? bytes = some (.object members)) :
    Envelope.decode? bytes = Envelope.ofMembers? members ∧
      Report.decode? bytes = Report.ofMembers? members := by
  simp [Envelope.decode?, Report.decode?, object]

/-- An envelope is read from an object exactly when its members give that envelope: each name that
counts occurs once, with a value of its kind. The same holds of a report, for which the id and
the time of an envelope do not count. So members may stand in any order and among any others. -/
theorem read_by_names (members : Members) :
    (∀ bytes, Json.parseBytes? bytes = some (.object members) →
      Envelope.decode? bytes = Envelope.ofMembers? members ∧
        Report.decode? bytes = Report.ofMembers? members) ∧
    (∀ e, Envelope.ofMembers? members = some e ↔ e.Given members) ∧
    (∀ r, Report.ofMembers? members = some r ↔ r.Given members) ∧
    ∀ extra more : Members, more.Perm (members ++ extra) →
      ((∀ name ∈ extra.map Prod.fst, name ∉ Envelope.names) →
        Envelope.ofMembers? more = Envelope.ofMembers? members) ∧
      ((∀ name ∈ extra.map Prod.fst, name ∉ Report.names) →
        Report.ofMembers? more = Report.ofMembers? members) := by
  refine ⟨fun bytes => decode?_of_object, fun e => Envelope.ofMembers?_eq_some_iff,
    fun r => Report.ofMembers?_eq_some_iff, fun extra more same => ⟨fun unknown => ?_,
      fun unknown => ?_⟩⟩
  · refine Option.ext fun e => ?_
    rw [Envelope.ofMembers?_eq_some_iff, Envelope.ofMembers?_eq_some_iff]
    exact e.given_congr (.of_perm same unknown)
  · refine Option.ext fun r => ?_
    rw [Report.ofMembers?_eq_some_iff, Report.ofMembers?_eq_some_iff]
    exact r.given_congr (.of_perm same unknown)

/-- A failure whose status is a number. -/
def numbered : Members :=
  [("reason", .string "no funds"), ("status", .integer 1), ("occurred_at", .integer (-1)),
    ("step", .string "pay"), ("saga_id", .string "saga-1"), ("event_id", .string "evt-1")]

theorem numbered_read :
    Envelope.ofMembers? numbered = some ⟨"evt-1", "saga-1", "pay", .failed "no funds", -1⟩ ∧
    Envelope.ofMembers? (("note", .null) :: numbered.reverse) =
      some ⟨"evt-1", "saga-1", "pay", .failed "no funds", -1⟩ ∧
    Report.ofMembers? (("note", .null) :: numbered.reverse) =
      some ⟨"saga-1", "pay", .failed "no funds"⟩ := by
  obtain ⟨-, envelope, report, insensitive⟩ := read_by_names numbered
  have told : (StepOutcome.failed "no funds").Given numbered :=
    ⟨⟨.integer 1, by simp [Sole, numbered], .inr rfl⟩, by simp [Sole, numbered]⟩
  have saga : Sole numbered "saga_id" (.string "saga-1") := by simp [Sole, numbered]
  have step : Sole numbered "step" (.string "pay") := by simp [Sole, numbered]
  have whole := (envelope ⟨"evt-1", "saga-1", "pay", .failed "no funds", -1⟩).mpr
    ⟨by simp [Sole, numbered], saga, step, by simp [Sole, numbered], by decide, told⟩
  have part := (report ⟨"saga-1", "pay", .failed "no funds"⟩).mpr ⟨saga, step, told⟩
  have same : (("note", Json.null) :: numbered.reverse).Perm (numbered ++ [("note", .null)]) :=
    ((List.reverse_perm numbered).cons _).trans (List.perm_append_singleton _ _).symm
  obtain ⟨envelopes, reports⟩ := insensitive [("note", .null)] _ same
  exact ⟨whole, (envelopes (by decide)).trans whole, (reports (by decide)).trans part⟩

namespace Envelope

theorem timely_of_decode? {bytes : ByteArray} {e : Envelope} (h : decode? bytes = some e) :
    e.Timely := by
  unfold decode? at h
  split at h
  · exact (ofMembers?_eq_some_iff.mp h).timely
  · cases h

/-- The text of an envelope is an object with its members, and it is read as that envelope. So two
envelopes never have one text, and whatever has been read as an envelope is read as the same one
when it is written again. -/
theorem read_as_written :
    (∀ e : Envelope, e.Timely →
      Json.parseBytes? e.encode = some (.object e.members) ∧ decode? e.encode = some e) ∧
    (∀ e other : Envelope, e.Timely → other.Timely → e.encode = other.encode → e = other) ∧
    ∀ bytes e, decode? bytes = some e → e.Timely ∧ decode? e.encode = some e := by
  refine ⟨fun e timely => ⟨parseBytes?_encode timely, decode?_encode timely⟩,
    fun e other timely also same => ?_,
    fun bytes e read => ?_⟩
  · have read := decode?_encode timely
    rw [same, decode?_encode also] at read
    exact (Option.some.inj read).symm
  · have timely := timely_of_decode? read
    exact ⟨timely, decode?_encode timely⟩

/-- A quote, a backslash, controls, a character beyond the first plane, an empty reason and the
earliest time. -/
def awkward : Envelope := ⟨"\"1\"", "a\\b\n", "\u0001\u001f😀", .failed "", -9223372036854775808⟩

theorem awkward_read :
    awkward.Timely ∧ decode? awkward.encode = some awkward ∧
    ∀ other : Envelope, other.Timely → awkward.encode = other.encode → awkward = other := by
  have timely : awkward.Timely := by decide
  obtain ⟨written, distinct, -⟩ := read_as_written
  exact ⟨timely, (written awkward timely).2, fun other also => distinct awkward other timely also⟩

end Envelope

end OutcomeRelay
