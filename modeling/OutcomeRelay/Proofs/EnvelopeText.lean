import OutcomeRelay.Proofs.JsonText

set_option autoImplicit false

namespace OutcomeRelay

theorem Json.fromUTF8?_toUTF8 (s : String) : String.fromUTF8? s.toUTF8 = some s :=
  dif_pos s.isValidUTF8

theorem Json.single?_of_mem {members : List (String × Json)} {name : String} {x : Json}
    (nodup : (members.map Prod.fst).Nodup) (mem : (name, x) ∈ members) :
    single? members name = some x := by
  have only : members.filter (fun member => member.1 = name) = [(name, x)] := by
    induction members with
    | nil => cases mem
    | cons member members ih =>
      obtain ⟨fresh, nodup⟩ := List.nodup_cons.mp nodup
      rcases List.mem_cons.mp mem with rfl | later
      · have others : members.filter (fun member => member.1 = name) = [] :=
          List.filter_eq_nil_iff.mpr fun other ho same =>
            fresh (List.mem_map.mpr ⟨other, ho, of_decide_eq_true same⟩)
        simp [others]
      · have other : member.1 ≠ name := fun same =>
          fresh (same ▸ List.mem_map_of_mem later)
        rw [List.filter_cons_of_neg (by simpa using other), ih nodup later]
  simp [single?, only]

namespace Envelope

open Json (Part signBit)

def textPart (name value : String) : Part := ⟨name, Json.quote value, .string value⟩

theorem textPart_readable (name value : String) : (textPart name value).Readable :=
  fun fuel depth c rest _ => Json.readValue?_quote fuel depth value (c :: rest)

def timePart (occurredAt : Int) : Part :=
  ⟨"occurred_at", integerText occurredAt, .integer occurredAt⟩

/-- The time of an envelope is a signed integer of 64 bits. -/
def Timely (e : Envelope) : Prop := -(signBit : Int) ≤ e.occurredAt ∧ e.occurredAt < signBit

instance (e : Envelope) : Decidable e.Timely := inferInstanceAs (Decidable (_ ∧ _))

theorem timePart_readable {e : Envelope} (timely : e.Timely) :
    (timePart e.occurredAt).Readable := by
  intro fuel depth c rest follows
  refine Json.readValue?_integerText fuel depth timely.1 timely.2 fun first here => ?_
  obtain rfl : c = first := Option.some.inj here
  rcases follows with rfl | rfl <;> decide

def outcomeParts : StepOutcome → List Part
  | .succeeded => [textPart "status" "succeeded"]
  | .failed reason => [textPart "status" "failed", textPart "reason" reason]

def parts (e : Envelope) : List Part :=
  [textPart "event_id" e.eventId, textPart "saga_id" e.sagaId, textPart "step" e.step] ++
    outcomeParts e.outcome ++ [timePart e.occurredAt]

theorem fields_eq (e : Envelope) : e.fields = e.parts.map Part.written := by
  unfold fields parts
  cases e.outcome <;> rfl

theorem parts_readable {e : Envelope} (timely : e.Timely) : ∀ part ∈ e.parts, part.Readable := by
  have outcome : ∀ part ∈ outcomeParts e.outcome, part.Readable := by
    cases e.outcome <;> simp [outcomeParts, textPart_readable]
  intro part mem
  rcases List.mem_append.mp mem with before | time
  · rcases List.mem_append.mp before with named | told
    · simp only [List.mem_cons, List.not_mem_nil, or_false] at named
      rcases named with rfl | rfl | rfl <;> exact textPart_readable _ _
    · exact outcome part told
  · exact List.mem_singleton.mp time ▸ timePart_readable timely

theorem names_nodup (e : Envelope) : ((e.parts.map Part.member).map Prod.fst).Nodup := by
  unfold parts
  cases e.outcome
  · exact (by decide : ["event_id", "saga_id", "step", "status", "occurred_at"].Nodup)
  · exact (by decide : ["event_id", "saga_id", "step", "status", "reason", "occurred_at"].Nodup)

theorem single?_part {e : Envelope} {part : Part} (mem : part ∈ e.parts) :
    Json.single? (e.parts.map Part.member) part.name = some part.value :=
  Json.single?_of_mem e.names_nodup (List.mem_map_of_mem mem)

theorem singleString?_part {e : Envelope} {name value : String}
    (mem : textPart name value ∈ e.parts) :
    Json.singleString? (e.parts.map Part.member) name = some value := by
  have single : Json.single? (e.parts.map Part.member) name = some (.string value) :=
    single?_part mem
  rw [Json.singleString?, single]
  rfl

theorem ofMembers?_outcome (e : Envelope) :
    StepOutcome.ofMembers? (e.parts.map Part.member) = some e.outcome := by
  have told (part : Part) (mem : part ∈ outcomeParts e.outcome) : part ∈ e.parts := by
    simp [parts, mem]
  cases outcome : e.outcome with
  | succeeded =>
    have status : Json.single? (e.parts.map Part.member) "status" = some (.string "succeeded") :=
      single?_part (told (textPart "status" "succeeded") (by simp [outcome, outcomeParts]))
    simp [StepOutcome.ofMembers?, status, StepOutcome.Tag.read?, StepOutcome.Tag.name]
  | failed reason =>
    have status : Json.single? (e.parts.map Part.member) "status" = some (.string "failed") :=
      single?_part (told (textPart "status" "failed") (by simp [outcome, outcomeParts]))
    have cause : Json.singleString? (e.parts.map Part.member) "reason" = some reason :=
      singleString?_part (told (textPart "reason" reason) (by simp [outcome, outcomeParts]))
    simp [StepOutcome.ofMembers?, status, cause, StepOutcome.Tag.read?, StepOutcome.Tag.name]

theorem ofMembers?_parts {e : Envelope} (timely : e.Timely) :
    ofMembers? (e.parts.map Part.member) = some e := by
  have time : Json.single? (e.parts.map Part.member) "occurred_at" =
      some (.integer e.occurredAt) := by
    have mem : timePart e.occurredAt ∈ e.parts := by simp [parts]
    exact single?_part mem
  have bounded : Json.int64? (.integer e.occurredAt) = some e.occurredAt := if_pos timely
  have event : Json.singleString? (e.parts.map Part.member) "event_id" = some e.eventId :=
    singleString?_part (by simp [parts])
  have saga : Json.singleString? (e.parts.map Part.member) "saga_id" = some e.sagaId :=
    singleString?_part (by simp [parts])
  have step : Json.singleString? (e.parts.map Part.member) "step" = some e.step :=
    singleString?_part (by simp [parts])
  simp [ofMembers?, event, saga, step, time, bounded, ofMembers?_outcome]

def outcomeMembers : StepOutcome → List (String × Json)
  | .succeeded => [("status", .string "succeeded")]
  | .failed reason => [("status", .string "failed"), ("reason", .string reason)]

def members (e : Envelope) : List (String × Json) :=
  [("event_id", .string e.eventId), ("saga_id", .string e.sagaId), ("step", .string e.step)] ++
    outcomeMembers e.outcome ++ [("occurred_at", .integer e.occurredAt)]

theorem members_eq (e : Envelope) : e.parts.map Part.member = e.members := by
  unfold parts members
  cases e.outcome <;> rfl

theorem parseBytes?_encode {e : Envelope} (timely : e.Timely) :
    Json.parseBytes? e.encode = some (.object e.members) := by
  have text : String.fromUTF8? e.encode = some (String.ofList e.encodeChars) :=
    Json.fromUTF8?_toUTF8 _
  have nonempty : e.parts ≠ [] := by simp [parts]
  have object := Json.parse?_object nonempty (parts_readable timely)
  rw [← fields_eq] at object
  simp [Json.parseBytes?, text, encodeChars, object, members_eq]

theorem decode?_encode {e : Envelope} (timely : e.Timely) : decode? e.encode = some e := by
  simp [decode?, parseBytes?_encode timely, ← members_eq, ofMembers?_parts timely]

end Envelope

end OutcomeRelay
