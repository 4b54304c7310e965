import OutcomeRelay.Proofs.Naming

set_option autoImplicit false

namespace OutcomeRelay.IdSource

inductive Call where
  | number
  | id (base : String)
deriving DecidableEq

inductive Answer where
  | number (n : Nat)
  | id (text : String)
deriving DecidableEq

def Call.answer (n : Nat) : Call → Answer
  | number => .number n
  | id base => .id (idText base n)

def serve (source : IdSource) : Call → Answer × IdSource
  | .number => (.number source.next.1, source.next.2)
  | .id base => (.id (source.nextId base).1, (source.nextId base).2)

def answers (source : IdSource) : List Call → List Answer
  | [] => []
  | call :: calls => (source.serve call).1 :: (source.serve call).2.answers calls

/-- The answers of a counter in a word of 64 bits, which starts again from zero at its end. -/
def wordAnswers (issued : UInt64) : List Call → List Answer
  | [] => []
  | call :: calls => call.answer (issued + 1).toNat :: wordAnswers (issued + 1) calls

theorem serve_eq (source : IdSource) (call : Call) :
    source.serve call = (call.answer (source.issued + 1), ⟨source.issued + 1⟩) := by
  cases call <;> rfl

theorem answers_eq (source : IdSource) (calls : List Call) :
    source.answers calls = calls.mapIdx fun k call => call.answer (source.issued + (k + 1)) := by
  induction calls generalizing source with
  | nil => rfl
  | cons call calls ih =>
    rw [answers, serve_eq, ih, List.mapIdx_cons]
    simp only [Nat.add_assoc, Nat.add_comm 1]

theorem wordAnswers_eq {source : IdSource} {issued : UInt64} {calls : List Call}
    (same : issued.toNat = source.issued) (fewer : source.issued + calls.length < UInt64.size) :
    wordAnswers issued calls = source.answers calls := by
  induction calls generalizing source issued with
  | nil => rfl
  | cons call calls ih =>
    -- The word has not been used up yet, so the next number is one more in it as well.
    rw [List.length_cons] at fewer
    have next : (issued + 1).toNat = source.issued + 1 := by
      rw [UInt64.toNat_add, same]
      exact Nat.mod_eq_of_lt (show source.issued + 1 < UInt64.size by omega)
    rw [wordAnswers, answers, serve_eq, next, ih next (by simp only; omega)]

theorem answer_inj {call call' : Call} {n n' : Nat} (same : call.answer n = call'.answer n') :
    n = n' := by
  cases call with
  | number =>
    cases call' with
    | number => exact Answer.number.inj same
    | id base => cases same
  | id base =>
    cases call' with
    | number => cases same
    | id base' => exact (idText_inj.mp (Answer.id.inj same)).2

theorem answers_nodup (source : IdSource) (calls : List Call) : (source.answers calls).Nodup := by
  rw [answers_eq]
  refine List.pairwise_iff_getElem.mpr fun i j hi hj earlier same => ?_
  simp only [List.getElem_mapIdx] at same
  have number := answer_inj same
  omega

/-- The calls of a new source take the numbers from one on, and no two of its answers are equal; a
text tells base and number of an id, so that ids with different bases differ wherever they come
from. -/
theorem never_collide {calls : List Call} (fewer : calls.length < UInt64.size - 1) :
    wordAnswers 0 calls = answers {} calls ∧
    (∀ (k : Nat) (h : k < calls.length), (answers {} calls)[k]? = some (calls[k].answer (k + 1))) ∧
    (answers {} calls).Nodup ∧
    (∀ (base base' : String) (n n' : Nat),
      idText base n = idText base' n' ↔ base = base' ∧ n = n') ∧
    ∀ (source other : IdSource) (base base' : String), base ≠ base' →
      (source.nextId base).1 ≠ (other.nextId base').1 := by
  refine ⟨wordAnswers_eq rfl (by simp only; omega), fun k h => ?_, answers_nodup _ _,
    fun _ _ _ _ => idText_inj, fun _ _ _ _ different same => ?_⟩
  · simp [answers_eq, List.getElem?_eq_getElem h]
  · exact different (idText_inj.mp same).1

/-- Calls for numbers and for ids, of which one base ends in a number itself. -/
theorem mixed_never_collide :
    [Call.number, .id "svc", .id "svc-1", .number, .id "svc"].length < UInt64.size - 1 ∧
    wordAnswers 0 [.number, .id "svc", .id "svc-1", .number, .id "svc"] =
      [.number 1, .id "svc-2", .id "svc-1-3", .number 4, .id "svc-5"] ∧
    (answers {} [.number, .id "svc", .id "svc-1", .number, .id "svc"]).Nodup ∧
    "svc" ≠ "svc-1" ∧ idText "svc-1" 12 ≠ idText "svc" 12 := by
  have fewer : [Call.number, .id "svc", .id "svc-1", .number, .id "svc"].length < UInt64.size - 1 :=
    by decide
  obtain ⟨words, -, apart, -, bases⟩ := never_collide fewer
  exact ⟨fewer, words.trans (by decide), apart, by decide, bases ⟨11⟩ ⟨11⟩ _ _ (by decide)⟩

end OutcomeRelay.IdSource
