import Mathlib.Algebra.BigOperators.Group.List.Basic
import Mathlib.Algebra.Order.Group.Multiset
import Mathlib.Data.List.Induction

set_option autoImplicit false

namespace OutcomeRelay

/-- What stands behind the last of the marks, and what before it. -/
theorem append_cons_inj {α : Type} {mark : α} {before before' after after' : List α}
    (h : before ++ mark :: after = before' ++ mark :: after') (last : mark ∉ after)
    (last' : mark ∉ after') : before = before' ∧ after = after' := by
  rcases List.append_eq_append_iff.mp h with ⟨between, rfl, split⟩ | ⟨between, rfl, split⟩
  · cases between with
    | nil => simp_all
    | cons first between =>
      obtain ⟨-, rfl⟩ : mark = first ∧ after = between ++ mark :: after' := by simpa using split
      simp at last
  · cases between with
    | nil => simp_all
    | cons first between =>
      obtain ⟨-, rfl⟩ : mark = first ∧ after' = between ++ mark :: after := by simpa using split
      simp at last'

theorem getElem?_concat_ne {α : Type} {l : List α} {a : α} {i : Nat} (h : i ≠ l.length) :
    (l ++ [a])[i]? = l[i]? := by
  rcases Nat.lt_or_gt_of_ne h with before | after
  · exact List.getElem?_append_left before
  · rw [List.getElem?_eq_none after.le]
    exact List.getElem?_eq_none (by simpa using Nat.succ_le_of_lt after)

theorem set_getElem?_self {α : Type} {l : List α} {k : Nat} {a : α} (h : l[k]? = some a) :
    l.set k a = l := by
  obtain ⟨hk, rfl⟩ := List.getElem?_eq_some_iff.mp h
  exact List.set_getElem_self hk

theorem modify_eq_set {α : Type} (f : α → α) {l : List α} {i : Nat} {a : α} (h : l[i]? = some a) :
    l.modify i f = l.set i (f a) := by
  simp [List.modify_eq_set_getElem?, h]

theorem mem_of_lookup {α β : Type} [BEq α] [LawfulBEq α] {entries : List (α × β)} {name : α}
    {x : β} (h : entries.lookup name = some x) : (name, x) ∈ entries := by
  obtain ⟨before, after, rfl, _⟩ := List.lookup_eq_some_iff.mp h
  simp

theorem countP_range {α : Type} (p : α → Bool) (l : List α) :
    (List.range l.length).countP (fun i => l[i]?.any p) = l.countP p := by
  induction l using List.reverseRecOn with
  | nil => rfl
  | append_singleton l a ih =>
    have before : (List.range l.length).countP (fun i => (l ++ [a])[i]?.any p) =
        (List.range l.length).countP fun i => l[i]?.any p :=
      List.countP_congr fun i hi => by rw [List.getElem?_append_left (List.mem_range.mp hi)]
    rw [List.length_append, List.length_singleton, List.range_succ, List.countP_append, before, ih,
      List.countP_append]
    simp

theorem length_filterMap_filter {α β : Type} {f : α → Option β} {p : α → Bool} {l : List α}
    (h : ∀ a ∈ l, p a = true → (f a).isSome = true) :
    ((l.filter p).filterMap f).length = l.countP p := by
  induction l with
  | nil => rfl
  | cons a l ih =>
    have rest := ih fun b hb => h b (List.mem_cons_of_mem _ hb)
    by_cases ha : p a = true
    · obtain ⟨b, hb⟩ := Option.isSome_iff_exists.mp (h a List.mem_cons_self ha)
      simp [ha, hb, rest]
    · simp [ha, rest]

/-- A list is what its parts are together, if its elements are told apart by numbers below `n`. -/
theorem perm_flatMap_filter {α : Type} (key : α → Option Nat) (n : Nat) (l : List α)
    (h : ∀ x ∈ l, ∃ i < n, key x = some i) :
    l.Perm ((List.range n).flatMap fun i => l.filter (key · = some i)) := by
  induction n generalizing l with
  | zero =>
    have empty : l = [] := List.eq_nil_iff_forall_not_mem.mpr fun x hx => by
      obtain ⟨i, hi, _⟩ := h x hx
      omega
    simp [empty]
  | succ n ih =>
    have low : ∀ x ∈ l.filter (key · ≠ some n), ∃ i < n, key x = some i := by
      intro x hx
      obtain ⟨hl, hn⟩ := List.mem_filter.mp hx
      obtain ⟨i, hi, hk⟩ := h x hl
      refine ⟨i, ?_, hk⟩
      rcases Nat.lt_succ_iff_lt_or_eq.mp hi with below | rfl
      · exact below
      · simp [hk] at hn
    have parts : (List.range n).flatMap (fun i =>
        (l.filter (key · ≠ some n)).filter (key · = some i)) =
          (List.range n).flatMap fun i => l.filter (key · = some i) := by
      refine List.flatMap_congr fun i hi => ?_
      have below := List.mem_range.mp hi
      rw [List.filter_filter]
      refine List.filter_congr fun x _ => ?_
      by_cases same : key x = some i
      · simp [same, below.ne]
      · simp [same]
    have lower := ih _ low
    rw [parts] at lower
    have split := (List.filter_append_perm (fun x => decide (key x = some n)) l).symm
    rw [List.range_succ, List.flatMap_append, List.flatMap_singleton]
    refine split.trans (List.perm_append_comm.trans (List.Perm.append_right _ ?_))
    simpa using lower

theorem sum_map_eq_add {α M : Type} [AddCommMonoid M] (f : α → M) {l : List α} {i : Nat} {a : α}
    (h : l[i]? = some a) : (l.map f).sum = f a + ((l.eraseIdx i).map f).sum := by
  obtain ⟨hi, rfl⟩ := List.getElem?_eq_some_iff.mp h
  exact (((List.getElem_cons_eraseIdx_perm hi).map f).sum_eq).symm

theorem sum_map_set {α M : Type} [AddCommMonoid M] (f : α → M) {l : List α} {i : Nat} {a : α}
    (h : l[i]? = some a) (b : α) :
    ((l.set i b).map f).sum = f b + ((l.eraseIdx i).map f).sum := by
  have new : (l.set i b)[i]? = some b :=
    List.getElem?_set_self (List.getElem?_eq_some_iff.mp h).1
  rw [sum_map_eq_add f new, List.eraseIdx_set_eq]

theorem mem_sum_map {α β : Type} {f : α → Multiset β} {l : List α} {a : α} {b : β}
    (ha : a ∈ l) (hm : b ∈ f a) : b ∈ (l.map f).sum := by
  obtain ⟨i, hi⟩ := List.mem_iff_getElem?.mp ha
  rw [sum_map_eq_add f hi]
  exact Multiset.mem_add.mpr (.inl hm)

theorem sum_map_filter {α M : Type} [AddCommMonoid M] (p : α → Bool) (f : α → M) (l : List α) :
    (l.map f).sum = ((l.filter p).map f).sum + ((l.filter (!p ·)).map f).sum := by
  have perm := ((List.filter_append_perm p l).map f).sum_eq
  rw [← perm, List.map_append, List.sum_append]

end OutcomeRelay
