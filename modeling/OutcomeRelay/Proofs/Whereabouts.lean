import Mathlib.Data.List.Pairwise
import OutcomeRelay.Proofs.Custody

set_option autoImplicit false

namespace OutcomeRelay

namespace Passage

def isClosing (pool : Nat) : Passage → Bool
  | released k handle kept => k = pool && handle.status = .ready && !kept
  | shut k _ => k = pool
  | _ => false

def isDrop : Passage → Bool
  | dropped _ => true
  | _ => false

def isFaithful (reg : Register) : Passage → Bool
  | handedBack k s => decide (created k s ∈ reg)
  | _ => true

end Passage

/-- Handles go back to the pool that has created them. -/
def Faithful (reg : Register) : Prop := ∀ p ∈ reg, p.isFaithful reg = true

instance (reg : Register) : Decidable (Faithful reg) :=
  inferInstanceAs (Decidable (∀ p ∈ reg, p.isFaithful reg = true))

def createdBy (reg : Register) (k : Nat) : Multiset SessionId :=
  arrivals (reg.filter (·.isCreation k))

def discardedBy (reg : Register) (k : Nat) : Multiset SessionId :=
  departures (reg.filter (·.isDiscard k))

def closedIn (reg : Register) (k : Nat) : Multiset SessionId :=
  departures (reg.filter (·.isClosing k))

def droppedIn (reg : Register) : Multiset SessionId := departures (reg.filter (·.isDrop))

/-- The handles of the pool that whoever had them has let go of, so that they never come back. -/
def droppedBy (reg : Register) (k : Nat) : Multiset SessionId :=
  (droppedIn reg).filter (· ∈ createdBy reg k)

namespace Activity

def closing : Activity → List Handle
  | draining handles _ => handles
  | _ => []

def lent : Activity → List Handle
  | draining _ _ => []
  | activity => activity.handles

theorem sessionsOf_handles (activity : Activity) :
    sessionsOf activity.handles = sessionsOf activity.lent + sessionsOf activity.closing := by
  cases activity <;> simp [handles, lent, closing]

theorem ofPool_of_closing {activity : Activity} {g : Handle} (hg : g ∈ activity.closing) :
    g ∈ activity.ofPool := by
  cases activity with
  | draining handles closed => exact hg
  | _ => simp [closing] at hg

theorem Orderly.closed_of_closing {pool : Pool} {activity : Activity} (h : activity.Orderly pool)
    {g : Handle} (hg : g ∈ activity.closing) : pool.isClosed = true := by
  cases activity with
  | draining handles closed =>
    cases handles with
    | nil => simp [closing] at hg
    | cons handle handles => exact h
  | _ => simp [closing] at hg

end Activity

namespace World

def lent (w : World) : Multiset SessionId :=
  (w.tasks.map fun task => sessionsOf task.activity.lent).sum +
    sessionsOf (Slots.contents w.handles)

def lentBy (w : World) (reg : Register) (k : Nat) : Multiset SessionId :=
  w.lent.filter (· ∈ createdBy reg k)

def closing (w : World) (k : Nat) : Multiset SessionId :=
  ((w.tasks.filter (·.service = k)).map fun task => sessionsOf task.activity.closing).sum

def closedBy (w : World) (reg : Register) (k : Nat) : Multiset SessionId :=
  w.closing k + closedIn reg k

end World

theorem departures_filter (p : Passage → Bool) (reg : Register) :
    departures reg = departures (reg.filter p) + departures (reg.filter (!p ·)) := by
  have perm := (List.filter_append_perm p reg).filterMap Passage.gone?
  rw [← departures_append]
  exact Multiset.coe_eq_coe.mpr perm.symm

theorem mem_createdBy {reg : Register} {k : Nat} {s : SessionId} :
    s ∈ createdBy reg k ↔ .created k s ∈ reg := by
  simp only [createdBy, arrivals, Multiset.mem_coe, List.mem_filterMap, List.mem_filter]
  constructor
  · rintro ⟨p, ⟨hp, creation⟩, makes⟩
    cases p with
    | created j t =>
      obtain rfl : j = k := by simpa [Passage.isCreation] using creation
      obtain rfl : t = s := by simpa [Passage.made?] using makes
      exact hp
    | _ => simp [Passage.isCreation] at creation
  · intro hp
    exact ⟨_, ⟨hp, by simp [Passage.isCreation]⟩, rfl⟩

theorem createdBy_le (reg : Register) (k : Nat) : createdBy reg k ≤ arrivals reg :=
  Multiset.coe_le.mpr (List.filter_sublist.filterMap _).subperm

theorem created_once {reg : Register} (once : (arrivals reg).Nodup) {j k : Nat} {s : SessionId}
    (hj : .created j s ∈ reg) (hk : .created k s ∈ reg) : j = k := by
  have pairwise := List.pairwise_filterMap.mp (Multiset.coe_nodup.mp once)
  have symmetric : Std.Symm fun p q : Passage =>
      ∀ b, p.made? = some b → ∀ b', q.made? = some b' → b ≠ b' :=
    ⟨fun _ _ h b hb b' hb' => (h b' hb' b hb).symm⟩
  by_contra different
  exact pairwise.forall hj hk (by simpa using different) s rfl s rfl rfl

theorem World.Entitled.created {reg : Register} (faithful : Faithful reg) {k : Nat} {s : SessionId}
    (h : Entitled reg k s) : .created k s ∈ reg := by
  rcases h with created | back
  · exact created
  · simpa [Passage.isFaithful] using faithful _ back

def Elsewhere (reg : Register) (k : Nat) (others : Multiset SessionId) : Prop :=
  ∀ s ∈ others, ∃ j, j ≠ k ∧ .created j s ∈ reg

theorem Elsewhere.not_mem {reg : Register} {k : Nat} {others : Multiset SessionId}
    (h : Elsewhere reg k others) (once : (arrivals reg).Nodup) {s : SessionId}
    (hs : s ∈ createdBy reg k) : others.count s = 0 := by
  refine Multiset.count_eq_zero.mpr fun mem => ?_
  obtain ⟨j, different, created⟩ := h s mem
  exact different (created_once once created (mem_createdBy.mp hs))

theorem mem_sum_sessions {α : Type} {f : α → List Handle} {l : List α} {s : SessionId}
    (hs : s ∈ (l.map fun a => sessionsOf (f a)).sum) : ∃ a ∈ l, ∃ g ∈ f a, g.session = s := by
  rw [← sessionsOf_flatMap] at hs
  obtain ⟨g, hg, rfl⟩ := List.mem_map.mp (Multiset.mem_coe.mp hs)
  obtain ⟨a, ha, here⟩ := List.mem_flatMap.mp hg
  exact ⟨a, ha, g, here, rfl⟩

namespace World

variable {w : World} {reg : Register} {k : Nat} {service : Service}

theorem Attributed.idle_split (h : w.Attributed reg) (faithful : Faithful reg)
    (hs : w.services[k]? = some service) :
    ∃ others, (w.services.map fun service => sessionsOf service.pool.idle).sum =
      sessionsOf service.pool.idle + others ∧ Elsewhere reg k others := by
  refine ⟨_, sum_map_eq_add (fun service : Service => sessionsOf service.pool.idle) hs, ?_⟩
  intro s mem
  obtain ⟨other, ho, g, hg, rfl⟩ := mem_sum_sessions mem
  obtain ⟨j, different, hj⟩ := List.mem_eraseIdx_iff_getElem?.mp ho
  exact ⟨j, different, (h.idle j other hj g hg).created faithful⟩

theorem Attributed.closing_split (h : w.Attributed reg) (faithful : Faithful reg) (k : Nat) :
    ∃ others, (w.tasks.map fun task => sessionsOf task.activity.closing).sum =
      w.closing k + others ∧ Elsewhere reg k others := by
  refine ⟨_, sum_map_filter (fun task : Task => decide (task.service = k)) _ _, ?_⟩
  intro s mem
  obtain ⟨task, ht, g, hg, rfl⟩ := mem_sum_sessions mem
  obtain ⟨member, different⟩ := List.mem_filter.mp ht
  exact ⟨task.service, by simpa using different,
    (h.tasks task member g (Activity.ofPool_of_closing hg)).created faithful⟩

theorem Attributed.gone_split (h : w.Attributed reg) (faithful : Faithful reg) (k : Nat) :
    ∃ others, departures reg = discardedBy reg k + closedIn reg k + droppedIn reg + others ∧
      Elsewhere reg k others := by
  let rest := reg.filter (!Passage.isDiscard k ·)
  have closed : rest.filter (·.isClosing k) = reg.filter (·.isClosing k) := by
    rw [List.filter_filter]
    refine List.filter_congr fun p _ => ?_
    cases p <;> simp +contextual [Passage.isDiscard, Passage.isClosing]
  have dropped : (rest.filter (!Passage.isClosing k ·)).filter (·.isDrop) =
      reg.filter (·.isDrop) := by
    rw [List.filter_filter, List.filter_filter]
    refine List.filter_congr fun p _ => ?_
    cases p <;> simp [Passage.isDiscard, Passage.isClosing, Passage.isDrop]
  refine ⟨departures ((rest.filter (!Passage.isClosing k ·)).filter (!Passage.isDrop ·)), ?_, ?_⟩
  · rw [departures_filter (·.isDiscard k) reg, departures_filter (·.isClosing k) rest, closed,
      departures_filter (·.isDrop) (rest.filter (!Passage.isClosing k ·)), dropped]
    simp only [discardedBy, closedIn, droppedIn, add_assoc]
  · intro s mem
    obtain ⟨p, hp, gone⟩ := List.mem_filterMap.mp (Multiset.mem_coe.mp mem)
    simp only [rest, List.mem_filter] at hp
    obtain ⟨⟨⟨hp, kept⟩, still⟩, held⟩ := hp
    cases p with
    | released j handle retained =>
      obtain ⟨rfl, rfl⟩ : retained = false ∧ handle.session = s := by
        simpa [Passage.gone?] using gone
      refine ⟨j, ?_, (h.released j handle false hp).created faithful⟩
      rintro rfl
      by_cases ready : handle.status = .ready <;>
        simp [Passage.isDiscard, Passage.isClosing, ready] at kept still
    | shut j t =>
      obtain rfl : t = s := by simpa [Passage.gone?] using gone
      refine ⟨j, ?_, (h.shut j t hp).created faithful⟩
      rintro rfl
      simp [Passage.isClosing] at still
    | dropped t => simp [Passage.isDrop] at held
    | created | madeAside | handedBack => simp [Passage.gone?] at gone

/-- What the pool has, has discarded or has closed are handles that it has created. -/
theorem Attributed.created_of_mem (h : w.Attributed reg) (faithful : Faithful reg)
    (hs : w.services[k]? = some service) {s : SessionId}
    (mem : s ∈ sessionsOf service.pool.idle + discardedBy reg k + w.closedBy reg k) :
    s ∈ createdBy reg k := by
  refine mem_createdBy.mpr ?_
  simp only [closedBy, Multiset.mem_add] at mem
  rcases mem with (idle | discarded) | closing | closed
  · obtain ⟨g, hg, rfl⟩ := List.mem_map.mp (Multiset.mem_coe.mp idle)
    exact (h.idle k service hs g hg).created faithful
  · obtain ⟨p, hp, gone⟩ := List.mem_filterMap.mp (Multiset.mem_coe.mp discarded)
    obtain ⟨entry, discard⟩ := List.mem_filter.mp hp
    cases p with
    | released j handle kept =>
      obtain ⟨rfl, -⟩ : j = k ∧ _ := by simpa [Passage.isDiscard] using discard
      obtain ⟨-, rfl⟩ : kept = false ∧ handle.session = s := by simpa [Passage.gone?] using gone
      exact (h.released j handle kept entry).created faithful
    | _ => simp [Passage.isDiscard] at discard
  · obtain ⟨task, ht, g, hg, rfl⟩ := mem_sum_sessions closing
    obtain ⟨member, same⟩ := List.mem_filter.mp ht
    obtain rfl : task.service = k := by simpa using same
    exact (h.tasks task member g (Activity.ofPool_of_closing hg)).created faithful
  · obtain ⟨p, hp, gone⟩ := List.mem_filterMap.mp (Multiset.mem_coe.mp closed)
    obtain ⟨entry, closes⟩ := List.mem_filter.mp hp
    cases p with
    | released j handle kept =>
      obtain ⟨⟨rfl, -⟩, -⟩ : (j = k ∧ _) ∧ _ := by simpa [Passage.isClosing] using closes
      obtain ⟨-, rfl⟩ : kept = false ∧ handle.session = s := by simpa [Passage.gone?] using gone
      exact (h.released j handle kept entry).created faithful
    | shut j t =>
      obtain rfl : j = k := by simpa [Passage.isClosing] using closes
      obtain rfl : t = s := by simpa [Passage.gone?] using gone
      exact (h.shut j t entry).created faithful
    | _ => simp [Passage.isClosing] at closes

/-- Every handle that the pool has created is in one place. -/
theorem partition (complete : w.Complete reg) (attributed : w.Attributed reg)
    (faithful : Faithful reg) (hs : w.services[k]? = some service) :
    createdBy reg k = sessionsOf service.pool.idle + (w.lentBy reg k + droppedBy reg k) +
      discardedBy reg k + w.closedBy reg k := by
  obtain ⟨others, idle, elsewhere⟩ := attributed.idle_split faithful hs
  obtain ⟨others', closing, elsewhere'⟩ := attributed.closing_split faithful k
  obtain ⟨others'', gone, elsewhere''⟩ := attributed.gone_split faithful k
  have whole : arrivals reg = sessionsOf service.pool.idle + others +
      (w.lent + (w.closing k + others')) +
      (discardedBy reg k + closedIn reg k + droppedIn reg + others'') := by
    rw [← complete.balanced, kept_eq, idle, gone, ← closing, lent]
    simp only [Activity.sessionsOf_handles, List.sum_map_add]
    abel
  have once := complete.once
  have part := createdBy_le reg k
  ext s
  by_cases mem : s ∈ createdBy reg k
  · have all := Multiset.count_eq_one_of_mem once (Multiset.mem_of_le part mem)
    have one := Multiset.count_eq_one_of_mem (Multiset.nodup_of_le part once) mem
    rw [whole] at all
    simp only [lentBy, droppedBy, closedBy, Multiset.count_add, Multiset.count_filter, mem, if_true,
      elsewhere.not_mem once mem, elsewhere'.not_mem once mem, elsewhere''.not_mem once mem]
      at all ⊢
    omega
  · have absent := Multiset.count_eq_zero.mpr (mt (attributed.created_of_mem faithful hs) mem)
    simp only [lentBy, droppedBy, closedBy, Multiset.count_add, Multiset.count_filter, mem,
      if_false, Multiset.count_eq_zero.mpr mem] at absent ⊢
    omega

theorem Bookkept.counters (h : w.Bookkept reg) (hs : w.services[k]? = some service) :
    service.pool.created = (createdBy reg k).card ∧
    service.pool.discarded = (discardedBy reg k).card := by
  have recorded := h.pools k service hs
  rw [recorded.created, recorded.discarded]
  constructor
  · refine (length_filterMap_filter fun p _ creation => ?_).symm
    cases p with
    | created j s => rfl
    | _ => simp [Passage.isCreation] at creation
  · refine (length_filterMap_filter fun p hp discard => ?_).symm
    cases p with
    | released j handle kept =>
      cases kept with
      | false => rfl
      | true => simp [Passage.isDiscard, h.ready j handle hp] at discard
    | _ => simp [Passage.isDiscard] at discard

theorem Bookkept.isClosed (h : w.Bookkept reg) (hs : w.services[k]? = some service)
    (closes : w.closedBy reg k ≠ 0) : service.pool.isClosed = true := by
  obtain ⟨s, mem⟩ := Multiset.exists_mem_of_ne_zero closes
  rcases Multiset.mem_add.mp mem with closing | closed
  · obtain ⟨task, ht, g, hg, -⟩ := mem_sum_sessions closing
    obtain ⟨member, same⟩ := List.mem_filter.mp ht
    obtain rfl : task.service = k := by simpa using same
    exact (h.orderly task member service hs).closed_of_closing hg
  · obtain ⟨p, hp, gone⟩ := List.mem_filterMap.mp (Multiset.mem_coe.mp closed)
    obtain ⟨entry, closes⟩ := List.mem_filter.mp hp
    have recorded := h.pools k service hs
    cases p with
    | released j handle kept =>
      obtain ⟨⟨rfl, ready⟩, rfl⟩ : (j = k ∧ handle.status = .ready) ∧ kept = false := by
        simpa [Passage.isClosing] using closes
      exact recorded.released handle entry ready
    | shut j t =>
      obtain rfl : j = k := by simpa [Passage.isClosing] using closes
      exact recorded.shut t entry
    | _ => simp [Passage.isClosing] at closes

end World

def Demand.session? : Demand → Option SessionId
  | .answer session _ _ _ => some session
  | _ => none

namespace World

variable {w : World}

theorem Owned.calls_apart (h : w.Owned) {i j : Nat} {a b : Task} {s : SessionId}
    (ha : w.tasks[i]? = some a) (hb : w.tasks[j]? = some b)
    (asks : (w.demand a).session? = some s) (asks' : (w.demand b).session? = some s) : i = j := by
  have held {task : Task} (asks : (w.demand task).session? = some s) :
      ∃ id, (s, some id) ∈ task.held := by
    cases hd : w.demand task with
    | answer session id request limit =>
      obtain rfl : session = s := by simpa [hd, Demand.session?] using asks
      exact ⟨id, (asks_of_demand hd).mem_held task.answer⟩
    | connection | pause | turn | rest => simp [hd, Demand.session?] at asks
  obtain ⟨id, here⟩ := held asks
  obtain ⟨id', there⟩ := held asks'
  by_contra different
  have besides : (s, some id') ∈ w.heldBesides i := by
    simp only [heldBesides, Multiset.mem_add]
    exact .inl (.inl (.inr (mem_heldOthers i hb (Ne.symm different) there)))
  exact h.apart (held_add_heldBesides ha).le here besides rfl

end World

namespace FreeRun

variable (r : FreeRun)

/-- Every handle that was ever made is there or gone, and it is so once. A pool that was new counts
the handles that it has created, and as discarded those that were given back when they were not
ready. If handles go back to the pool that has created them and none is dropped, then each
handle that the pool has created is in one place, and once: idle, lent, discarded or closed, and
the last of these only since the pool is closed. No two tasks ask one session at once. -/
theorem handles_accounted (new : ∀ service ∈ r.services, service.pool = {}) :
    ((arrivals r.register).Nodup ∧
      r.world.kept + departures r.register = arrivals r.register) ∧
    (∀ k service, r.world.services[k]? = some service →
      service.pool.discarded = r.register.countP (·.isDiscard k) ∧
      (Faithful r.register →
        (createdBy r.register k).Nodup ∧
        createdBy r.register k = sessionsOf service.pool.idle +
          (r.world.lentBy r.register k + droppedBy r.register k) + discardedBy r.register k +
          r.world.closedBy r.register k ∧
        service.pool.created = service.pool.idle.length +
          ((r.world.lentBy r.register k).card + (droppedBy r.register k).card) +
          service.pool.discarded + (r.world.closedBy r.register k).card ∧
        (r.world.closedBy r.register k ≠ 0 → service.pool.isClosed = true))) ∧
    ∀ (i j : Nat) (a b : Task) (s : SessionId), r.world.tasks[i]? = some a →
      r.world.tasks[j]? = some b → (r.world.demand a).session? = some s →
      (r.world.demand b).session? = some s → i = j := by
  have complete := r.complete
  have bookkept := r.bookkept new
  refine ⟨⟨complete.once, complete.balanced⟩, fun k service hs => ?_, ?_⟩
  · obtain ⟨created, discarded⟩ := bookkept.counters hs
    refine ⟨(bookkept.pools k service hs).discarded, fun faithful => ?_⟩
    have partition := World.partition complete r.attributed faithful hs
    refine ⟨Multiset.nodup_of_le (createdBy_le _ _) complete.once, partition, ?_,
      bookkept.isClosed hs⟩
    have numbers := congrArg Multiset.card partition
    simp only [Multiset.card_add] at numbers ⊢
    rw [created, discarded, numbers]
    simp [sessionsOf]
  · intro i j a b s ha hb asks asks'
    exact r.owned.calls_apart ha hb asks asks'

end FreeRun

/-- Three handles are borrowed: one comes back fatal and one ready before the pool is closed, and
one is not given back. -/
def Run.threeBorrows : Run :=
  hasty 0 [.start 0 (.borrow "a") false, .proceed 0, .effect 0, .deliver 0, .effect 0, .deliver 0,
    .start 0 (.borrow "b") false, .proceed 1, .effect 1, .deliver 1, .effect 1, .deliver 1,
    .start 0 (.borrow "c") false, .proceed 2, .effect 2, .deliver 2, .effect 2, .deliver 2,
    .markFatal "a", .start 0 (.release "a") false, .proceed 3, .effect 3, .deliver 3,
    .start 0 (.release "b") false, .proceed 4, .start 0 .shutdown false]

theorem Run.threeBorrows_accounted :
    ∃ service, threeBorrows.free.world.services[0]? = some service ∧
      service.pool.created = 3 ∧ service.pool.discarded = 1 ∧
      (threeBorrows.free.world.lentBy threeBorrows.free.register 0).card = 1 ∧
      (threeBorrows.free.world.closedBy threeBorrows.free.register 0).card = 1 ∧
      service.pool.created = service.pool.idle.length +
        ((threeBorrows.free.world.lentBy threeBorrows.free.register 0).card +
          (droppedBy threeBorrows.free.register 0).card) +
        service.pool.discarded +
        (threeBorrows.free.world.closedBy threeBorrows.free.register 0).card ∧
      service.pool.isClosed = true := by
  have new : ∀ service ∈ threeBorrows.free.services, service.pool = {} := by decide +kernel
  have faithful : Faithful threeBorrows.free.register := by decide +kernel
  have counts : threeBorrows.free.world.services[0]?.map
      (fun service => (service.pool.created, service.pool.discarded)) = some (3, 1) := by
    decide +kernel
  have lent : (threeBorrows.free.world.lentBy threeBorrows.free.register 0).card = 1 := by
    decide +kernel
  have closed : (threeBorrows.free.world.closedBy threeBorrows.free.register 0).card = 1 := by
    decide +kernel
  obtain ⟨service, hs, counters⟩ := Option.map_eq_some_iff.mp counts
  obtain ⟨created, discarded⟩ := Prod.mk.inj counters
  obtain ⟨-, pools, -⟩ := threeBorrows.free.handles_accounted new
  obtain ⟨-, accounted⟩ := pools 0 service hs
  obtain ⟨-, -, numbers, isClosed⟩ := accounted faithful
  refine ⟨service, hs, created, discarded, lent, closed, numbers, isClosed fun none_closed => ?_⟩
  rw [none_closed] at closed
  simp at closed

end OutcomeRelay
