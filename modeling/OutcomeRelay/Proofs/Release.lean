import OutcomeRelay.Proofs.Conclusion
import OutcomeRelay.Proofs.Handover

set_option autoImplicit false

namespace OutcomeRelay

def Activity.heard? (signal : Signal) : Activity → Option (Request × Reply)
  | transacting t => t.heard? signal
  | _ => none

namespace World

def heard? (w : World) (o : Occurrence) (i : Nat) : Option (Request × Reply) :=
  match w.tasks[i]?, w.hears? o i with
  | some task, some signal => task.activity.heard? signal
  | _, _ => none

def replies (w : World) (i : Nat) (past : Replies) : List Occurrence → Replies
  | [] => past
  | o :: later => (w.undergo o).replies i ((w.heard? o i).toList ++ past) later

theorem replies_append (w : World) (i : Nat) (past : Replies) (before after : List Occurrence) :
    w.replies i past (before ++ after) =
      (w.follow before).replies i (w.replies i past before) after := by
  induction before generalizing w past with
  | nil => rfl
  | cons o before ih => exact ih (w.undergo o) _

end World

def FreeRun.replies (r : FreeRun) (i : Nat) : Replies := r.start.replies i [] r.happenings

def Activity.InHand (retries : UInt32) (past : Replies) : Activity → Prop
  | .waiting _ _ => past = []
  | .borrowing _ => past = []
  | .creating _ _ _ => past = []
  | .transacting t => t.result? = none ∧ t.InHand retries past
  | .returning handle (.published result) => result.Tells retries past handle.status
  | _ => True

namespace Activity

variable {retries : UInt32} {past : Replies}

theorem serve_inHand {handle : Handle} (ready : handle.status = .ready) (pool : Pool)
    (purpose : Purpose) : (serve pool handle purpose).activity.InHand retries [] := by
  cases purpose with
  | publish topic payload => exact ⟨rfl, ready, rfl⟩
  | lend slot => trivial

theorem afterCreation_inHand (service : Service) (pool : Pool) (purpose : Purpose) (id : String)
    (next : Creation.Next) :
    (afterCreation service pool purpose id next).activity.InHand retries [] := by
  cases next with
  | ongoing creation => rfl
  | made session => exact serve_inHand rfl _ purpose
  | failed error => cases purpose <;> trivial

theorem borrow_inHand {service : Service} (ready : ∀ g ∈ service.pool.idle, g.status = .ready)
    (cancelled : Bool) (purpose : Purpose) :
    (borrow service cancelled purpose).activity.InHand retries [] := by
  rcases borrow_cases service cancelled purpose with h | ⟨handle, idle, taken, h⟩ | ⟨id, ids, h⟩
  · rw [h]
    cases purpose <;> trivial
  · rw [h]
    exact serve_inHand (ready handle (taken ▸ List.mem_cons_self)) _ purpose
  · rw [h]
    exact afterCreation_inHand service _ purpose id _

theorem InHand.resume {service : Service} {activity : Activity} {signal : Signal}
    (h : activity.InHand service.retry.retries past)
    (ready : ∀ g ∈ service.pool.idle, g.status = .ready)
    (ends : (activity.demand service).EndsWith signal) (cancelled : Bool) :
    (activity.resume service cancelled signal).activity.InHand service.retry.retries
      ((activity.heard? signal).toList ++ past) := by
  cases activity with
  | waiting millis purpose => exact h
  | borrowing purpose =>
    obtain rfl : past = [] := h
    exact borrow_inHand ready cancelled purpose
  | creating purpose id creation =>
    obtain rfl : past = [] := h
    exact afterCreation_inHand service _ purpose id _
  | transacting t =>
    have next : (t.resume service.retry cancelled signal).InHand service.retry.retries
      ((t.heard? signal).toList ++ past) := Transaction.InHand.resume h.2 ends cancelled
    simp only [Activity.resume, afterTransaction]
    split
    · rename_i going
      exact ⟨going, next⟩
    · rename_i ended
      exact next.tells ended
  | returning handle outcome =>
    simp only [Activity.resume]
    rcases giveBack_cases service.pool handle outcome with ⟨-, hg⟩ | ⟨discarded, -, hg⟩ <;>
      rw [hg] <;> trivial
  | retiring handle discarded outcome => trivial
  | draining handles closed => cases handles <;> trivial
  | operating slot handle request => trivial
  | making slot id attempt =>
    simp only [Activity.resume]
    cases attempt.resume service.options.operationLimit signal <;> trivial
  | ended outcome => trivial

end Activity

namespace World

variable {w next : World}

def AllReady (w : World) : Prop :=
  ∀ service ∈ w.services, ∀ handle ∈ service.pool.idle, handle.status = .ready

theorem AllReady.step (h : w.AllReady) (hstep : w.FreeStep next) : next.AllReady := by
  intro service hs handle hh
  rcases hstep.descends.idle service hs handle hh with ⟨old, ho, hi⟩ | ⟨-, ready⟩
  · exact h old ho handle hi
  · exact ready

theorem AllReady.follow (h : w.AllReady) (later : List Occurrence) : (w.follow later).AllReady :=
  follow_keeps h (fun w o h => h.step (w.undergo_step o)) later

/-- Every task fits the replies that it has heard, and a task that is still to come has heard
nothing. -/
structure Attentive (w : World) (heard : Nat → Replies) : Prop where
  tasks : ∀ (i : Nat) (task : Task) (service : Service), w.tasks[i]? = some task →
    w.service? task = some service → task.activity.InHand service.retry.retries (heard i)
  later : ∀ i, w.tasks.length ≤ i → heard i = []

theorem heard?_eq {i : Nat} {task : Task} (ht : w.tasks[i]? = some task) (o : Occurrence) :
    w.heard? o i = (w.hears? o i).bind fun signal => task.activity.heard? signal := by
  simp only [heard?, ht]
  cases w.hears? o i <;> rfl

theorem begins_inHand {base : World} {activity : Activity} {note : Option Note}
    (h : w.Begins base activity note) (retries : UInt32) : activity.InHand retries [] := by
  cases h with
  | publish millis topic payload =>
    unfold Activity.begin
    split <;> rfl
  | borrow slot => rfl
  | reject | release | operate | shutdown | create | createNext => trivial

theorem Attentive.undergo {heard : Nat → Replies} (h : w.Attentive heard) (regular : w.Regular)
    (ready : w.AllReady) (o : Occurrence) :
    (w.undergo o).Attentive fun i => (w.heard? o i).toList ++ heard i := by
  constructor
  · intro i new service hn hs
    rcases undergo_origin regular o hn with ⟨task, ht, becomes⟩ | ⟨rfl, -, -, base, note, begins⟩
    · obtain ⟨own, pool, ho, rfl⟩ := regular.service_before ht becomes hs
      have inHand := h.tasks i task own ht ho
      simp only [heard?_eq ht]
      generalize w.hears? o i = signal at becomes
      cases becomes with
      | waits activity service cancelled answer =>
        rw [activity]
        exact inHand
      | told served ends =>
        obtain rfl := Option.some.inj (ho.symm.trans served)
        rw [demand_of_service ho] at ends
        exact inHand.resume (ready own (List.mem_of_getElem? ho)) ends _
      | crashed hd text panics => trivial
    · have silent : w.heard? o w.tasks.length = none := by
        simp [heard?]
      rw [silent, h.later _ le_rfl]
      exact begins_inHand begins _
  · intro i beyond
    have before : w.tasks.length ≤ i := (length_le_undergo regular o).trans beyond
    simp [heard?, List.getElem?_eq_none before, h.later i before]

end World

namespace FreeRun

variable (r : FreeRun)

theorem replies_extend_one (o : Occurrence) (i : Nat) :
    (r.extend [o]).replies i = (r.world.heard? o i).toList ++ r.replies i :=
  r.start.replies_append i [] r.happenings [o]

theorem allReady : r.world.AllReady := by
  have idle : r.start.AllReady := by
    intro service hs handle hh
    simp [r.fresh service hs] at hh
  exact idle.follow r.happenings

theorem attentive : r.world.Attentive r.replies := by
  induction r using by_happenings with
  | idle r nothing =>
    constructor
    · simp [world, nothing, start, World.follow, World.initial]
    · intro i _
      simp [replies, nothing, World.replies]
  | happening r o ih =>
    rw [extend_one]
    simpa only [funext fun i => r.replies_extend_one o i] using ih.undergo r.regular r.allReady o

end FreeRun

theorem Status.Aborted.fatal_iff {status : Status} {retries : UInt32} {past : Replies}
    (h : status.Aborted retries past) :
    status = .fatal ↔ past.aborts.length = retries.toNat + 1 ∧
      ∀ reply ∈ past.aborts, Reply.isFailure reply = true := by
  constructor
  · rintro rfl
    rcases h with ⟨ready, -⟩ | ⟨-, failed⟩
    · simp at ready
    · exact failed
  · rintro ⟨-, failed⟩
    rcases h with ⟨-, last⟩ | ⟨fatal, -⟩
    · have success := failed (.ok ()) (List.mem_of_head? last)
      simp [Reply.isFailure] at success
    · exact fatal

theorem PublishResult.Tells.status {result : PublishResult} {retries : UInt32} {past : Replies}
    {status : Status} (h : result.Tells retries past status) :
    status = .ready ∨ status = .fatal := by
  cases result with
  | ok _ => exact .inl h
  | error error =>
    cases error with
    | begin reason => exact .inl h.1
    | fatal id reason => exact .inr h
    | aborted | retriesExhausted | cancelled | pool | interrupted =>
      rcases h.2 with ⟨ready, -⟩ | ⟨fatal, -⟩
      · exact .inl ready
      · exact .inr fatal

theorem PublishResult.Tells.aborted {error : PublishError} {retries : UInt32} {past : Replies}
    {status : Status} (h : PublishResult.Tells retries past status (.error error))
    (aborts : error.isAbort = true) : status.Aborted retries past := by
  cases error with
  | aborted | retriesExhausted | cancelled => exact h.2
  | pool | begin | fatal | interrupted => simp [PublishError.isAbort] at aborts

theorem PublishResult.Tells.last_abort {result : PublishResult} {retries : UInt32} {past : Replies}
    {status : Status} (h : result.Tells retries past status) (opened : (.begin, .ok ()) ∈ past)
    (ready : status = .ready) : result = .ok () ∨ past.aborts.head? = some (.ok ()) := by
  cases result with
  | ok _ => exact .inl rfl
  | error error =>
    cases error with
    | begin reason => exact absurd opened h.2
    | fatal id reason =>
      obtain rfl : status = .fatal := h
      simp at ready
    | aborted | retriesExhausted | cancelled | pool | interrupted =>
      rcases h.2 with ⟨-, last⟩ | ⟨fatal, -⟩
      · exact .inr last
      · simp [fatal] at ready

theorem Cluster.length_perform (c : Cluster) (s : SessionId) (request : Request) :
    (c.perform s request).2.sessions.length = c.sessions.length := by
  unfold Cluster.perform
  split
  · rfl
  · simp

def Activity.borrows : Activity → Bool
  | borrowing _ => true
  | creating _ _ _ => true
  | _ => false

namespace World

variable {w next : World} {s : SessionId}

def handsOut? (w : World) (o : Occurrence) (i : Nat) : Option Handle :=
  match w.tasks[i]?, w.hears? o i with
  | some task, some signal =>
    match w.service? task with
    | some service =>
      if task.activity.borrows then (move service task signal).handles.head? else none
    | none => none
  | _, _ => none

theorem hears?_isNews {o : Occurrence} {i : Nat} {task : Task} {signal : Signal}
    (ht : w.tasks[i]? = some task) (h : w.hears? o i = some signal) :
    signal.IsNews task.answer := by
  cases o with
  | answer index reply => simp [hears?] at h
  | event event =>
    simp only [hears?, ht] at h
    split at h
    · obtain ⟨note, told⟩ := told_of_hears i h
      exact told.isNews
    · simp at h

/-- The session has been opened, and nothing but handles that have come to their end is left of
it. -/
structure Spent (w : World) (s : SessionId) : Prop where
  opened : s < w.cluster.sessions.length
  terminal : ∀ g ∈ w.producers, g.session = s → g.status.isTerminal = true
  unattempted : ∀ hold ∈ w.attempts, hold.1 ≠ s

theorem FreeStep.sessions_le (hstep : w.FreeStep next) :
    w.cluster.sessions.length ≤ next.cluster.sessions.length := by
  cases hstep with
  | replied => exact le_rfl
  | step h =>
    cases h with
    | begun hb => rw [addTask_cluster, hb.cluster]
    | told ht hs told => rw [signal_cluster hs]
    | opened | joined => simp [putCluster, Cluster.join]
    | answered | requested => simp [putCluster, Cluster.length_perform]
    | same | tick | refused | crashed | flagged | adjusted | forgot | spoiled => exact le_rfl

theorem Spent.step (h : w.Spent s) (hstep : w.FreeStep next) : next.Spent s where
  opened := h.opened.trans_le hstep.sessions_le
  terminal g hg same := by
    rcases hstep.descends.stems hg with ⟨handle, hh, ages⟩ | ⟨hold, hm, session⟩
    · exact ages.terminal (h.terminal handle hh (ages.session.symm.trans same))
    · exact absurd (session.trans same) (h.unattempted hold hm)
  unattempted hold hm := by
    obtain ⟨task, ht, attempted⟩ := mem_attempts.mp hm
    rcases hstep.descends.attempts task ht hold attempted with old | new
    · exact h.unattempted hold old
    · rw [new]
      exact h.opened.ne'

theorem spent_of_terminal (owned : w.Owned) {handle : Handle} (hh : handle ∈ w.producers)
    (ended : handle.status.isTerminal = true) : w.Spent handle.session := by
  obtain ⟨nodup, -, apart⟩ := Multiset.nodup_add.mp owned.sessions_nodup
  have here : handle.session ∈ (↑(w.producers.map Handle.session) : Multiset SessionId) :=
    Multiset.mem_coe.mpr (List.mem_map_of_mem hh)
  refine ⟨?_, ?_, ?_⟩
  · have held : handle.hold ∈ w.held := by
      rw [held_eq]
      simp only [Multiset.mem_add, Multiset.mem_coe]
      exact .inl (.inl (List.mem_map_of_mem hh))
    exact owned.opened held
  · intro g hg same
    rw [List.inj_on_of_nodup_map (Multiset.coe_nodup.mp nodup) hg hh same]
    exact ended
  · rintro hold hm same
    exact Multiset.disjoint_left.mp apart here (same ▸ Multiset.mem_map_of_mem _ hm)

theorem Spent.session_ne (h : w.Spent s) (ready : w.AllReady) {o : Occurrence} {i : Nat}
    {lent : Handle} (hl : w.handsOut? o i = some lent) : lent.session ≠ s := by
  unfold handsOut? at hl
  split at hl
  · rename_i task signal ht heard
    split at hl
    · rename_i service hs
      split at hl
      · rename_i borrows
        have moves := task.activity.resume_moves service task.cancelled (hears?_isNews ht heard)
        have member : task ∈ w.tasks := List.mem_of_getElem? ht
        have serves : service ∈ w.services := List.mem_of_getElem? hs
        intro same
        rcases moves.origin (List.mem_of_head? hl) with ⟨handle, hh, -⟩ | idle | ⟨hold, hm, session⟩
        · cases ha : task.activity <;> simp [ha, Activity.borrows, Activity.handles] at borrows hh
        · have ended := h.terminal lent (mem_producers.mpr (.inl ⟨service, serves, idle⟩)) same
          simp [ready service serves lent idle, Status.isTerminal] at ended
        · exact h.unattempted hold (mem_attempts.mpr ⟨task, member, hm⟩) (session.trans same)
      · simp at hl
    · simp at hl
  · simp at hl

end World

namespace FreeRun

variable (r : FreeRun)

theorem spent {handle : Handle} (hh : handle ∈ r.world.producers)
    (ended : handle.status.isTerminal = true) (later : List Occurrence) :
    (r.extend later).world.Spent handle.session :=
  r.by_extension (P := fun r => r.world.Spent handle.session)
    (World.spent_of_terminal r.owned hh ended)
    (fun r o h => by
      rw [extend_one]
      exact h.step (r.world.undergo_step o))
    later

/-- The result with which a handle is given back tells how it is left behind. -/
theorem tells {i : Nat} {task : Task} {service : Service} {handle : Handle}
    {result : PublishResult} (ht : r.world.tasks[i]? = some task)
    (hs : r.world.service? task = some service)
    (ha : task.activity = .returning handle (.published result)) :
    result.Tells service.retry.retries (r.replies i) handle.status := by
  have inHand := r.attentive.tasks i task service ht hs
  rw [ha] at inHand
  exact inHand

/-- A publish gives its handle back ready or fatal. It is ready after a success and when the
transaction could not begin, fatal after a fatal error, and after an abort it is fatal if every
attempt that the budget allows has failed, and only then. So idle handles are ready, and one
that was ever fatal is not lent again. -/
theorem released_ready_or_fatal :
    (∀ (i : Nat) (task : Task) (service : Service) (handle : Handle) (result : PublishResult),
      r.world.tasks[i]? = some task → r.world.service? task = some service →
      task.activity = .returning handle (.published result) →
      (handle.status = .ready ∨ handle.status = .fatal) ∧
      (result = .ok () → handle.status = .ready) ∧
      (∀ reason, result = .error (.begin reason) → handle.status = .ready) ∧
      (∀ id reason, result = .error (.fatal id reason) → handle.status = .fatal) ∧
      ∀ error, result = .error error → error.isAbort = true →
        (handle.status = .fatal ↔
          (r.replies i).aborts.length = service.retry.retries.toNat + 1 ∧
          ∀ reply ∈ (r.replies i).aborts, Reply.isFailure reply = true)) ∧
    (∀ service ∈ r.world.services, ∀ handle ∈ service.pool.idle, handle.status = .ready) ∧
    ∀ handle ∈ r.world.producers, handle.status = .fatal → ∀ later o i lent,
      (r.extend later).world.handsOut? o i = some lent → lent.session ≠ handle.session := by
  refine ⟨?_, r.allReady, ?_⟩
  · intro i task service handle result ht hs ha
    have tells := r.tells ht hs ha
    refine ⟨tells.status, ?_, ?_, ?_, ?_⟩
    · rintro rfl
      exact tells
    · rintro reason rfl
      exact tells.1
    · rintro id reason rfl
      exact tells
    · rintro error rfl aborts
      exact (tells.aborted aborts).fatal_iff
  · intro handle hh fatal later o i lent hl
    have ended : handle.status.isTerminal = true := by simp [fatal, Status.isTerminal]
    exact (r.spent hh ended later).session_ne (r.extend later).allReady hl

/-- A publish is to be aborted; one abort fails and the other one is not answered. -/
def failedAborts : FreeRun :=
  (Run.hasty 1 []).free.extend [.event (.start 0 (.publish 0 "results" ⟨#[1]⟩) false),
    .event (.proceed 0), .answer 0 (.ok ()), .event (.deliver 0), .answer 0 (.ok ()),
    .event (.deliver 0), .answer 0 (.ok ()), .event (.deliver 0),
    .answer 0 (.error (.abortable "lost")), .event (.deliver 0),
    .answer 0 (.error (.retriable "busy")), .event (.deliver 0), .event (.wake 0),
    .event (.expire 0)]

/-- The publish after it, up to the answer that makes its producer. -/
def nextPublish : List Occurrence :=
  [.event (.start 0 (.publish 0 "results" ⟨#[2]⟩) false), .event (.proceed 1), .answer 1 (.ok ()),
    .event (.deliver 1), .answer 1 (.ok ())]

theorem failedAborts_released :
    ∃ task service handle, failedAborts.world.tasks[0]? = some task ∧
      failedAborts.world.service? task = some service ∧
      task.activity = .returning handle (.published (.error (.aborted (.abortable "lost")))) ∧
      (handle.status = .fatal ∧
        (failedAborts.replies 0).aborts.length = service.retry.retries.toNat + 1) ∧
      ∃ lent, (failedAborts.extend nextPublish).world.handsOut? (.event (.deliver 1)) 1 =
        some lent ∧ lent.session ≠ handle.session := by
  obtain ⟨released, -, fatal⟩ := failedAborts.released_ready_or_fatal
  let handle : Handle :=
    { session := 0, brokers := ["b"], id := "svc-1", status := .fatal, limit := .ofSecs 10 }
  let task : Task :=
    { service := 0
      activity := .returning handle (.published (.error (.aborted (.abortable "lost")))) }
  have ht : failedAborts.world.tasks[0]? = some task := by decide +kernel
  have hh : handle ∈ failedAborts.world.producers := by decide +kernel
  have hl : (failedAborts.extend nextPublish).world.handsOut? (.event (.deliver 1)) 1 =
      some { handle with session := 1, id := "svc-2", status := .ready } := by decide +kernel
  obtain ⟨service, hs⟩ := failedAborts.regular.service ht
  obtain ⟨-, -, -, -, aborted⟩ := released 0 task service handle _ ht hs rfl
  exact ⟨task, service, handle, ht, hs, rfl, ⟨rfl, ((aborted _ rfl rfl).mp rfl).1⟩, _, hl,
    fatal handle hh rfl nextPublish _ 1 _ hl⟩

end FreeRun

end OutcomeRelay
