import OutcomeRelay.Proofs.Calls
import OutcomeRelay.Proofs.Ending
import OutcomeRelay.Proofs.OwnRecords
import OutcomeRelay.World.Schedule

set_option autoImplicit false

namespace OutcomeRelay

def CallName.isBarred : CallName → Bool
  | connect => true
  | operation .commit => true
  | _ => false

namespace Demand

def isHeld : Demand → Bool
  | pause _ cancellable => !cancellable
  | _ => true

def isBarred (demand : Demand) : Bool := (demand.call?.map CallName.isBarred).getD false

end Demand

def Transaction.Phase.isAbort : Transaction.Phase → Bool
  | aborting _ _ => true
  | abortPausing _ _ => true
  | _ => false

namespace Transaction

theorem Phase.Next.ne_commit {retries : UInt32} {phase next : Phase}
    (h : Phase.Next retries true phase next) (failures : UInt32) :
    next ≠ .performing .commit failures := by
  rintro rfl
  cases h with
  | sent failures goes_on => simp at goes_on
  | repeated step failures goes_on => simp at goes_on

variable {t : Transaction} {retry : Backoff} {signal : Signal}

theorem resume_abort (h : t.phase.isAbort = true) (cancelled : Bool) (signal : Signal) :
    t.resume retry cancelled signal = t.resume retry false signal := by
  have settled (answer : Option Reply) :
      t.settle retry cancelled answer = t.settle retry false answer := by
    unfold settle afterReply
    cases hp : t.phase <;> simp_all [Phase.isAbort, request?]
  unfold resume
  cases hp : t.phase <;> simp [Phase.isAbort, hp] at h <;> cases signal <;> simp [settled]

theorem demand_isHeld (h : t.phase.isAbort = true) : (t.demand retry).isHeld = true := by
  cases hp : t.phase with
  | aborting reason failures =>
    simp only [Transaction.demand, hp, request?]
    split <;> rfl
  | abortPausing reason failures => simp [Transaction.demand, hp, Demand.isHeld]
  | beginning | performing | pausing | ended => simp [Phase.isAbort, hp] at h

theorem demand_unbarred (t : Transaction) (retry : Backoff)
    (h : ∀ failures, t.phase ≠ .performing .commit failures) :
    (t.demand retry).isBarred = false := by
  cases hr : t.request? with
  | none =>
    rcases demand_of_no_request hr retry with ⟨_, _, hd⟩ | hd <;>
      simp [hd, Demand.isBarred, Demand.call?]
  | some request =>
    by_cases permitted : t.handle.status.permits request.operation = true
    · rw [demand_of_request hr permitted]
      rcases request?_cases hr with ⟨-, rfl⟩ | ⟨_, -, rfl⟩ | ⟨failures, hp, -⟩ | ⟨_, _, -, rfl⟩
      · rfl
      · rfl
      · exact absurd hp (h failures)
      · rfl
    · have turn : t.demand retry = .turn := by
        rcases request?_cases hr with ⟨hp, -⟩ | ⟨_, hp, -⟩ | ⟨_, hp, -⟩ | ⟨_, _, hp, -⟩ <;>
          simp [Transaction.demand, hp, hr, permitted]
      rw [turn]
      rfl

end Transaction

theorem Attempt.resume_unbarred {attempt next : Attempt} {id : String} {limit : Span}
    {signal : Signal} (ends : (attempt.demand id limit).EndsWith signal)
    (h : attempt.resume limit signal = .ongoing next) :
    (next.demand id limit).isBarred = false := by
  cases attempt with
  | connecting =>
    cases ends <;> cases h
    rfl
  | registering session =>
    cases ends with
    | answered session id request limit reply =>
      cases reply <;> cases h
      rfl
    | unanswered =>
      cases h
      rfl
  | closing session error =>
    cases ends
    cases h

namespace Activity

variable {service : Service} {past : Replies} {signal : Signal}

theorem closeDemand_unbarred (handle : Handle) : (closeDemand handle).isBarred = false := by
  unfold closeDemand
  split <;> rfl

theorem serve_unbarred (service : Service) (pool : Pool) (handle : Handle) (purpose : Purpose) :
    ((serve pool handle purpose).activity.demand service).isBarred = false := by
  cases purpose with
  | publish topic payload =>
    let t : Transaction := { handle := handle, topic := topic, payload := payload }
    exact t.demand_unbarred service.retry (by simp [t])
  | lend slot => rfl

theorem refuse_unbarred (service : Service) (pool : Pool) (error : PoolError) (purpose : Purpose) :
    ((refuse pool error purpose).activity.demand service).isBarred = false := by
  cases purpose <;> rfl

/-- A cancelled task does not go on to connect or to commit. -/
theorem resume_unbarred {activity : Activity} (h : activity.InHand service.retry.retries past)
    (ends : (activity.demand service).EndsWith signal) :
    ((activity.resume service true signal).activity.demand service).isBarred = false := by
  cases activity with
  | waiting millis purpose => rfl
  | borrowing purpose =>
    simp only [resume]
    rcases borrow_cases service true purpose with hb | ⟨handle, idle, -, hb⟩ | ⟨id, ids, hb⟩
    · rw [hb]
      exact refuse_unbarred service _ _ purpose
    · rw [hb]
      exact serve_unbarred service _ _ purpose
    · rw [hb]
      exact refuse_unbarred service _ _ purpose
  | creating purpose id creation =>
    simp only [resume]
    cases creation with
    | pausing failures =>
      cases ends
      exact refuse_unbarred service _ _ purpose
    | trying failures attempt =>
      simp only [Creation.resume]
      cases hn : attempt.resume service.options.operationLimit signal with
      | ongoing next => exact Attempt.resume_unbarred ends hn
      | made session => exact serve_unbarred service _ _ purpose
      | failed error =>
        simp only [Creation.fail]
        split
        · exact refuse_unbarred service _ _ purpose
        · rfl
  | transacting t =>
    have next := Transaction.resume_next true (fun _ => h.2.permits) ends
    simp only [resume, afterTransaction]
    split
    · exact Transaction.demand_unbarred _ service.retry fun failures => next.ne_commit failures
    · rfl
  | returning handle outcome =>
    simp only [resume]
    rcases giveBack_cases service.pool handle outcome with ⟨-, hg⟩ | ⟨discarded, -, hg⟩
    · rw [hg]
      rfl
    · rw [hg]
      exact closeDemand_unbarred handle
  | retiring handle discarded outcome => rfl
  | draining handles closed =>
    cases handles with
    | nil => rfl
    | cons handle handles =>
      cases handles with
      | nil => rfl
      | cons next handles => exact closeDemand_unbarred next
  | operating slot handle request => rfl
  | making slot id attempt =>
    simp only [resume]
    cases hn : attempt.resume service.options.operationLimit signal with
    | ongoing next => exact Attempt.resume_unbarred ends hn
    | made session => rfl
    | failed error => rfl
  | ended outcome => rfl

end Activity

def Transaction.Phase.hasCommitted : Transaction.Phase → Bool
  | performing .commit _ => true
  | pausing .commit _ => true
  | ended result => result.isOk
  | _ => false

def Outcome.isSuccess : Outcome → Bool
  | published (.ok ()) => true
  | _ => false

def Activity.hasCommitted : Activity → Bool
  | transacting t => t.phase.hasCommitted
  | returning _ outcome => outcome.isSuccess
  | retiring _ _ outcome => outcome.isSuccess
  | ended outcome => outcome.isSuccess
  | _ => false

theorem Transaction.Phase.Next.hasCommitted {retries : UInt32} {cancelled : Bool}
    {phase next : Transaction.Phase} (h : Transaction.Phase.Next retries cancelled phase next)
    (committed : next.hasCommitted = true) :
    phase.hasCommitted = true ∨ next = .performing .commit 0 := by
  cases h with
  | sent failures goes_on => exact .inr rfl
  | committed failures => exact .inl rfl
  | failed step again => cases step <;> exact .inl committed
  | repeated step failures goes_on => cases step <;> exact .inl committed
  | _ => simp [Transaction.Phase.hasCommitted, Except.isOk, Except.toBool] at committed

namespace Activity

variable {service : Service} {past : Replies} {signal : Signal}

theorem afterCreation_hasCommitted (service : Service) (pool : Pool) (purpose : Purpose)
    (id : String) (next : Creation.Next) :
    (afterCreation service pool purpose id next).activity.hasCommitted = false := by
  cases next <;> cases purpose <;> rfl

theorem resume_hasCommitted {activity : Activity} (h : activity.InHand service.retry.retries past)
    (ends : (activity.demand service).EndsWith signal) (cancelled : Bool)
    (committed : (activity.resume service cancelled signal).activity.hasCommitted = true) :
    activity.hasCommitted = true ∨
      ∃ t, (activity.resume service cancelled signal).activity = .transacting t ∧
        t.phase = .performing .commit 0 := by
  cases activity with
  | waiting millis purpose => simp [resume, hasCommitted] at committed
  | borrowing purpose =>
    simp only [resume] at committed
    rcases borrow_cases service cancelled purpose with hb | ⟨handle, idle, -, hb⟩ | ⟨id, ids, hb⟩
    · rw [hb] at committed
      cases purpose <;> simp [refuse, hasCommitted, Outcome.isSuccess] at committed
    · rw [hb] at committed
      cases purpose <;>
        simp [serve, hasCommitted, Transaction.Phase.hasCommitted, Outcome.isSuccess] at committed
    · rw [hb, afterCreation_hasCommitted] at committed
      simp at committed
  | creating purpose id creation =>
    rw [resume, afterCreation_hasCommitted] at committed
    simp at committed
  | transacting t =>
    have next := Transaction.resume_next cancelled (fun _ => h.2.permits) ends
    simp only [resume, afterTransaction] at committed ⊢
    split at committed
    · rcases next.hasCommitted committed with before | commits
      · exact .inl before
      · exact .inr ⟨_, rfl, commits⟩
    · rename_i result ended
      have succeeded : result = .ok () := by
        cases result with
        | ok _ => rfl
        | error error => simp [hasCommitted, Outcome.isSuccess] at committed
      have phase := Transaction.result?_eq_some.mp ended
      rw [phase, succeeded] at next
      rcases next.hasCommitted rfl with before | commits
      · exact .inl before
      · simp at commits
  | returning handle outcome =>
    simp only [resume] at committed
    refine .inl ?_
    rcases giveBack_cases service.pool handle outcome with ⟨-, hg⟩ | ⟨discarded, -, hg⟩ <;>
      simpa [hg, hasCommitted] using committed
  | retiring handle discarded outcome => exact .inl committed
  | draining handles closed =>
    cases handles <;> simp [resume, hasCommitted, Outcome.isSuccess] at committed
  | operating slot handle request =>
    simp [resume, afterOperating, hasCommitted, Outcome.isSuccess] at committed
  | making slot id attempt =>
    simp only [resume] at committed
    cases hn : attempt.resume service.options.operationLimit signal <;>
      simp [hn, afterMaking, hasCommitted, Outcome.isSuccess] at committed
  | ended outcome => exact .inl committed

end Activity

namespace World

variable {w : World} {i : Nat} {task : Task}

def calls (w : World) (i : Nat) (kind : CallName → Bool) : List JournalEntry :=
  w.journal.filter fun entry => entry.task = i && kind entry.call

def isCancelled (w : World) (i : Nat) : Bool := w.tasks[i]?.any (·.cancelled)

theorem isCancelled_eq_true : w.isCancelled i = true ↔
    ∃ task, w.tasks[i]? = some task ∧ task.cancelled = true := by
  simp [isCancelled, Option.any_eq_true]

theorem call_of_entry {entry : JournalEntry} (h : w.entry? i task = some entry) :
    (w.demand task).call? = some entry.call := by
  unfold entry? at h
  split at h
  · rename_i id limit hd
    cases h
    rw [hd]
    rfl
  · rename_i session id request limit hd
    cases h
    rw [hd]
    rfl
  · simp at h

theorem mem_journal_undergo {entry : JournalEntry} (h : entry ∈ w.journal) (o : Occurrence) :
    entry ∈ (w.undergo o).journal := by
  rcases w.undergo_journal o with same | ⟨new, grown⟩ | ⟨j, task, service, s, -, -, -, grown⟩
  · rwa [same]
  · rw [grown]
    exact List.mem_append_right _ h
  · rw [grown]
    exact List.mem_append_right _ h

theorem demand_moved {service : Service} (hs : w.service? task = some service) (o : Occurrence)
    (activity : Activity) :
    (w.undergo o).demand (w.moved task activity) = activity.demand service := by
  obtain ⟨pool, hp⟩ := (w.undergo_step o).service hs
  have staffed : (w.undergo o).service? (w.moved task activity) =
      some { service with pool := pool } := hp
  simp only [World.demand, staffed]
  exact activity.demand_pool service pool

theorem filter_call {call : Option JournalEntry} {kind : JournalEntry → Bool}
    (h : ∀ entry ∈ call, kind entry = false) (rest : List JournalEntry) :
    (call.toList ++ rest).filter kind = rest.filter kind := by
  cases call with
  | none => rfl
  | some entry => simp [h entry rfl]

/-- A cancelled task makes no call that is barred. -/
theorem calls_undergo {heard : Nat → Replies} (regular : w.Regular) (attentive : w.Attentive heard)
    (ht : w.tasks[i]? = some task) (hc : task.cancelled = true) (o : Occurrence) :
    (w.undergo o).calls i CallName.isBarred = w.calls i CallName.isBarred := by
  unfold calls
  rcases w.undergo_journal o with same | ⟨new, grown⟩ | ⟨j, other, service, s, hj, ho, hs, grown⟩
  · rw [same]
  · rw [grown, filter_call]
    intro entry hm
    have here := (List.getElem?_eq_some_iff.mp ht).1
    simp [task_of_entry hm, here.ne']
  · rw [grown, filter_call]
    intro entry hm
    rcases eq_or_ne j i with rfl | different
    · obtain rfl : task = other := Option.some.inj (ht.symm.trans ho)
      have call := call_of_entry hm
      rw [demand_moved hs] at call
      have ends : (task.activity.demand service).EndsWith s := by
        obtain ⟨new, -, becomes⟩ := undergo_task regular ht o
        rw [hj] at becomes
        cases becomes with
        | told served ends => simpa [World.demand, hs] using ends
      have unbarred := Activity.resume_unbarred (attentive.tasks j task service ht hs) ends
      rw [← hc] at unbarred
      have barred : ((move service task s).activity.demand service).isBarred = false := unbarred
      simp only [Demand.isBarred, call, Option.map_some, Option.getD_some] at barred
      simp [barred]
    · simp [task_of_entry hm, different]

theorem calls_commit (w : World) (i : Nat) : w.calls i (· = .operation .commit) =
    (w.calls i CallName.isBarred).filter (·.call = .operation .commit) := by
  unfold calls
  rw [List.filter_filter]
  refine List.filter_congr fun entry _ => ?_
  by_cases commit : entry.call = .operation .commit <;> simp [commit, CallName.isBarred]

theorem mem_calls {kind : CallName → Bool} {entry : JournalEntry} :
    entry ∈ w.calls i kind ↔ entry ∈ w.journal ∧ entry.task = i ∧ kind entry.call = true := by
  simp [calls]

theorem commit_called {heard : Nat → Replies} {o : Occurrence} {s : Signal} {service : Service}
    {t : Transaction} {failures : UInt32} (attentive : (w.undergo o).Attentive heard)
    (ht : w.tasks[i]? = some task) (served : w.service? task = some service)
    (hh : w.hears? o i = some s) (moves : (move service task s).activity = .transacting t)
    (phase : t.phase = .performing .commit failures) :
    ∃ entry ∈ (w.undergo o).calls i CallName.isBarred, entry.call = .operation .commit := by
  have told := undergo_of_hears ht hh
  have request : t.request? = some .commit := by
    simp [Transaction.request?, phase, Transaction.stepRequest]
  have inHand : t.InHand service.retry.retries (heard i) := by
    obtain ⟨pool, hp⟩ := (w.undergo_step o).service served
    have here : (w.undergo o).tasks[i]? = some (w.moved task (move service task s).activity) := by
      rw [told, signal_tasks served,
        List.getElem?_set_self (List.getElem?_eq_some_iff.mp ht).1]
    have fits := attentive.tasks i _ { service with pool := pool } here hp
    rw [moved_activity, moves] at fits
    exact fits.2
  have waits : (w.undergo o).demand (w.moved task (move service task s).activity) =
      .answer t.handle.session t.handle.id .commit (some t.handle.limit) := by
    rw [demand_moved served, moves]
    exact Transaction.demand_of_request request (inHand.permits request) service.retry
  refine ⟨⟨(w.undergo o).now, i, t.handle.id, .operation .commit⟩, ?_, rfl⟩
  refine mem_calls.mpr ⟨?_, rfl, rfl⟩
  have journal := signal_journal ht served (s := s)
  rw [← told, World.entry?, waits] at journal
  rw [journal]
  exact List.mem_cons_self

theorem Begins.hasCommitted {base : World} {activity : Activity} {note : Option Note}
    (h : w.Begins base activity note) : activity.hasCommitted = false := by
  cases h with
  | publish millis topic payload =>
    unfold Activity.begin
    split <;> rfl
  | reject | borrow | release | operate | shutdown | create | createNext => rfl

end World

namespace FreeRun

variable (r : FreeRun) {i : Nat}

/-- What leads to a commit or comes from one has been called for. -/
theorem committed {task : Task} (ht : r.world.tasks[i]? = some task)
    (hc : task.activity.hasCommitted = true) :
    ∃ entry ∈ r.world.calls i CallName.isBarred, entry.call = .operation .commit := by
  induction r using by_happenings generalizing task with
  | idle r nothing => simp [world, nothing, start, World.follow, World.initial] at ht
  | happening r o ih =>
    have attentive := (r.extend [o]).attentive
    rw [extend_one] at ht attentive ⊢
    have earlier : (∃ entry ∈ r.world.calls i CallName.isBarred, entry.call = .operation .commit) →
        ∃ entry ∈ (r.world.undergo o).calls i CallName.isBarred,
          entry.call = .operation .commit := by
      rintro ⟨entry, hm, commit⟩
      obtain ⟨old, own⟩ := World.mem_calls.mp hm
      exact ⟨entry, World.mem_calls.mpr ⟨World.mem_journal_undergo old o, own⟩, commit⟩
    rcases World.undergo_origin r.regular o ht with
      ⟨old, ho, becomes⟩ | ⟨-, -, -, base, note, begins⟩
    · cases hh : r.world.hears? o i with
      | none =>
        rw [hh] at becomes
        cases becomes with
        | waits activity service cancelled answer => exact earlier (ih ho (activity ▸ hc))
        | crashed hd text panics => simp [Activity.hasCommitted, Outcome.isSuccess] at hc
      | some s =>
        rw [hh] at becomes
        cases becomes with
        | @told service s served ends =>
          rw [World.demand_of_service served] at ends
          rcases Activity.resume_hasCommitted (r.attentive.tasks i _ service ho served) ends _ hc
            with before | ⟨t, ha, phase⟩
          · exact earlier (ih ho before)
          · exact World.commit_called attentive ho served hh ha phase
    · simp [begins.hasCommitted] at hc

theorem isCancelled_extend (h : r.world.isCancelled i = true) (later : List Occurrence) :
    (r.extend later).world.isCancelled i = true ∧
      (r.extend later).world.calls i CallName.isBarred = r.world.calls i CallName.isBarred := by
  refine r.by_extension (P := fun s => s.world.isCancelled i = true ∧
    s.world.calls i CallName.isBarred = r.world.calls i CallName.isBarred) ⟨h, rfl⟩ ?_ later
  intro s o ⟨cancelled, same⟩
  obtain ⟨task, ht, hc⟩ := World.isCancelled_eq_true.mp cancelled
  obtain ⟨new, hn, becomes⟩ := World.undergo_task s.regular ht o
  rw [extend_one]
  exact ⟨World.isCancelled_eq_true.mpr ⟨new, hn, becomes.keeps_cancelled hc⟩,
    (World.calls_undergo s.regular s.attentive ht hc o).trans same⟩

theorem result?_ne_ok (h : r.world.calls i (· = .operation .commit) = []) :
    r.world.result? i ≠ some (.ok ()) := by
  intro succeeded
  have ended : r.world.outcome? i = some (.published (.ok ())) := by
    unfold World.result? at succeeded
    split at succeeded
    · rename_i outcome
      rw [outcome, Option.some.inj succeeded]
    · simp at succeeded
  obtain ⟨task, ht, ha⟩ := World.outcome?_eq_some.mp ended
  obtain ⟨entry, hm, commit⟩ := r.committed ht (by rw [ha]; rfl)
  obtain ⟨called, own, -⟩ := World.mem_calls.mp hm
  have found : entry ∈ r.world.calls i (· = .operation .commit) :=
    World.mem_calls.mpr ⟨called, own, by simp [commit]⟩
  simp [h] at found

end FreeRun

theorem World.hasCommitted_of_asks {index i : Nat} {task : Task} {session : SessionId} {id : String}
    (asks : Asks task.activity session id .commit) (own : caller index task = some i) :
    index = i ∧ task.activity.hasCommitted = true := by
  obtain ⟨publishes, rfl⟩ : task.activity.isPublish = true ∧ index = i := by
    simpa [caller] using own
  refine ⟨rfl, ?_⟩
  generalize task.activity = activity at asks publishes
  cases asks with
  | operate slot permitted => simp [Activity.isPublish] at publishes
  | @transact t request hr =>
    rcases Transaction.request?_cases hr with ⟨-, he⟩ | ⟨_, -, he⟩ | ⟨failures, hp, -⟩ |
      ⟨_, _, -, he⟩
    · simp at he
    · simp at he
    · simp [Activity.hasCommitted, hp, Transaction.Phase.hasCommitted]
    · simp at he

theorem Run.posting_called (r : Run) {i : Nat} {p : Posting} (hp : p ∈ r.chronicle.postings)
    (hc : p.committer = some i) :
    ∃ entry ∈ r.world.calls i CallName.isBarred, entry.call = .operation .commit := by
  induction r using by_events with
  | idle r nothing => simp [chronicle, nothing, World.chronicle, Chronicle.postings] at hp
  | event r e ih =>
    have earlier : (∃ entry ∈ r.world.calls i CallName.isBarred, entry.call = .operation .commit) →
        ∃ entry ∈ (r.extend [e]).world.calls i CallName.isBarred,
          entry.call = .operation .commit := by
      rintro ⟨entry, hm, commit⟩
      obtain ⟨old, own⟩ := World.mem_calls.mp hm
      rw [extend_world]
      exact ⟨entry, World.mem_calls.mpr ⟨World.mem_journal_undergo old (.event e), own⟩, commit⟩
    rw [extend_chronicle] at hp
    rcases (World.step_apply r.world e).posting_cases hp with old |
      ⟨index, task, session, id, ht, asks, x, -, rfl⟩ | ⟨slot, session, -, x, -, rfl⟩
    · exact earlier (ih old)
    · obtain ⟨rfl, commits⟩ := World.hasCommitted_of_asks asks hc
      have called := r.free.committed (by rw [r.free_world]; exact ht) commits
      rw [r.free_world] at called
      exact earlier called
    · simp [Entry.post] at hc

theorem Run.unseen (r : Run) {i : Nat} (h : r.world.calls i (· = .operation .commit) = [])
    {p : Posting} (hp : p ∈ r.chronicle.postings) : p.committer ≠ some i ∧ p.sender ≠ some i := by
  have uncommitted : p.committer ≠ some i := by
    intro committed
    obtain ⟨entry, hm, commit⟩ := r.posting_called hp committed
    have found : entry ∈ r.world.calls i (· = .operation .commit) := by
      rw [World.calls_commit]
      exact List.mem_filter.mpr ⟨hm, by simp [commit]⟩
    simp [h] at found
  exact ⟨uncommitted, fun sent => uncommitted (r.own_posting hp (.inr sent)).2.1⟩

namespace FreeRun

variable (r : FreeRun) {i : Nat}

/-- Once a task is cancelled, it does not connect and it does not commit. If it had not called for
a commit by then, it does not succeed, and on the broker no record of it becomes visible. What
it has begun goes through the phases that are left to it: each request is answered within a
limit, the abort is not cut short and leads to a handle that is ready or fatal. If time goes on,
it comes to that end. -/
theorem cancelled_winds_up (h : r.world.isCancelled i = true) (later : List Occurrence) :
    (r.extend later).world.calls i CallName.isBarred = r.world.calls i CallName.isBarred ∧
    (r.world.calls i (· = .operation .commit) = [] →
      (r.extend later).world.result? i ≠ some (.ok ()) ∧
      ∀ q : Run, q.free = r.extend later → q.world.Shows q.chronicle.postings ∧
        ∀ p ∈ q.chronicle.postings, p.committer ≠ some i ∧ p.sender ≠ some i) ∧
    (∀ (task : Task) (service : Service) (t : Transaction),
      (r.extend later).world.tasks[i]? = some task →
      (r.extend later).world.service? task = some service → task.activity = .transacting t →
      (t.demand service.retry).endsByItself = true ∧
      (∀ signal, (t.demand service.retry).EndsWith signal →
        Transaction.Phase.Next service.retry.retries true t.phase
          (t.resume service.retry task.cancelled signal).phase) ∧
      (t.phase.isAbort = true → (t.demand service.retry).isHeld = true ∧
        ∀ signal, t.resume service.retry task.cancelled signal =
          t.resume service.retry false signal)) ∧
    (∀ (task : Task) (handle : Handle) (result : PublishResult),
      (r.extend later).world.tasks[i]? = some task →
      task.activity = .returning handle (.published result) →
      (handle.status = .ready ∨ handle.status = .fatal) ∧
      ((.begin, .ok ()) ∈ (r.extend later).replies i → handle.status = .ready →
        result = .ok () ∨ ((r.extend later).replies i).aborts.head? = some (.ok ()))) ∧
    ∀ (c : Course) (n : Nat) (task : Task) (t : Transaction), c.upTo n = r.extend later →
      c.Timely → c.Calm → c.Finite → (c.world n).tasks[i]? = some task →
      task.activity = .transacting t →
      ∃ m last handle result, n ≤ m ∧ (c.world m).tasks[i]? = some last ∧
        last.activity = .returning handle (.published result) ∧
        (handle.status = .ready ∨ handle.status = .fatal) := by
  obtain ⟨cancelled, same⟩ := r.isCancelled_extend h later
  refine ⟨same, ?_, ?_, ?_, ?_⟩
  · intro none_yet
    have nothing : (r.extend later).world.calls i (· = .operation .commit) = [] := by
      rw [World.calls_commit, same, ← World.calls_commit, none_yet]
    refine ⟨(r.extend later).result?_ne_ok nothing, fun q hq => ⟨q.shows, fun p hp => ?_⟩⟩
    rw [← hq, q.free_world] at nothing
    exact q.unseen nothing hp
  · intro task service t ht hs ha
    have fits := (r.extend later).attentive.tasks i task service ht hs
    rw [ha] at fits
    obtain ⟨going, inHand⟩ := fits
    have flag : task.cancelled = true := by
      obtain ⟨other, ho, hc⟩ := World.isCancelled_eq_true.mp cancelled
      rwa [Option.some.inj (ht.symm.trans ho)]
    refine ⟨inHand.endsByItself going, fun signal ends => ?_, fun aborts => ?_⟩
    · rw [flag]
      exact Transaction.resume_next true (fun _ => inHand.permits) ends
    · exact ⟨Transaction.demand_isHeld aborts, Transaction.resume_abort aborts task.cancelled⟩
  · intro task handle result ht ha
    obtain ⟨service, hs⟩ := (r.extend later).regular.service ht
    have tells := (r.extend later).tells ht hs ha
    exact ⟨tells.status, tells.last_abort⟩
  · rintro c n task t - timely calm finite ht ha
    obtain ⟨service, -, hs⟩ := Course.exists_service ht
    obtain ⟨m, last, handle, result, since, hl, back⟩ :=
      Course.gives_back timely calm finite ht hs ha
    obtain ⟨own, ho⟩ := (c.upTo m).regular.service hl
    exact ⟨m, last, handle, result, since, hl, back, ((c.upTo m).tells hl ho back).status⟩

end FreeRun

/-- A publish is cancelled while its transaction begins. -/
def Run.cancelledAtBegin : Run :=
  hasty 0 [.start 0 (.publish 0 "results" ⟨#[1]⟩) false, .proceed 0, .effect 0, .deliver 0,
    .effect 0, .deliver 0, .effect 0, .cancel 0]

def Run.itsEnd : List Event := [.deliver 0, .effect 0, .deliver 0, .effect 0, .deliver 0]

theorem Run.cancelledAtBegin_aborted :
    cancelledAtBegin.free.world.isCancelled 0 = true ∧
    cancelledAtBegin.free.world.calls 0 (· = .operation .commit) = [] ∧
    (∀ p ∈ (cancelledAtBegin.extend itsEnd).chronicle.postings, p.sender ≠ some 0) ∧
    (∃ task handle, (cancelledAtBegin.extend itsEnd).world.tasks[0]? = some task ∧
      task.activity = .returning handle (.published (.error .cancelled)) ∧
      handle.status = .ready ∧
      ((cancelledAtBegin.free.extend (itsEnd.map .event)).replies 0).aborts.head? =
        some (.ok ())) ∧
    ∃ m last handle result, 8 ≤ m ∧
      ((cancelledAtBegin.extend (itsEnd ++ [.proceed 0])).free.course.world m).tasks[0]? =
        some last ∧
      last.activity = .returning handle (.published result) ∧
      (handle.status = .ready ∨ handle.status = .fatal) := by
  have cancelled : cancelledAtBegin.free.world.isCancelled 0 = true := by decide +kernel
  have none_yet : cancelledAtBegin.free.world.calls 0 (· = .operation .commit) = [] := by
    decide +kernel
  obtain ⟨-, silent, -, left, -⟩ :=
    cancelledAtBegin.free.cancelled_winds_up cancelled (itsEnd.map .event)
  let handle : Handle :=
    { session := 0, brokers := ["b"], id := "svc-1", status := .ready, limit := .ofSecs 10 }
  let task : Task :=
    { service := 0
      activity := .returning handle (.published (.error .cancelled))
      cancelled := true }
  have ht : (cancelledAtBegin.extend itsEnd).world.tasks[0]? = some task := by decide +kernel
  have opened : (.begin, .ok ()) ∈
      (cancelledAtBegin.free.extend (itsEnd.map .event)).replies 0 := by
    decide +kernel
  have same := cancelledAtBegin.free_extend itsEnd
  rw [← free_world, same] at ht
  obtain ⟨-, aborted⟩ := left task handle _ ht rfl
  refine ⟨cancelled, none_yet, fun p hp => (((silent none_yet).2 _ same).2 p hp).2,
    ⟨task, handle, ?_, rfl, rfl, ?_⟩, ?_⟩
  · rw [← free_world, same]
    exact ht
  · rcases aborted opened rfl with succeeded | last
    · simp at succeeded
    · exact last
  · -- the course that starts with these events and then stands still
    have calm : (cancelledAtBegin.extend (itsEnd ++ [.proceed 0])).free.course.Calm :=
      FreeRun.course_calm (by decide +kernel)
    have timely : (cancelledAtBegin.extend (itsEnd ++ [.proceed 0])).free.course.Timely :=
      FreeRun.course_timely calm (by decide +kernel)
    let begun : Task :=
      { service := 0
        activity := .transacting { handle := handle, topic := "results", payload := ⟨#[1]⟩ }
        answer := some (.answered (.ok ()))
        cancelled := true }
    obtain ⟨-, -, -, -, comes⟩ := cancelledAtBegin.free.cancelled_winds_up cancelled []
    exact comes _ 8 begun _ rfl timely calm (hasty_finite (by decide) _) (by decide +kernel) rfl

end OutcomeRelay
