import Mathlib.Data.Nat.Find
import OutcomeRelay.Proofs.Recovery
import OutcomeRelay.Proofs.Release

set_option autoImplicit false

/-!
# What a borrow comes to

A borrow is left alone with a broker whose answers to each attempt are fixed beforehand, and with a
token that may fire whenever it likes. A closed pool turns it away and an idle producer serves it at
once. Otherwise it takes a number, and what it then comes to is told by the first attempt that does
not merely fail: it succeeds, fails for good, is the last one of the budget, or is not made at all
because the token has fired. Main statement: a borrow comes to just this, has asked the broker for
just that, and rests there.
-/

namespace OutcomeRelay

/-- What the broker answers to an attempt, each time within the limit or not. -/
structure Trial where
  connect : Option (Except BrokerError SessionId)
  init : Option Reply
  close : Option Reply
deriving DecidableEq

namespace Trial

/-- How an attempt ends. It does not if it waits for a close that is never answered. -/
inductive Ending where
  | made (session : SessionId)
  | failed (error : BrokerError)
  | held (session : SessionId) (error : BrokerError)
deriving DecidableEq

section

variable (id : String) (limit : Span) (t : Trial) (session : SessionId)

def cleared (error : BrokerError) : Ending :=
  match t.close with
  | none => .held session error
  | some _ => .failed error

def registered : Ending :=
  match t.init with
  | none => t.cleared session (.unreachable ("producer id not assigned within " ++ limit.text))
  | some (.error error) => t.cleared session error
  | some (.ok ()) => .made session

def ending : Ending :=
  match t.connect with
  | none => .failed (.unreachable ("no connection within " ++ limit.text))
  | some (.error error) => .failed error
  | some (.ok session) => t.registered limit session

def clearing : List Demand :=
  match t.close with
  | none => []
  | some _ => [.answer session id .close none]

def registering : List Demand :=
  .answer session id .init (some limit) ::
    match t.init with
    | none | some (.error _) => t.clearing id session
    | some (.ok ()) => []

def acts : List Demand :=
  .connection id limit ::
    match t.connect with
    | none | some (.error _) => []
    | some (.ok session) => t.registering id limit session

end

def signal? (t : Trial) : Demand → Option Signal
  | .connection _ _ =>
    match t.connect with
    | none => some .silence
    | some (.error error) => some (.answered (.error error))
    | some (.ok session) => some (.opened session)
  | .answer _ _ .close _ => t.close.map .answered
  | .answer _ _ _ _ => some (Transaction.Exchange.signal t.init)
  | .pause _ _ | .turn => some .resumed
  | .rest => none

theorem close_of_held {limit : Span} {t : Trial} {session : SessionId} {error : BrokerError}
    (ends : t.ending limit = .held session error) : t.close = none := by
  simp only [ending, registered, cleared] at ends
  grind

end Trial

structure Borrowing where
  move : Move
  acts : List Demand := []
deriving DecidableEq

namespace Borrowing

def start (service : Service) (purpose : Purpose) : Borrowing :=
  ⟨{ activity := .borrowing purpose, pool := service.pool }, []⟩

def pauses (acts : List Demand) : Nat := acts.countP fun | .pause _ _ => true | _ => false

section Course

variable (service : Service) (fired : List Demand → Bool) (trials : Nat → Trial)

def done (x : Borrowing) : List Demand :=
  match x.move.activity.demand service with
  | .turn => x.acts
  | demand => x.acts ++ [demand]

def hears? (x : Borrowing) : Option Signal :=
  if x.move.activity.borrows then
    (trials (pauses x.acts)).signal? (x.move.activity.demand service)
  else none

/-- Whether the token has fired is asked when all this is done. -/
def told (x : Borrowing) (signal : Signal) : Borrowing :=
  ⟨x.move.activity.resume { service with pool := x.move.pool } (fired (x.done service)) signal,
    x.done service⟩

def next (x : Borrowing) : Borrowing :=
  ((x.hears? service trials).map (x.told service fired)).getD x

end Course

section Reference

variable (service : Service) (fired : List Demand → Bool) (trials : Nat → Trial)

def takenId : String := service.options.baseId ++ "-" ++ toString (service.pool.ids.issued + 1)

def numbered : Pool := { service.pool with ids := ⟨service.pool.ids.issued + 1⟩ }

def fresh (session : SessionId) : Handle where
  session := session
  brokers := service.options.brokers
  id := takenId service
  status := .ready
  limit := service.options.operationLimit

def outcome (purpose : Purpose) (pool : Pool) (result : Except PoolError Handle) : Move :=
  match purpose, result with
  | .publish topic payload, .ok handle =>
    { activity := .transacting
        { handle := handle, topic := topic, payload := payload, phase := .beginning }
      pool := pool
      lent := none }
  | .publish _ _, .error error =>
    { activity := .ended (.published (.error (.pool error))), pool := pool, lent := none }
  | .lend slot, .ok handle =>
    { activity := .ended (.lent (.ok handle.id)), pool := pool, lent := some (slot, handle) }
  | .lend _, .error error =>
    { activity := .ended (.lent (.error error)), pool := pool, lent := none }

def trialActs (k : Nat) : List Demand :=
  (trials k).acts (takenId service) service.options.operationLimit

def failing (n : Nat) : List Demand :=
  (List.range n).flatMap fun k =>
    trialActs service trials k ++ [.pause (service.creation.delayFor (.ofNat (k + 1))) true]

def Fails (k : Nat) : Prop :=
  fired (failing service trials k) = false ∧
    ∃ error, (trials k).ending service.options.operationLimit = .failed error ∧
      error.isFatal = false

structure Reaches (n : Nat) : Prop where
  isOpen : service.pool.isClosed = false
  dry : service.pool.idle = []
  within : n ≤ service.creation.retries.toNat
  fails : ∀ k < n, Fails service fired trials k

/-- What a borrow comes to. -/
inductive ComesTo (purpose : Purpose) : Borrowing → Prop
  | closed (isClosed : service.pool.isClosed = true) :
      ComesTo purpose ⟨outcome purpose service.pool (.error .closed), []⟩
  | hit {handle : Handle} {idle : List Handle} (isOpen : service.pool.isClosed = false)
      (found : service.pool.idle = handle :: idle) :
      ComesTo purpose ⟨outcome purpose { service.pool with idle := idle } (.ok handle), []⟩
  | cancelled {n : Nat} (reached : Reaches service fired trials n)
      (fires : fired (failing service trials n) = true) :
      ComesTo purpose
        ⟨outcome purpose (numbered service) (.error .cancelled), failing service trials n⟩
  | made {n : Nat} {session : SessionId} (reached : Reaches service fired trials n)
      (quiet : fired (failing service trials n) = false)
      (ends : (trials n).ending service.options.operationLimit = .made session) :
      ComesTo purpose
        ⟨outcome purpose { numbered service with created := service.pool.created + 1 }
            (.ok (fresh service session)),
          failing service trials n ++ trialActs service trials n⟩
  | exhausted {n : Nat} {error : BrokerError} (reached : Reaches service fired trials n)
      (quiet : fired (failing service trials n) = false)
      (ends : (trials n).ending service.options.operationLimit = .failed error)
      (last : error.isFatal = true ∨ n = service.creation.retries.toNat) :
      ComesTo purpose
        ⟨outcome purpose (numbered service) (.error (.creationExhausted (.ofNat (n + 1)) error)),
          failing service trials n ++ trialActs service trials n⟩
  /-- It waits for ever for the close of a session. -/
  | held {n : Nat} {session : SessionId} {error : BrokerError}
      (reached : Reaches service fired trials n)
      (quiet : fired (failing service trials n) = false)
      (ends : (trials n).ending service.options.operationLimit = .held session error) :
      ComesTo purpose
        ⟨{ activity :=
            .creating purpose (takenId service) (.trying (.ofNat n) (.closing session error))
           pool := numbered service },
          failing service trials n ++ trialActs service trials n⟩

end Reference

variable {service : Service} {fired : List Demand → Bool} {trials : Nat → Trial}
  {purpose : Purpose} {x : Borrowing} {acts : List Demand}

theorem serve_eq (pool : Pool) (handle : Handle) (purpose : Purpose) :
    Activity.serve pool handle purpose = outcome purpose pool (.ok handle) := by
  cases purpose <;> rfl

theorem refuse_eq (pool : Pool) (error : PoolError) (purpose : Purpose) :
    Activity.refuse pool error purpose = outcome purpose pool (.error error) := by
  cases purpose <;> rfl

theorem failing_succ (n : Nat) :
    failing service trials (n + 1) =
      failing service trials n ++ (trialActs service trials n ++
        [.pause (service.creation.delayFor (.ofNat (n + 1))) true]) := by
  simp [failing, List.range_succ]

theorem pauses_append (acts more : List Demand) :
    pauses (acts ++ more) = pauses acts + pauses more :=
  List.countP_append

theorem pauses_acts (id : String) (limit : Span) (t : Trial) : pauses (t.acts id limit) = 0 := by
  have unpaused (session : SessionId) : pauses (t.registering id limit session) = 0 := by
    unfold Trial.registering Trial.clearing
    split <;> first | rfl | (split <;> rfl)
  unfold Trial.acts
  split
  · rfl
  · rfl
  · exact unpaused _

theorem pauses_failing (n : Nat) : pauses (failing service trials n) = n := by
  induction n with
  | zero => rfl
  | succ n ih =>
    rw [failing_succ, pauses_append, pauses_append, ih, trialActs, pauses_acts]
    rfl

/-! ### From act to act -/

def creating (service : Service) (purpose : Purpose) (creation : Creation.Next)
    (acts : List Demand) : Borrowing :=
  ⟨Activity.afterCreation service (numbered service) purpose (takenId service) creation, acts⟩

theorem creating_failed (error : PoolError) (acts : List Demand) :
    creating service purpose (.failed error) acts =
      ⟨outcome purpose (numbered service) (.error error), acts⟩ :=
  congrArg (Borrowing.mk · acts) (refuse_eq _ error purpose)

theorem creating_made (session : SessionId) (acts : List Demand) :
    creating service purpose (.made session) acts =
      ⟨outcome purpose { numbered service with created := service.pool.created + 1 }
        (.ok (fresh service session)), acts⟩ :=
  congrArg (Borrowing.mk · acts) (serve_eq _ _ purpose)

def Leads (service : Service) (fired : List Demand → Bool) (trials : Nat → Trial)
    (purpose : Purpose) (acts more : List Demand) (n m : Creation.Next) : Prop :=
  (next service fired trials)^[more.length] (creating service purpose n acts) =
    creating service purpose m (acts ++ more)

variable {more : List Demand} {n m l : Creation.Next} {creation : Creation} {signal : Signal}

theorem Leads.refl (n : Creation.Next) (acts : List Demand) :
    Leads service fired trials purpose acts [] n n := by
  simp [Leads]

theorem Leads.trans {rest : List Demand}
    (first : Leads service fired trials purpose acts more n m)
    (second : Leads service fired trials purpose (acts ++ more) rest m l) :
    Leads service fired trials purpose acts (more ++ rest) n l := by
  unfold Leads at *
  rw [List.length_append, Nat.add_comm, Function.iterate_add_apply, first, second,
    List.append_assoc]

def awaited (service : Service) (creation : Creation) : Demand :=
  creation.demand (takenId service) service.options.operationLimit service.creation

theorem awaited_ne_turn (creation : Creation) : awaited service creation ≠ .turn := by
  rcases creation with ⟨_, _ | _ | _⟩ | _ <;> exact Demand.noConfusion

theorem next_creating
    (hears : (trials (pauses acts)).signal? (awaited service creation) = some signal) :
    next service fired trials (creating service purpose (.ongoing creation) acts) =
      creating service purpose
        (creation.resume service.options.operationLimit service.creation
          (fired (acts ++ [awaited service creation])) signal)
        (acts ++ [awaited service creation]) := by
  have resumed (pool : Pool) (id : String) (next : Creation.Next) :
      Activity.afterCreation { service with pool := pool } pool purpose id next =
        Activity.afterCreation service pool purpose id next := by
    cases next <;> rfl
  have here : (creating service purpose (.ongoing creation) acts).done service =
      acts ++ [awaited service creation] := by
    unfold done
    split
    · exact absurd ‹_› (awaited_ne_turn creation)
    · rfl
  have heard : (creating service purpose (.ongoing creation) acts).hears? service trials =
      some signal := hears
  rw [next, heard, Option.map_some, Option.getD_some, told, here]
  exact congrArg (Borrowing.mk · _) (resumed _ _ _)

theorem leads_one {k : Nat} (count : pauses acts = k) (creation : Creation)
    (hears : (trials k).signal? (awaited service creation) = some signal) :
    Leads service fired trials purpose acts [awaited service creation] (.ongoing creation)
      (creation.resume service.options.operationLimit service.creation
        (fired (acts ++ [awaited service creation])) signal) :=
  next_creating (count ▸ hears)

def afterTrial (service : Service) (failures : UInt32) : Trial.Ending → Creation.Next
  | .made session => .made session
  | .failed error => Creation.fail service.creation failures error
  | .held session error => .ongoing (.trying failures (.closing session error))

section Trial

variable {k : Nat} {session : SessionId} {error : BrokerError}

theorem leads_clearing (count : pauses acts = k) (failures : UInt32) (session : SessionId)
    (error : BrokerError) :
    Leads service fired trials purpose acts ((trials k).clearing (takenId service) session)
      (.ongoing (.trying failures (.closing session error)))
      (afterTrial service failures ((trials k).cleared session error)) := by
  unfold Trial.cleared Trial.clearing
  cases closed : (trials k).close with
  | none => exact .refl _ _
  | some reply =>
    have hears : (trials k).signal? (awaited service (.trying failures (.closing session error))) =
        some (.answered reply) := congrArg (Option.map Signal.answered) closed
    exact leads_one count _ hears

theorem leads_registering (count : pauses acts = k) (failures : UInt32) (session : SessionId) :
    Leads service fired trials purpose acts
      ((trials k).registering (takenId service) service.options.operationLimit session)
      (.ongoing (.trying failures (.registering session)))
      (afterTrial service failures
        ((trials k).registered service.options.operationLimit session)) := by
  have told : Leads service fired trials purpose acts _ _ _ :=
    leads_one count (.trying failures (.registering session)) rfl
  have after :
      pauses (acts ++ [awaited service (.trying failures (.registering session))]) = k := by
    rw [pauses_append, count]
    rfl
  unfold Trial.registered Trial.registering
  cases answer : (trials k).init with
  | none =>
    rw [answer] at told
    exact told.trans (leads_clearing after failures session _)
  | some reply =>
    rw [answer] at told
    cases reply with
    | ok _ => exact told
    | error error => exact told.trans (leads_clearing after failures session error)

theorem leads_trial (count : pauses acts = k) (failures : UInt32) :
    Leads service fired trials purpose acts (trialActs service trials k)
      (.ongoing (.trying failures .connecting))
      (afterTrial service failures ((trials k).ending service.options.operationLimit)) := by
  have after : pauses (acts ++ [awaited service (.trying failures .connecting)]) = k := by
    rw [pauses_append, count]
    rfl
  have told {signal : Signal} (connects : (trials k).signal?
      (awaited service (.trying failures .connecting)) = some signal) :
      Leads service fired trials purpose acts _ _ _ :=
    leads_one count (.trying failures .connecting) connects
  simp only [awaited, Creation.demand, Attempt.demand, Trial.signal?] at told
  unfold trialActs Trial.acts Trial.ending
  cases answer : (trials k).connect with
  | none =>
    rw [answer] at told
    exact told rfl
  | some reply =>
    rw [answer] at told
    cases reply with
    | error error => exact told rfl
    | ok session => exact (told rfl).trans (leads_registering after failures session)

end Trial

/-! ### To the end -/

section Ends

variable {k n : Nat} {error : BrokerError}

theorem fail_eq (within : k ≤ service.creation.retries.toNat)
    (finite : service.creation.retries.toNat + 1 < UInt32.size) (error : BrokerError) :
    Creation.fail service.creation (.ofNat k) error =
      if error.isFatal = true ∨ k = service.creation.retries.toNat then
        .failed (.creationExhausted (.ofNat (k + 1)) error)
      else .ongoing (.pausing (.ofNat (k + 1))) := by
  have count : UInt32.ofNat (k + 1) = .ofNat k + 1 := UInt32.ofNat_add k 1
  have spent : ¬ k < service.creation.retries.toNat ↔ k = service.creation.retries.toNat := by omega
  simp [Creation.fail, Transaction.canRetry_ofNat within finite, count, ← spent]

theorem leads_failing (reached : Reaches service fired trials n)
    (finite : service.creation.retries.toNat + 1 < UInt32.size) (early : k ≤ n) :
    Leads service fired trials purpose [] (failing service trials k)
      (Creation.begin (fired []) 0)
      (Creation.begin (fired (failing service trials k)) (.ofNat k)) := by
  induction k with
  | zero => exact .refl _ _
  | succ k ih =>
    obtain ⟨quiet, error, ends, alive⟩ := reached.fails k early
    have within : k < service.creation.retries.toNat := Nat.lt_of_lt_of_le early reached.within
    have soft : ¬ (error.isFatal = true ∨ k = service.creation.retries.toNat) := by
      simp [alive, within.ne]
    have before := ih (Nat.le_of_succ_le early)
    rw [quiet] at before
    have tried : Leads service fired trials purpose (failing service trials k) _ _ _ :=
      leads_trial (pauses_failing k) (.ofNat k)
    rw [ends, afterTrial, fail_eq within.le finite, if_neg soft] at tried
    have rested : Leads service fired trials purpose
        (failing service trials k ++ trialActs service trials k) _ _ _ :=
      leads_one rfl (.pausing (.ofNat (k + 1))) rfl
    rw [failing_succ, ← List.append_assoc]
    exact (before.trans tried).trans rested

theorem next_start :
    next service fired trials (start service purpose) =
      ⟨Activity.borrow service (fired []) purpose, []⟩ := rfl

theorem next_eq_self (deaf : x.hears? service trials = none) :
    next service fired trials x = x := by
  rw [next, deaf]
  rfl

/-- Where it comes to, nothing happens to it any more. -/
theorem ComesTo.rests (h : ComesTo service fired trials purpose x) :
    next service fired trials x = x := by
  refine next_eq_self ?_
  cases h with
  | closed | cancelled | exhausted => cases purpose <;> rfl
  | hit | made => cases purpose <;> rfl
  | @held n session error reached quiet ends =>
    have unclosed : (trials n).close = none := Trial.close_of_held ends
    have here : pauses (failing service trials n ++ trialActs service trials n) = n := by
      rw [pauses_append, pauses_failing, trialActs, pauses_acts, Nat.add_zero]
    exact (congrArg (fun k => (trials k).close.map Signal.answered) here).trans
      (by rw [unclosed]; rfl)

theorem exists_reaches (fired : List Demand → Bool) (trials : Nat → Trial)
    (isOpen : service.pool.isClosed = false) (dry : service.pool.idle = []) :
    ∃ n, Reaches service fired trials n ∧
      (Fails service fired trials n → n = service.creation.retries.toNat) := by
  classical
  by_cases breaks : ∃ k < service.creation.retries.toNat, ¬ Fails service fired trials k
  · obtain ⟨within, stops⟩ := Nat.find_spec breaks
    refine ⟨Nat.find breaks, ⟨isOpen, dry, within.le, fun k early => ?_⟩, (absurd · stops)⟩
    by_contra fails
    exact Nat.find_min breaks early ⟨early.trans within, fails⟩
  · have fails : ∀ k < service.creation.retries.toNat, Fails service fired trials k := by
      simpa using breaks
    exact ⟨_, ⟨isOpen, dry, Nat.le_refl _, fails⟩, fun _ => rfl⟩

theorem exists_ending (purpose : Purpose) (reached : Reaches service fired trials n)
    (last : Fails service fired trials n → n = service.creation.retries.toNat)
    (finite : service.creation.retries.toNat + 1 < UInt32.size) :
    ∃ x, ComesTo service fired trials purpose x ∧
      (next service fired trials)^[x.acts.length]
        (creating service purpose (Creation.begin (fired []) 0) []) = x := by
  have before : Leads service fired trials purpose _ _ _ _ :=
    leads_failing reached finite (Nat.le_refl n)
  cases fires : fired (failing service trials n) with
  | true =>
    rw [fires] at before
    exact ⟨_, .cancelled reached fires, Eq.trans before (creating_failed _ _)⟩
  | false =>
    rw [fires] at before
    have tried := before.trans (leads_trial (pauses_failing n) (.ofNat n))
    cases ends : (trials n).ending service.options.operationLimit with
    | made session =>
      rw [ends] at tried
      exact ⟨_, .made reached fires ends, Eq.trans tried (creating_made session _)⟩
    | failed error =>
      have stops : error.isFatal = true ∨ n = service.creation.retries.toNat := by
        cases alive : error.isFatal with
        | true => exact .inl rfl
        | false => exact .inr (last ⟨fires, error, ends, alive⟩)
      rw [ends, afterTrial, fail_eq reached.within finite, if_pos stops] at tried
      exact ⟨_, .exhausted reached fires ends stops, Eq.trans tried (creating_failed _ _)⟩
    | held session error =>
      rw [ends] at tried
      exact ⟨_, .held reached fires ends, tried⟩

/-- A borrow comes to where the pool, the broker's answers and the token lead it, and stays
there. -/
theorem comes_to_rest (service : Service) (purpose : Purpose) (fired : List Demand → Bool)
    (trials : Nat → Trial) (finite : service.creation.retries.toNat + 1 < UInt32.size) :
    ∃ x, ComesTo service fired trials purpose x ∧ ∀ turns, x.acts.length < turns →
      (next service fired trials)^[turns] (start service purpose) = x := by
  obtain ⟨x, comes, ends⟩ : ∃ x, ComesTo service fired trials purpose x ∧
      (next service fired trials)^[x.acts.length]
        ⟨Activity.borrow service (fired []) purpose, []⟩ = x := by
    cases shut : service.pool.isClosed with
    | true =>
      refine ⟨_, .closed shut, ?_⟩
      simp [Activity.borrow, Pool.lookup, shut, refuse_eq]
    | false =>
      cases found : service.pool.idle with
      | cons handle idle =>
        refine ⟨_, .hit shut found, ?_⟩
        simp [Activity.borrow, Pool.lookup, shut, found, serve_eq]
      | nil =>
        obtain ⟨n, reached, last⟩ := exists_reaches fired trials shut found
        obtain ⟨x, comes, ends⟩ := exists_ending purpose reached last finite
        have missed : Activity.borrow service (fired []) purpose =
            (creating service purpose (Creation.begin (fired []) 0) []).move := by
          simp [Activity.borrow, Pool.lookup, shut, found, creating, numbered, takenId,
            IdSource.nextId, IdSource.next, IdSource.idText]
        exact ⟨x, comes, missed ▸ ends⟩
  refine ⟨x, comes, fun turns late => ?_⟩
  obtain ⟨more, rfl⟩ := Nat.exists_eq_add_of_lt late
  rw [Nat.add_right_comm, Nat.add_comm, Function.iterate_add_apply, Function.iterate_succ_apply,
    next_start, ends, Function.iterate_fixed comes.rests]

/-- The first session could not be registered in time and was closed; the second one serves. -/
theorem secondTry_comes_to_rest :
    let service : Service :=
      { options := { brokers := [], baseId := "svc" }
        retry := .immediate 0
        creation := .immediate 1
        topic := "results" }
    let trials : Nat → Trial := fun k =>
      if k = 0 then ⟨some (.ok 0), none, some (.ok ())⟩ else ⟨some (.ok 1), some (.ok ()), none⟩
    ∃ x, ComesTo service (fun _ => false) trials (.lend "a") x ∧
      x.move.activity = .ended (.lent (.ok "svc-1")) ∧
      x.move.pool = { created := 1, ids := ⟨1⟩ } ∧
      x.acts =
        [.connection "svc-1" (.ofSecs 10), .answer 0 "svc-1" .init (some (.ofSecs 10)),
          .answer 0 "svc-1" .close none, .pause .zero true,
          .connection "svc-1" (.ofSecs 10), .answer 1 "svc-1" .init (some (.ofSecs 10))] := by
  intro service trials
  obtain ⟨x, comes, rests⟩ :=
    comes_to_rest service (.lend "a") (fun _ => false) trials (by decide)
  have ends : x = (next service (fun _ => false) trials)^[7] (start service (.lend "a")) := by
    rw [← rests (x.acts.length + 1 + 7) (by omega), Function.iterate_add_apply]
    exact Function.iterate_fixed (by decide +kernel) _
  refine ⟨x, comes, ?_⟩
  rw [ends]
  decide +kernel

end Ends

end Borrowing

end OutcomeRelay
