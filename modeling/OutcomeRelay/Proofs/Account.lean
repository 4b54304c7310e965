import OutcomeRelay.Proofs.Chronicle

set_option autoImplicit false

namespace OutcomeRelay

/-- What the chronicle tells about one publish. -/
structure Account where
  order : Option (String × ByteArray)
  sends : Nat
  commits : Nat
  lateSends : Nat
  lateCommits : Nat
  posted : List Posting
deriving DecidableEq

namespace Account

def called (a : Account) (i : Nat) (buffer : List Entry) (producer : String) : Request → Account
  | .send _ _ => { a with sends := a.sends + 1 }
  | .commit =>
    { a with
      commits := a.commits + 1
      posted := a.posted ++ buffer.map (Entry.post (some i) producer) }
  | _ => a

def missed (a : Account) : Request → Account
  | .send _ _ => { a with lateSends := a.lateSends + 1 }
  | .commit => { a with lateCommits := a.lateCommits + 1 }
  | _ => a

structure Untouched (a : Account) : Prop where
  sends : a.sends = 0
  commits : a.commits = 0
  lateSends : a.lateSends = 0
  lateCommits : a.lateCommits = 0
  posted : a.posted = []

/-- Nothing is visible before a commit has taken effect; from then on one copy of the record is, and
one more for each send that was answered too late. -/
def Shown (a : Account) (p : Posting) : Prop :=
  a.posted = if a.commits = 0 then [] else List.replicate (a.lateSends + 1) p

theorem Untouched.shown {a : Account} (h : a.Untouched) (p : Posting) : a.Shown p := by
  simp [Shown, h.commits, h.posted]

end Account

namespace Chronicle

def account (i : Nat) (past : Chronicle) : Account where
  order := past.order? i
  sends := past.effects i .send
  commits := past.effects i .commit
  lateSends := past.late i .send
  lateCommits := past.late i .commit
  posted := past.postingsOf i

variable (i : Nat) (past : Chronicle)

theorem account_nil : Account.Untouched (account i []) := ⟨rfl, rfl, rfl, rfl, rfl⟩

theorem account_cons (note : Note) :
    account i (note :: past) =
      { order := (note.order? i).or (past.account i).order
        sends := (past.account i).sends + if note.isEffect i .send then 1 else 0
        commits := (past.account i).commits + if note.isEffect i .commit then 1 else 0
        lateSends := (past.account i).lateSends + if note.isLate i .send then 1 else 0
        lateCommits := (past.account i).lateCommits + if note.isLate i .commit then 1 else 0
        posted := (past.account i).posted ++
          (note.posts past.buffer).filter (·.committer = some i) } := by
  have order : order? i (note :: past) = (note.order? i).or (past.order? i) := by
    unfold order?
    rw [List.findSome?_cons]
    cases note.order? i <;> rfl
  simp [account, order, effects, late, postingsOf, postings, List.countP_cons]

theorem account_ordered (topic : String) (payload : ByteArray) :
    account i (.ordered i topic payload :: past) =
      { past.account i with order := some (topic, payload) } := by
  simp [account_cons, Note.order?, Note.isEffect, Note.isLate, Note.posts]

theorem account_ordered_ne {other : Nat} (h : other ≠ i) (topic : String) (payload : ByteArray) :
    account i (.ordered other topic payload :: past) = past.account i := by
  simp [account_cons, Note.order?, Note.isEffect, Note.isLate, Note.posts, h]

theorem account_called (s : SessionId) (producer : String) (request : Request) :
    account i (.called (some i) s producer request (.ok ()) :: past) =
      (past.account i).called i (past.buffer s) producer request := by
  rw [account_cons]
  cases request <;>
    simp [Account.called, Note.order?, Note.isEffect, Note.isLate, Note.posts, Request.operation,
      Entry.post]

theorem account_failed (caller : Option Nat) (s : SessionId) (producer : String)
    (request : Request) (error : BrokerError) :
    account i (.called caller s producer request (.error error) :: past) = past.account i := by
  rw [account_cons]
  cases request <;> simp [Note.order?, Note.isEffect, Note.isLate, Note.posts]

theorem account_called_ne {caller : Option Nat} (h : caller ≠ some i) (s : SessionId)
    (producer : String) (request : Request) (reply : Reply) :
    account i (.called caller s producer request reply :: past) = past.account i := by
  have foreign : ((past.buffer s).map (Entry.post caller producer)).filter
      (·.committer = some i) = [] := by
    simp [Entry.post, h]
  rw [account_cons]
  cases request <;> cases reply <;>
    simp [Note.order?, Note.isEffect, Note.isLate, Note.posts, foreign, h]

theorem account_missed (request : Request) :
    account i (.missed (some i) request (.ok ()) :: past) = (past.account i).missed request := by
  rw [account_cons]
  cases request <;>
    simp [Account.missed, Note.order?, Note.isEffect, Note.isLate, Note.posts, Request.operation]

theorem account_missed_error (caller : Option Nat) (request : Request) (error : BrokerError) :
    account i (.missed caller request (.error error) :: past) = past.account i := by
  simp [account_cons, Note.order?, Note.isEffect, Note.isLate, Note.posts]

theorem account_missed_ne {caller : Option Nat} (h : caller ≠ some i) (request : Request)
    (reply : Reply) : account i (.missed caller request reply :: past) = past.account i := by
  simp [account_cons, Note.order?, Note.isEffect, Note.isLate, Note.posts, h]

theorem account_called_other {request : Request} (h : request = .init ∨ request = .close)
    (caller : Option Nat) (s : SessionId) (producer : String) (reply : Reply) :
    account i (.called caller s producer request reply :: past) = past.account i := by
  rcases eq_or_ne caller (some i) with rfl | foreign
  · cases reply with
    | error error => exact account_failed i past _ s producer request error
    | ok _ =>
      rw [account_called]
      rcases h with rfl | rfl <;> rfl
  · exact account_called_ne i past foreign s producer request reply

theorem account_missed_other {request : Request} (h : request = .init ∨ request = .close)
    (caller : Option Nat) (reply : Reply) :
    account i (.missed caller request reply :: past) = past.account i := by
  rcases eq_or_ne caller (some i) with rfl | foreign
  · cases reply with
    | error error => exact account_missed_error i past _ request error
    | ok _ =>
      rw [account_missed]
      rcases h with rfl | rfl <;> rfl
  · exact account_missed_ne i past foreign request reply

end Chronicle

end OutcomeRelay
