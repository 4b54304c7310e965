import OutcomeRelay.Proofs.Log
import OutcomeRelay.World.Basic

set_option autoImplicit false

/-!
# The chronicle of a run

While a world runs, three kinds of things are written down: that a publish was ordered, how a
session answered a request, and that a limit passed while such an answer was on its way. From the
chronicle alone it can be read which records a session holds back, which records were made visible,
and which publish sent and committed each of them. That this reading agrees with what the broker
keeps is shown in `OutcomeRelay.Proofs.Ledger`.
-/

namespace OutcomeRelay

/-- What is written down when something happens. A publish is named by its task, and `caller` is
the publish that a request is made for, if it is made for one. -/
inductive Note where
  | ordered (publish : Nat) (topic : String) (payload : ByteArray)
  | called (caller : Option Nat) (session : SessionId) (producer : String) (request : Request)
      (reply : Reply)
  | missed (caller : Option Nat) (request : Request) (reply : Reply)
deriving DecidableEq

abbrev Chronicle := List Note

/-- A record that a session holds back until its commit. -/
structure Entry where
  sender : Option Nat
  topic : String
  payload : ByteArray
deriving DecidableEq

/-- A record that has become visible, with the publishes that sent it and that committed it. -/
structure Posting where
  sender : Option Nat
  committer : Option Nat
  producer : String
  topic : String
  payload : ByteArray
deriving DecidableEq

namespace Entry

def record (e : Entry) : String × ByteArray := (e.topic, e.payload)

def post (committer : Option Nat) (producer : String) (e : Entry) : Posting :=
  ⟨e.sender, committer, producer, e.topic, e.payload⟩

end Entry

def Posting.content (p : Posting) : String × ByteArray := (p.producer, p.payload)

def Request.rebuffer (caller : Option Nat) (entries : List Entry) : Request → List Entry
  | init => entries
  | send topic payload => entries ++ [⟨caller, topic, payload⟩]
  | begin => []
  | commit => []
  | abort => []
  | close => []

namespace Note

def rebuffer (s : SessionId) (entries : List Entry) : Note → List Entry
  | called caller session _ request (.ok ()) =>
    if session = s then request.rebuffer caller entries else entries
  | _ => entries

def posts (buffer : SessionId → List Entry) : Note → List Posting
  | called caller session producer .commit (.ok ()) =>
    (buffer session).map (Entry.post caller producer)
  | _ => []

def order? (publish : Nat) : Note → Option (String × ByteArray)
  | ordered task topic payload => if task = publish then some (topic, payload) else none
  | _ => none

def isEffect (publish : Nat) (operation : Operation) : Note → Bool
  | called caller _ _ request reply =>
    caller = some publish && request.operation = operation && reply = .ok ()
  | _ => false

def isLate (publish : Nat) (operation : Operation) : Note → Bool
  | missed caller request reply =>
    caller = some publish && request.operation = operation && reply = .ok ()
  | _ => false

def isMissed : Note → Bool
  | missed _ _ _ => true
  | _ => false

end Note

namespace Chronicle

def buffer : Chronicle → SessionId → List Entry
  | [], _ => []
  | note :: past, s => note.rebuffer s (buffer past s)

def postings : Chronicle → List Posting
  | [] => []
  | note :: past => postings past ++ note.posts (buffer past)

def order? (publish : Nat) (past : Chronicle) : Option (String × ByteArray) :=
  past.findSome? (Note.order? publish)

def effects (publish : Nat) (operation : Operation) (past : Chronicle) : Nat :=
  past.countP (Note.isEffect publish operation)

/-- How often the limit passed between the effect of an operation and its answer. -/
def late (publish : Nat) (operation : Operation) (past : Chronicle) : Nat :=
  past.countP (Note.isLate publish operation)

def postingsOf (publish : Nat) (past : Chronicle) : List Posting :=
  (postings past).filter (·.committer = some publish)

/-- No limit passed between the effect of a request and its answer. -/
def Prompt (past : Chronicle) : Prop := ∀ note ∈ past, note.isMissed = false

instance (past : Chronicle) : Decidable past.Prompt :=
  inferInstanceAs (Decidable (∀ note ∈ past, note.isMissed = false))

end Chronicle

namespace Purpose

def isPublish : Purpose → Bool
  | publish _ _ => true
  | lend _ => false

end Purpose

def Outcome.isPublished : Outcome → Bool
  | .published _ => true
  | _ => false

def Activity.isPublish : Activity → Bool
  | waiting _ purpose => purpose.isPublish
  | borrowing purpose => purpose.isPublish
  | creating purpose _ _ => purpose.isPublish
  | transacting _ => true
  | returning _ outcome => outcome.isPublished
  | retiring _ _ outcome => outcome.isPublished
  | _ => false

def Job.record? (service : Service) : Job → Option (String × ByteArray)
  | publish _ topic payload => some (topic, payload)
  | report message stamp =>
    match message.record? service.topic stamp with
    | .ok record => some (record.topic, record.payload)
    | .error _ => none
  | _ => none

def Cluster.producer? (c : Cluster) (s : SessionId) : Option String := c.sessions[s]?.map (·.id)

structure Call where
  caller : Option Nat
  session : SessionId
  request : Request

namespace World

def caller (index : Nat) (task : Task) : Option Nat :=
  if task.activity.isPublish then some index else none

def call? (w : World) : Event → Option Call
  | .effect index =>
    match w.tasks[index]? with
    | none => none
    | some task => match w.demand task with
      | .answer session _ request _ =>
        if task.answer.isSome then none else some ⟨caller index task, session, request⟩
      | _ => none
  | .request slot request =>
    match w.sessions.lookup slot with
    | none => none
    | some session => some ⟨none, session, request⟩
  | _ => none

def noteOf (w : World) (call : Call) : Note :=
  .called call.caller call.session ((w.cluster.producer? call.session).getD "") call.request
    (w.cluster.perform call.session call.request).1

def miss? (w : World) (index : Nat) (task : Task) : Option Note :=
  match w.demand task, task.answer with
  | .answer _ _ request _, some (.answered reply) =>
    some (.missed (caller index task) request reply)
  | _, _ => none

def orderNote? (w : World) (service : Nat) (job : Job) : Option Note :=
  match w.services[service]? with
  | none => none
  | some s => (job.record? s).map fun record => .ordered w.tasks.length record.1 record.2

def note? (w : World) (event : Event) : Option Note :=
  match event with
  | .start service job _ => w.orderNote? service job
  | .expire index =>
    match w.tasks[index]? with
    | none => none
    | some task => if (w.demand task).limit?.isSome then w.miss? index task else none
  | event => (w.call? event).map w.noteOf

def chronicle (w : World) (past : Chronicle) : List Event → Chronicle
  | [] => past
  | event :: events => (w.apply event).chronicle ((w.note? event).toList ++ past) events

def result? (w : World) (publish : Nat) : Option PublishResult :=
  match w.outcome? publish with
  | some (.published result) => some result
  | _ => none

def HasEnded (w : World) (index : Nat) : Prop := (w.outcome? index).isSome = true

instance (w : World) (index : Nat) : Decidable (w.HasEnded index) :=
  inferInstanceAs (Decidable ((w.outcome? index).isSome = true))

/-- The log of the broker consists of these records, topic by topic. -/
def Shows (w : World) (postings : List Posting) : Prop :=
  ∀ topic, ((w.cluster.broker.topics.records topic).map StoredRecord.content).Perm
    ((postings.filter (·.topic = topic)).map Posting.content)

end World

end OutcomeRelay
