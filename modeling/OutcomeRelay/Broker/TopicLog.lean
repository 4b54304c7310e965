import OutcomeRelay.Equality

set_option autoImplicit false

/-!
# The log of a topic

A topic is spread over a fixed number of partitions. Records have no key, so they go to the
partitions in turn; within a partition a record is named by its offset. Topics come into being with
their first record.
-/

namespace OutcomeRelay

structure StoredRecord where
  partition : Nat
  offset : Nat
  producer : String
  payload : ByteArray
deriving DecidableEq

structure TopicLog where
  partitions : List (List StoredRecord)
  cursor : Nat
deriving DecidableEq

namespace TopicLog

def empty (partitions : Nat) : TopicLog := ⟨List.replicate partitions [], 0⟩

/-- Puts a record at the end of the partition whose turn it is. -/
def append (log : TopicLog) (producer : String) (payload : ByteArray) : TopicLog where
  partitions := log.partitions.modify log.cursor fun entries =>
    entries ++ [⟨log.cursor, entries.length, producer, payload⟩]
  cursor := (log.cursor + 1) % log.partitions.length

def records (log : TopicLog) : List StoredRecord := log.partitions.flatten

end TopicLog

structure Topics where
  partitions : Nat
  logs : List (String × TopicLog)
deriving DecidableEq

namespace Topics

def empty (partitions : Nat) : Topics := ⟨max partitions 1, []⟩

def log (t : Topics) (topic : String) : TopicLog :=
  (t.logs.lookup topic).getD (TopicLog.empty t.partitions)

/-- Replaces the log of a topic, which keeps its place among the topics. -/
def putLog (logs : List (String × TopicLog)) (topic : String) (log : TopicLog) :
    List (String × TopicLog) :=
  match logs with
  | [] => [(topic, log)]
  | (name, old) :: rest =>
    if name = topic then (name, log) :: rest else (name, old) :: putLog rest topic log

def append (t : Topics) (producer : String) (topic : String) (payload : ByteArray) : Topics :=
  { t with logs := putLog t.logs topic ((t.log topic).append producer payload) }

def appendAll (t : Topics) (producer : String) (records : List (String × ByteArray)) : Topics :=
  records.foldl (fun t record => t.append producer record.1 record.2) t

def records (t : Topics) (topic : String) : List StoredRecord := (t.log topic).records

end Topics

end OutcomeRelay
