import OutcomeRelay.Net.Address
import OutcomeRelay.Producer.Options
import OutcomeRelay.Text.Blank
import OutcomeRelay.Text.Quoted
import OutcomeRelay.Time.Backoff

set_option autoImplicit false

namespace OutcomeRelay

inductive ConfigKey where
  | brokers
  | transactionalId
  | resultsTopic
  | httpAddress
  | operationLimit
  | creationRetries
  | commitRetries
  | backoffBase
  | backoffCap
deriving DecidableEq

def ConfigKey.name : ConfigKey → String
  | brokers => "SAGA_BROKERS"
  | transactionalId => "SAGA_TRANSACTIONAL_ID"
  | resultsTopic => "SAGA_RESULTS_TOPIC"
  | httpAddress => "SAGA_HTTP_ADDR"
  | operationLimit => "SAGA_OPERATION_TIMEOUT_MS"
  | creationRetries => "SAGA_CREATE_MAX_RETRIES"
  | commitRetries => "SAGA_COMMIT_MAX_RETRIES"
  | backoffBase => "SAGA_BACKOFF_BASE_MS"
  | backoffCap => "SAGA_BACKOFF_MAX_MS"

inductive ConfigError where
  | missing (key : ConfigKey)
  | invalid (key : ConfigKey) (value : String)
deriving DecidableEq

namespace ConfigError

def message : ConfigError → String
  | missing key => "missing configuration key " ++ key.name
  | invalid key value => "invalid value " ++ Text.quoted value ++ " for " ++ key.name

end ConfigError

structure Config where
  brokers : List String
  transactionalId : String
  resultsTopic : String
  httpAddress : Net.Address
  operationLimit : Span
  creationRetries : UInt32
  commitRetries : UInt32
  backoffBase : Span
  backoffCap : Span
deriving DecidableEq

namespace Config

abbrev Table := ConfigKey → Option String

def commaParts : List Char → List (List Char)
  | [] => [[]]
  | c :: rest =>
    match commaParts rest with
    | [] => [[c]]
    | part :: parts => if c = ',' then [] :: part :: parts else (c :: part) :: parts

/-- The parts of a text between its commas that are not blank, trimmed. -/
def brokerList (value : String) : List String :=
  ((commaParts value.toList).map fun part => String.ofList (Text.trimChars part)).filter (· ≠ "")

def required (table : Table) (key : ConfigKey) : Except ConfigError String :=
  match table key with
  | none => .error (.missing key)
  | some value => if Text.isBlank value then .error (.missing key) else .ok value

def readOr {α : Type} (table : Table) (key : ConfigKey) (read? : String → Option α) (default : α) :
    Except ConfigError α :=
  match table key with
  | none => .ok default
  | some value => match read? (Text.trim value) with
    | none => .error (.invalid key value)
    | some read => .ok read

def readMillis? (s : String) : Option Span := (Text.readNumeral? UInt64.size s).map Span.ofMillis

def readCount? (s : String) : Option UInt32 := (Text.readNumeral? UInt32.size s).map UInt32.ofNat

def readAddress? (s : String) : Option Net.Address := Net.Address.parse? s.toList

def defaultTopic : String := "saga-step-results"
def defaultAddress : Net.Address := .v4 [0, 0, 0, 0] 8080

def readBrokers (table : Table) : Except ConfigError (List String) := do
  let value ← required table .brokers
  match brokerList value with
  | [] => .error (.missing .brokers)
  | brokers => .ok brokers

/-- The keys are looked at in a fixed order, and the first one whose value is missing or malformed
is the one that is reported. -/
def read (table : Table) : Except ConfigError Config := do
  let brokers ← readBrokers table
  let transactionalId ← required table .transactionalId
  let httpAddress ← readOr table .httpAddress readAddress? defaultAddress
  let operationLimit ← readOr table .operationLimit readMillis? (.ofMillis 10000)
  let creationRetries ← readOr table .creationRetries readCount? 8
  let commitRetries ← readOr table .commitRetries readCount? 5
  let backoffBase ← readOr table .backoffBase readMillis? (.ofMillis 100)
  let backoffCap ← readOr table .backoffCap readMillis? (.ofMillis 5000)
  return {
    brokers := brokers
    transactionalId := transactionalId
    resultsTopic := (table .resultsTopic).getD defaultTopic
    httpAddress := httpAddress
    operationLimit := operationLimit
    creationRetries := creationRetries
    commitRetries := commitRetries
    backoffBase := backoffBase
    backoffCap := backoffCap }

def producerOptions (c : Config) : ProducerOptions where
  brokers := c.brokers
  baseId := c.transactionalId
  operationLimit := c.operationLimit

def creationBackoff (c : Config) : Backoff := ⟨c.backoffBase, c.backoffCap, c.creationRetries⟩

def commitBackoff (c : Config) : Backoff := ⟨c.backoffBase, c.backoffCap, c.commitRetries⟩

end Config

end OutcomeRelay
