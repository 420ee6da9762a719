import LinkedControls.Decimal.Reader
import LinkedControls.Json.Record
import LinkedControls.Link.Query
import LinkedControls.Query.Run
import LinkedControls.Sync.Coordinator

namespace LinkedControls

structure LogSettings where
  level : String
  json : Bool
deriving DecidableEq, Repr

def LogSettings.default : LogSettings := ⟨"info", false⟩

structure Settings where
  sync : SyncSettings
  url : Link.Limits
  query : QuerySettings
  log : LogSettings
deriving DecidableEq, Repr

inductive SettingsError
  | notFound (path : String)
  | malformed (message : String)
  | invalid (field message : String)
  | outOfBounds (field : String)
  | unwritable (message : String)
deriving DecidableEq, Repr

def SettingsError.message : SettingsError → String
  | .notFound path => "Config not found: " ++ path
  | .malformed message => "Config parse error: " ++ message
  | .invalid field message => "Config validation error for " ++ field ++ ": " ++ message
  | .outOfBounds field => "Config validation error for " ++ field ++ ": the value is out of bounds"
  | .unwritable message => "Config write error: " ++ message

namespace Settings

def default : Settings := ⟨.default, .default, .default, .default⟩

def bounds (s : Settings) : List (String × Bool) := [
  ("sync.debounce_ms", decide (10 ≤ s.sync.debounce ∧ s.sync.debounce ≤ 60000)),
  ("sync.history_limit", decide (1 ≤ s.sync.historyLimit ∧ s.sync.historyLimit ≤ 10000)),
  ("url.max_params", decide (1 ≤ s.url.pairs ∧ s.url.pairs ≤ 1000)),
  ("url.max_value_len", decide (16 ≤ s.url.valueBytes ∧ s.url.valueBytes ≤ 65536)),
  ("query.placeholder_prefix",
    decide (1 ≤ s.query.placeholder.length ∧ s.query.placeholder.length ≤ 16)),
  ("log.level", decide (1 ≤ s.log.level.length))]

def fault? (s : Settings) : Option String :=
  (s.bounds.find? fun field => !field.2).map (·.1)

def validate (s : Settings) : Except SettingsError Unit :=
  match s.fault? with
  | some field => .error (.outOfBounds field)
  | none => .ok ()

def numberLimit : Nat := 0xFFFFFFFFFFFFFFFF

open Json in
def syncOfJson? (j : Json) : Option SyncSettings :=
  match j.members? ["debounce_ms", "history_limit"] with
  | some [debounce, history] => do
      return ⟨← withDefault SyncSettings.default.debounce (asNat? numberLimit) debounce,
        ← withDefault SyncSettings.default.historyLimit (asNat? numberLimit) history⟩
  | _ => none

open Json in
def limitsOfJson? (j : Json) : Option Link.Limits :=
  match j.members? ["max_params", "max_value_len"] with
  | some [pairs, bytes] => do
      return ⟨← withDefault Link.Limits.default.pairs (asNat? numberLimit) pairs,
        ← withDefault Link.Limits.default.valueBytes (asNat? numberLimit) bytes⟩
  | _ => none

open Json in
def queryOfJson? (j : Json) : Option QuerySettings :=
  match j.members? ["block_invalid", "placeholder_prefix"] with
  | some [block, placeholder] => do
      return ⟨← withDefault QuerySettings.default.blockInvalid asBool? block,
        ← withDefault QuerySettings.default.placeholder asText? placeholder⟩
  | _ => none

open Json in
def logOfJson? (j : Json) : Option LogSettings :=
  match j.members? ["level", "json"] with
  | some [level, json] => do
      return ⟨← withDefault LogSettings.default.level asText? level,
        ← withDefault LogSettings.default.json asBool? json⟩
  | _ => none

open Json in
def ofJson? (j : Json) : Option Settings :=
  match j.members? ["sync", "url", "query", "log"] with
  | some [sync, url, query, log] => do
      return {
        sync := ← withDefault .default syncOfJson? sync
        url := ← withDefault .default limitsOfJson? url
        query := ← withDefault .default queryOfJson? query
        log := ← withDefault .default logOfJson? log }
  | _ => none

def toJson (s : Settings) : Json :=
  .object [
    ("sync", .object [
      ("debounce_ms", .ofNat s.sync.debounce), ("history_limit", .ofNat s.sync.historyLimit)]),
    ("url", .object [
      ("max_params", .ofNat s.url.pairs), ("max_value_len", .ofNat s.url.valueBytes)]),
    ("query", .object [
      ("block_invalid", .bool s.query.blockInvalid),
      ("placeholder_prefix", .text s.query.placeholder)]),
    ("log", .object [("level", .text s.log.level), ("json", .bool s.log.json)])]

end Settings

inductive SettingKey
  | debounce
  | historyLimit
  | maxPairs
  | maxValueBytes
  | blockInvalid
  | placeholder
  | logLevel
  | logJson
deriving DecidableEq, Repr

namespace SettingKey

def name : SettingKey → String
  | .debounce => "sync.debounce_ms"
  | .historyLimit => "sync.history_limit"
  | .maxPairs => "url.max_params"
  | .maxValueBytes => "url.max_value_len"
  | .blockInvalid => "query.block_invalid"
  | .placeholder => "query.placeholder_prefix"
  | .logLevel => "log.level"
  | .logJson => "log.json"

def all : List SettingKey :=
  [.debounce, .historyLimit, .maxPairs, .maxValueBytes, .blockInvalid, .placeholder, .logLevel,
    .logJson]

def named? (s : String) : Option SettingKey := all.find? (·.name == s)

end SettingKey

inductive SettingFault
  | notANumber (value : String)
  | notABoolean (value : String)
deriving DecidableEq, Repr

def SettingFault.message : SettingFault → String
  | .notANumber value => "Invalid number: " ++ value
  | .notABoolean value => "Invalid boolean: " ++ value

namespace Settings

def readNumber (value : String) : Except SettingFault Nat :=
  match Decimal.naturalOfText? numberLimit value.toList with
  | some n => .ok n
  | none => .error (.notANumber value)

def readBool (value : String) : Except SettingFault Bool :=
  if value = "true" then .ok true
  else if value = "false" then .ok false
  else .error (.notABoolean value)

def set (s : Settings) (key : SettingKey) (value : String) : Except SettingFault Settings :=
  match key with
  | .debounce => do return { s with sync := { s.sync with debounce := ← readNumber value } }
  | .historyLimit => do
      return { s with sync := { s.sync with historyLimit := ← readNumber value } }
  | .maxPairs => do return { s with url := { s.url with pairs := ← readNumber value } }
  | .maxValueBytes => do return { s with url := { s.url with valueBytes := ← readNumber value } }
  | .blockInvalid => do
      return { s with query := { s.query with blockInvalid := ← readBool value } }
  | .placeholder => .ok { s with query := { s.query with placeholder := value } }
  | .logLevel => .ok { s with log := { s.log with level := value } }
  | .logJson => do return { s with log := { s.log with json := ← readBool value } }

end Settings

end LinkedControls
