import LinkedControls.Settings.Basic

namespace LinkedControls

inductive Failure
  | sync (e : SyncError)
  | store (e : StoreError)
  | query (e : QueryError)
  | settings (e : SettingsError)
deriving DecidableEq

namespace Failure

def message : Failure → String
  | .sync e => "Sync error: " ++ e.message
  | .store e => "Store error: " ++ e.message
  | .query e => "Query error: " ++ e.message
  | .settings e => "Config error: " ++ e.message

def isNotFound : Failure → Bool
  | .sync e => e.isNotFound
  | .store (.controlNotFound _) => true
  | .settings (.notFound _) => true
  | _ => false

def unknownMessage (s : String) : String := "Unknown error: " ++ s

def named (name : String) (fields : List (String × Json)) : String × Json :=
  (name, .object fields)

def syncParts : SyncError → String × Json
  | .groupNotFound id => named "GroupNotFound" [("id", .text id)]
  | .ruleNotFound id => named "RuleNotFound" [("id", .text id)]
  | .conflictNotFound id => named "ConflictNotFound" [("id", .text id)]
  | .notAMember group control =>
      named "NotAMember" [("group_id", .text group), ("control_id", .text control)]
  | .invalidGroup id message =>
      named "InvalidGroup" [("id", .text id), ("message", .text message)]
  | .repository message => named "Repository" [("message", .text message)]

def storeParts : StoreError → String × Json
  | .controlNotFound id => named "ControlNotFound" [("id", .text id)]
  | .alreadyRegistered id => named "AlreadyRegistered" [("id", .text id)]
  | .typeMismatch id expected actual =>
      named "TypeMismatch"
        [("id", .text id), ("expected", .text expected.name), ("actual", .text actual)]

def queryParts : QueryError → String × Json
  | .validation errors warnings =>
      named "Validation" [("errors", .texts errors), ("warnings", .texts warnings)]
  | .execution message elapsed =>
      named "Execution" [("message", .text message), ("elapsed_ms", .ofNat elapsed)]

def settingsParts : SettingsError → String × Json
  | .notFound path => named "NotFound" [("path", .text path)]
  | .malformed message => named "ParseError" [("message", .text message)]
  | .invalid field message =>
      named "ValidationError" [("field", .text field), ("message", .text message)]
  | .outOfBounds field =>
      named "ValidationError" [("field", .text field), ("message", .text "out of bounds")]
  | .unwritable message => named "WriteError" [("message", .text message)]

def parts : Failure → String × String × Json
  | .sync e => ("Sync", syncParts e)
  | .store e => ("Store", storeParts e)
  | .query e => ("Query", queryParts e)
  | .settings e => ("Config", settingsParts e)

def name (f : Failure) : String := f.parts.2.1

def toJson (f : Failure) : Json :=
  let (domain, name, details) := f.parts
  .object [("domain", .text domain),
    ("error", .object [("type", .text name), ("details", details)])]

open Json

def texts? (names : List String) (details : Json) : Option (List String) := do
  (← details.members? names).mapM (required asText?)

def syncOf? (name : String) (details : Json) : Option SyncError := do
  match name with
  | "GroupNotFound" => match ← texts? ["id"] details with
    | [id] => some (.groupNotFound id)
    | _ => none
  | "RuleNotFound" => match ← texts? ["id"] details with
    | [id] => some (.ruleNotFound id)
    | _ => none
  | "ConflictNotFound" => match ← texts? ["id"] details with
    | [id] => some (.conflictNotFound id)
    | _ => none
  | "NotAMember" => match ← texts? ["group_id", "control_id"] details with
    | [group, control] => some (.notAMember group control)
    | _ => none
  | "InvalidGroup" => match ← texts? ["id", "message"] details with
    | [id, message] => some (.invalidGroup id message)
    | _ => none
  | "Repository" => match ← texts? ["message"] details with
    | [message] => some (.repository message)
    | _ => none
  | _ => none

def storeOf? (name : String) (details : Json) : Option StoreError := do
  match name with
  | "ControlNotFound" => match ← texts? ["id"] details with
    | [id] => some (.controlNotFound id)
    | _ => none
  | "AlreadyRegistered" => match ← texts? ["id"] details with
    | [id] => some (.alreadyRegistered id)
    | _ => none
  | "TypeMismatch" => match ← details.members? ["id", "expected", "actual"] with
    | [id, expected, actual] =>
        return .typeMismatch (← required asText? id) (← required (variant? Kind.names) expected)
          (← required asText? actual)
    | _ => none
  | _ => none

def queryOf? (name : String) (details : Json) : Option QueryError := do
  match name with
  | "Validation" => match ← details.members? ["errors", "warnings"] with
    | [errors, warnings] =>
        return .validation (← required (asList? asText?) errors)
          (← required (asList? asText?) warnings)
    | _ => none
  | "Execution" => match ← details.members? ["message", "elapsed_ms"] with
    | [message, elapsed] =>
        return .execution (← required asText? message)
          (← required (asNat? Settings.numberLimit) elapsed)
    | _ => none
  | _ => none

def settingsOf? (name : String) (details : Json) : Option SettingsError := do
  match name with
  | "NotFound" => match ← texts? ["path"] details with
    | [path] => some (.notFound path)
    | _ => none
  | "ParseError" => match ← texts? ["message"] details with
    | [message] => some (.malformed message)
    | _ => none
  | "ValidationError" => match ← texts? ["field", "message"] details with
    | [field, message] => some (.invalid field message)
    | _ => none
  | "WriteError" => match ← texts? ["message"] details with
    | [message] => some (.unwritable message)
    | _ => none
  | _ => none

def ofJson? (j : Json) : Option Failure := do
  let (domain, e) ← j.adjacent? "domain" "error"
  let (name, details) ← e.adjacent? "type" "details"
  match domain with
  | "Sync" => (syncOf? name details).map .sync
  | "Store" => (storeOf? name details).map .store
  | "Query" => (queryOf? name details).map .query
  | "Config" => (settingsOf? name details).map .settings
  | _ => none

end Failure

end LinkedControls
