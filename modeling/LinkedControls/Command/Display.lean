import LinkedControls.Filter.Apply
import LinkedControls.Json.Printer
import LinkedControls.Link.Query
import LinkedControls.Query.Render
import LinkedControls.Query.Safety
import LinkedControls.Settings.Basic
import LinkedControls.Sync.Session
import LinkedControls.Sync.Status
import LinkedControls.Text.Grid
import LinkedControls.Value.Tagged

namespace LinkedControls

def Value.display : Value → String
  | .null => "-"
  | .text s => s
  | v => v.toJson.compact

namespace Display

def taggedFields (values : List (String × Value)) : Json :=
  .object (values.map fun (name, v) => (name, v.tagged))

def occurrence (o : Template.Occurrence) : Json :=
  .object [
    ("control_id", .text o.reference.control),
    ("path", .ofOption .text o.reference.path),
    ("matched", .text (String.ofList o.source)),
    ("start", .ofNat o.start),
    ("end", .ofNat o.stop)]

def occurrences (template : List Char) : Json :=
  .array ((Template.occurrences template).map occurrence)

def filled (template : List Char) (s : Snapshot) : Json :=
  .object [
    ("sql", .text (String.ofList (Template.substitute template s))),
    ("references", occurrences template),
    ("unresolved", .texts (Template.unresolved template s))]

def parameterized (template : List Char) (placeholder : String) (s : Snapshot) : Json :=
  .object [
    ("sql", .text (String.ofList (Template.parameterize template placeholder))),
    ("params", taggedFields (Template.parameters template placeholder s)),
    ("references", occurrences template),
    ("unresolved", .texts (Template.unbound template placeholder s))]

def unresolvedLines (keys : List String) : List String :=
  keys.map fun key => "! " ++ key ++ " rendered as NULL"

def filledLines (template : List Char) (s : Snapshot) : List String :=
  String.ofList (Template.substitute template s) ::
    unresolvedLines (Template.unresolved template s)

def parameterizedLines (template : List Char) (placeholder : String) (s : Snapshot) :
    List String :=
  String.ofList (Template.parameterize template placeholder) ::
    (Template.parameters template placeholder s).map
      (fun (name, v) => "  :" ++ name ++ " = " ++ v.display) ++
    unresolvedLines (Template.unbound template placeholder s)

def report (r : Report) : Json :=
  .object [
    ("is_valid", .bool r.isValid),
    ("errors", .texts r.errors),
    ("warnings", .texts r.warnings),
    ("parameter_count", .ofNat r.parameterCount)]

def reportLines (r : Report) : List String :=
  (if r.isValid then "✓ Query is valid" else "✗ Query is invalid") ::
    r.errors.map ("  error: " ++ ·) ++
    r.warnings.map ("  warning: " ++ ·) ++
    ["  " ++ toString r.parameterCount ++ " parameter reference(s)"]

def field : Option Json → String
  | some (.text s) => s
  | some j => j.compact
  | none => "-"

def columns (records : List Record) : List String :=
  (records.flatMap fun r => r.map (·.1)).foldl
    (fun seen name => if seen.contains name then seen else seen ++ [name]) []

def recordLines (records : List Record) : List String :=
  match records with
  | [] => ["No records match."]
  | records =>
      let names := columns records
      Text.Grid.lines names (records.map fun r => names.map fun name => field (r.lookup name))

def filterLines (predicates : List Predicate) (kept : List Record) (total : Nat) : List String :=
  predicates.map (fun p => "• " ++ p.control ++ " on " ++ p.column) ++
    recordLines kept ++
    ["", toString kept.length ++ " of " ++ toString total ++ " records kept"]

def rejectReason : Link.RejectReason → List (String × Json)
  | .tooLong length limit =>
      [("reason", .text "too_long"), ("len", .ofNat length), ("max", .ofNat limit)]
  | .tooMany limit => [("reason", .text "too_many"), ("max", .ofNat limit)]
  | .scriptPattern => [("reason", .text "script_pattern")]
  | .undecodable => [("reason", .text "undecodable")]

def decoded (d : Link.Decoded) : Json :=
  .object [
    ("values", taggedFields d.values),
    ("rejected", .array (d.rejected.map fun r =>
      .object (("key", .text r.key) :: rejectReason r.reason)))]

def details (name : String) (fields : List (String × Nat)) : String :=
  name ++ " \x7b " ++ ", ".intercalate (fields.map fun (k, n) => k ++ ": " ++ toString n) ++
    " \x7d"

def rejectReasonText : Link.RejectReason → String
  | .tooLong length limit => details "TooLong" [("len", length), ("max", limit)]
  | .tooMany limit => details "TooMany" [("max", limit)]
  | .scriptPattern => "ScriptPattern"
  | .undecodable => "Undecodable"

def decodedLines (d : Link.Decoded) : List String :=
  (if d.values.isEmpty then ["No control values in input."] else []) ++
    d.values.map (fun (id, v) => "✓ " ++ id ++ " = " ++ v.display) ++
    d.rejected.map fun r => "✗ " ++ r.key ++ " rejected: " ++ rejectReasonText r.reason

def settingsLines (s : Settings) : List String := [
  "Sync:",
  "  Debounce: " ++ toString s.sync.debounce ++ "ms",
  "  History limit: " ++ toString s.sync.historyLimit,
  "URL:",
  "  Max params: " ++ toString s.url.pairs,
  "  Max value length: " ++ toString s.url.valueBytes,
  "Query:",
  "  Block invalid: " ++ toString s.query.blockInvalid,
  "  Placeholder prefix: " ++ s.query.placeholder,
  "Log:",
  "  Level: " ++ s.log.level,
  "  JSON: " ++ toString s.log.json]

def eventCells (e : Event) : List String :=
  [e.source, e.control, e.before.display, e.after.display, e.refusal.getD "applied"]

def groupLines (g : Group) (events : List Event) : List String :=
  ["", "Group " ++ g.name ++ " (" ++ g.mode.name ++ ", " ++ toString events.length ++
      " event(s))"] ++
    match events with
    | [] => []
    | events =>
        Text.Grid.lines ["From", "To", "Old", "New", "Result"] (events.reverse.map eventCells)

def conflictLine (c : Conflict) : String :=
  "  " ++ c.status.title ++ " in " ++ c.group ++ ": " ++
    ", ".intercalate (c.values.map fun w => w.control ++ "=" ++ w.value.display)

def sessionLines (s : Session) : List String :=
  let c := s.coordinator
  "Control values:" ::
    c.store.snapshot.sorted.map (fun x => "  " ++ x.id ++ " = " ++ x.value.display) ++
    c.sortedGroups.flatMap (fun g =>
      match c.history g.id none with
      | .ok events => groupLines g events
      | .error _ => []) ++
    match c.conflicts with
    | [] => []
    | conflicts => ["", "Conflicts:"] ++ conflicts.map conflictLine

end Display

end LinkedControls
