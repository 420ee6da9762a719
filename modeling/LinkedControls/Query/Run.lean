import LinkedControls.Query.Safety

/-!
Running a template: it is filled, checked, and handed to whoever executes queries.
-/

namespace LinkedControls

structure QuerySettings where
  blockInvalid : Bool
  placeholder : String
deriving DecidableEq, Repr

def QuerySettings.default : QuerySettings := ⟨true, Template.defaultPlaceholder⟩

inductive QueryMode
  | literal
  | parameterized
deriving DecidableEq, Repr

structure Query where
  sql : List Char
  parameters : List (String × Value)
deriving DecidableEq

inductive QueryError
  | validation (errors warnings : List String)
  | execution (message : String) (elapsed : Nat)
deriving DecidableEq, Repr

namespace QueryError

def message : QueryError → String
  | .validation errors _ => "Query blocked by validation: " ++ "; ".intercalate errors
  | .execution message elapsed =>
      "Query execution failed after " ++ toString elapsed ++ "ms: " ++ message

def elapsed? : QueryError → Option Nat
  | .validation _ _ => none
  | .execution _ elapsed => some elapsed

end QueryError

namespace Query

def ofTemplate (template : List Char) (s : Snapshot) (settings : QuerySettings) :
    QueryMode → Query
  | .literal => ⟨Template.substitute template s, []⟩
  | .parameterized =>
      ⟨Template.parameterize template settings.placeholder,
        Template.parameters template settings.placeholder s⟩

def Executor (α : Type) : Type := Query → Nat × Except String (List α)

structure Answer (α : Type) where
  query : Query
  report : Report
  records : List α

def prepare (template : List Char) (s : Snapshot) (settings : QuerySettings) (mode : QueryMode) :
    Except QueryError (Query × Report) :=
  let query := ofTemplate template s settings mode
  let report := Safety.checkFilled template query.sql s
  if settings.blockInvalid && !report.isValid then
    .error (.validation report.errors report.warnings)
  else .ok (query, report)

def run {α : Type} (execute : Executor α) (template : List Char) (s : Snapshot)
    (settings : QuerySettings) (mode : QueryMode) : Except QueryError (Answer α) := do
  let (query, report) ← prepare template s settings mode
  match execute query with
  | (_, .ok records) => return ⟨query, report, records⟩
  | (elapsed, .error message) => throw (.execution message elapsed)

end Query

end LinkedControls
