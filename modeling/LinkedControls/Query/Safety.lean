import LinkedControls.Pattern.Basic
import LinkedControls.Query.Render

/-!
A shallow check of queries. It looks for shapes that a query for reading never needs, and leaves it
to the caller what to do about them.
-/

namespace LinkedControls

open Pattern

structure Report where
  errors : List String
  warnings : List String
  parameterCount : Nat
deriving DecidableEq, Repr

def Report.isValid (r : Report) : Bool := r.errors.isEmpty

namespace Safety

def gap : Pattern := plus (.one .blank)

def digits : Pattern := plus (.one .digit)

def quoteMark : Pattern := exact '\''

def mutations : List String :=
  ["drop", "delete", "update", "insert", "create", "alter", "truncate"]

def startsWithSelect : Pattern :=
  sequences [.assertion .textStart, blanks, word "select", boundary]

def hasFrom : Pattern := sequences [boundary, word "from", boundary]

def stacked (keyword : String) : Pattern :=
  sequences [exact ';', blanks, word keyword, boundary]

def unionSelect : Pattern :=
  sequences [boundary, word "union", optional (.sequence gap (word "all")), gap, word "select",
    boundary]

def selectStar : Pattern :=
  sequences [boundary, word "select", gap, optional (.sequence (word "distinct") gap), exact '*']

def rowLimit : Pattern :=
  choices [
    sequences [boundary, word "limit", gap, digits],
    sequences [boundary, word "top", blanks, optional (exact '('), blanks, digits],
    sequences [boundary, word "fetch", gap, word "first", boundary]]

def injections : List (Pattern × String) := [
  (sequences [quoteMark, blanks, word "or", gap, quoteMark,
      star (.one (.complement (.single '\''))), quoteMark, blanks, exact '=', blanks, quoteMark],
    "quoted tautology (' OR 'x'='x)"),
  (sequences [quoteMark, blanks, word "or", gap, digits, blanks, exact '=', blanks, digits],
    "numeric tautology (' OR 1=1)"),
  (sequences [boundary, word "or", gap, exact '1', blanks, exact '=', blanks, exact '1', boundary],
    "always-true condition (OR 1=1)"),
  (.sequence quoteMark (.sequence blanks (choices (mutations.map stacked))),
    "quote-terminated stacked statement ('; DROP)")]

/-- Blanks out what stands inside quoted literals, byte by byte; `inside` tells whether the text
begins in one. A literal that is left open has no such form. -/
def maskFrom : Bool → List Char → Option (List Char)
  | inside, [] => if inside then none else some []
  | true, '\'' :: '\'' :: rest => (maskFrom true rest).map fun s => ' ' :: ' ' :: s
  | inside, c :: rest =>
      if c = '\'' then (maskFrom (!inside) rest).map ('\'' :: ·)
      else if inside then
        (maskFrom true rest).map (List.replicate c.utf8Size ' ' ++ ·)
      else (maskFrom false rest).map (c :: ·)

def mask (s : List Char) : Option (List Char) := maskFrom false s

def balancedFrom : Nat → List Char → Bool
  | depth, [] => depth == 0
  | depth, c :: rest =>
      if c = '(' then balancedFrom (depth + 1) rest
      else if c = ')' then
        match depth with
        | 0 => false
        | depth + 1 => balancedFrom depth rest
      else balancedFrom depth rest

def isBalanced (s : List Char) : Bool := balancedFrom 0 s

def stackedMutations : List (String × Pattern) := mutations.map fun k => (k, stacked k)

def stackedMutation? (s : List Char) : Option String :=
  (Place.all s).findSome? fun place =>
    (stackedMutations.find? fun entry => entry.2.matchesAt place).map (·.1)

def commentMarks : List String := ["--", "/*", "*/", "#"]

def when (condition : Bool) (message : String) : List String :=
  if condition then [message] else []

def injectionErrors (sql : List Char) : List String :=
  injections.flatMap fun (pattern, label) =>
    when (pattern.isIn sql) ("Injection pattern detected: " ++ label)

def shapeErrors (masked : List Char) : List String :=
  when (!hasFrom.isIn masked) "Query has no FROM clause" ++
  when (!isBalanced masked) "Unbalanced parentheses" ++
  (match stackedMutation? masked with
    | some keyword => ["Statement terminator followed by " ++ keyword.toUpper]
    | none => []) ++
  when (unionSelect.isIn masked) "UNION SELECT is not allowed" ++
  commentMarks.flatMap fun mark =>
    when (Text.contains mark.toList masked) ("Comment delimiter '" ++ mark ++ "' is not allowed")

def shapeWarnings (masked : List Char) : List String :=
  when (selectStar.isIn masked) "SELECT * returns every column; list the columns you need" ++
  when (!rowLimit.isIn masked) "No row-limiting clause (LIMIT, TOP or FETCH FIRST)"

def startErrors (sql masked : List Char) : List String :=
  if sql.all Text.isBlank then ["Query is empty"]
  else when (!startsWithSelect.isIn masked) "Query must start with SELECT"

/-- The report on a query. A query with an open literal is checked as it is. -/
def check (sql : List Char) : Report :=
  let masked := (mask sql).getD sql
  { errors :=
      injectionErrors sql ++
      when (mask sql).isNone "Unterminated string literal" ++
      startErrors sql masked ++ shapeErrors masked
    warnings := shapeWarnings masked
    parameterCount := (Template.references sql).length }

def nonFiniteErrors (occurrences : List Template.Occurrence) (s : Snapshot) : List String :=
  let messages := occurrences.filterMap fun o =>
    match o.reference.resolve? s with
    | some (.number x) =>
        if x.isFinite then none
        else some (String.ofList o.source ++ " is bound to a non-finite number (" ++ x.toText ++ ")")
    | _ => none
  messages.foldl (fun seen m => if seen.contains m then seen else seen ++ [m]) []

def checkFilled (template sql : List Char) (s : Snapshot) : Report :=
  let report := check sql
  let occurrences := Template.occurrences template
  { report with
    errors := report.errors ++ nonFiniteErrors occurrences s
    parameterCount := occurrences.length }

def checkTemplate (template : List Char) (s : Snapshot) : Report :=
  checkFilled template (Template.substitute template s) s

end Safety

end LinkedControls
