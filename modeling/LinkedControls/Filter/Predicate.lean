import LinkedControls.Filter.Field
import LinkedControls.Json.Record
import LinkedControls.Store.Control

/-!
Filter targets say how a control filters a column, and predicates are the tests that the current
values of controls make of them.
-/

namespace LinkedControls

open Decimal Calendar

inductive TextTest
  | equals
  | contains
  | startsWith
  | endsWith
  | matchesPattern
deriving DecidableEq, Repr

structure TextOp where
  test : TextTest
  negated : Bool
deriving DecidableEq, Repr

namespace TextOp

def name : TextOp → String
  | ⟨.equals, false⟩ => "equal_to"
  | ⟨.equals, true⟩ => "not_equal_to"
  | ⟨.contains, false⟩ => "contains"
  | ⟨.contains, true⟩ => "does_not_contain"
  | ⟨.startsWith, false⟩ => "starts_with"
  | ⟨.startsWith, true⟩ => "does_not_start_with"
  | ⟨.endsWith, false⟩ => "ends_with"
  | ⟨.endsWith, true⟩ => "does_not_end_with"
  | ⟨.matchesPattern, false⟩ => "matches_regexp"
  | ⟨.matchesPattern, true⟩ => "does_not_match_regexp"

def isPattern (op : TextOp) : Bool := op.test == .matchesPattern

def all : List TextOp :=
  [TextTest.equals, .contains, .startsWith, .endsWith, .matchesPattern].flatMap fun t =>
    [⟨t, false⟩, ⟨t, true⟩]

def names : List (String × TextOp) := all.map fun op => (op.name, op)

end TextOp

inductive NumberOp
  | equals
  | atMost
  | atLeast
deriving DecidableEq, Repr

namespace NumberOp

def name : NumberOp → String
  | .equals => "equal_to"
  | .atMost => "less_than_or_equal"
  | .atLeast => "greater_than_or_equal"

def names : List (String × NumberOp) :=
  [NumberOp.equals, .atMost, .atLeast].map fun op => (op.name, op)

end NumberOp

inductive Direction
  | top
  | bottom
deriving DecidableEq, Repr

namespace Direction

def name : Direction → String
  | .top => "top"
  | .bottom => "bottom"

def names : List (String × Direction) := [Direction.top, .bottom].map fun d => (d.name, d)

end Direction

inductive FilterKind
  | text (op : TextOp) (caseSensitive : Bool)
  | number (op : NumberOp)
  | boolean
  | listMembership
  | numberRange
  | dateRange
  | slider
  | rangeSlider
  | topN (direction : Direction) (percentile : Bool)
  /-- The value lists what is hidden; all that can be hidden may be given. -/
  | legend (series : List String)
deriving DecidableEq, Repr

structure FilterTarget where
  control : String
  column : String
  kind : FilterKind
deriving DecidableEq, Repr

namespace FilterTarget

def kindNames : List String :=
  ["text", "number", "boolean", "list_membership", "number_range", "date_range", "slider",
    "range_slider", "top_n", "legend"]

def kindName? : Json → Option String
  | .text s => some s
  | .number (.integer n) => if 0 ≤ n then kindNames[n.toNat]? else none
  | _ => none

open Json in
def kindOfFields? (name : String) (fields : List (String × Json)) : Option FilterKind :=
  let field {α : Type} (key : String) (default : α) (read : Json → Option α) : Option α :=
    (single? key fields).bind (withDefault default read)
  match name with
  | "text" => do
      return .text (← field "op" ⟨.equals, false⟩ (variant? TextOp.names))
        (← field "case_sensitive" false asBool?)
  | "number" => do return .number (← field "op" .equals (variant? NumberOp.names))
  | "boolean" => some .boolean
  | "list_membership" => some .listMembership
  | "number_range" => some .numberRange
  | "date_range" => some .dateRange
  | "slider" => some .slider
  | "range_slider" => some .rangeSlider
  | "top_n" => do
      return .topN (← field "direction" .top (variant? Direction.names))
        (← field "percentile" false asBool?)
  | "legend" => do return .legend (← field "series" [] (asList? asText?))
  | _ => none

open Json in
def ofJson? : Json → Option FilterTarget
  | .object fields => do
      let control ← required asText? (← single? "control_id" fields)
      let column ← required asText? (← single? "column" fields)
      let name ← required kindName? (← single? "kind" fields)
      return ⟨control, column, ← kindOfFields? name fields⟩
  | _ => none

end FilterTarget

inductive Condition
  | text (op : TextOp) (needle : String) (caseSensitive : Bool)
  | number (op : NumberOp) (value : Binary64)
  | boolean (expected : Bool)
  | membership (items : List String)
  | numberBetween (r : Range Binary64)
  | dateBetween (r : Range Date)
  | topN (n : Binary64) (direction : Direction) (percentile : Bool)
  | hidden (items series : List String)
deriving DecidableEq

structure Predicate where
  control : String
  kind : Kind
  column : String
  condition : Condition
deriving DecidableEq

def Value.scalarText? : Value → Option String
  | .text s => some s
  | .number x => some x.toText
  | .boolean b => some (if b then "true" else "false")
  | .date d => some d.toText
  | _ => none

namespace Predicate

def condition? (k : FilterKind) (v : Value) : Option Condition :=
  match k, v with
  | .text op caseSensitive, v => v.scalarText?.map fun s => .text op s caseSensitive
  | .number op, v => v.toBinary64?.map fun x => .number op x
  | .boolean, .boolean b => some (.boolean b)
  | .listMembership, .list items => some (.membership items)
  | .listMembership, .text s => some (.membership [s])
  | .numberRange, .numberRange r => some (.numberBetween r)
  | .rangeSlider, .numberRange r => some (.numberBetween r)
  | .slider, v => v.toBinary64?.map fun x => .numberBetween ⟨some x, none⟩
  | .dateRange, .dateRange r => some (.dateBetween r)
  | .dateRange, .date d => some (.dateBetween ⟨some d, some d⟩)
  | .topN direction percentile, v => v.toBinary64?.map fun x => .topN x direction percentile
  | .legend series, .list items => some (.hidden items series)
  | .legend series, .text s => some (.hidden [s] series)
  | _, _ => none

def derive? (t : FilterTarget) (c : Control) : Option Predicate :=
  if c.isActive then
    (condition? t.kind c.value).map fun condition => ⟨c.id, c.kind, t.column, condition⟩
  else none

def deriveAll (ts : List FilterTarget) (s : Snapshot) : List Predicate :=
  ts.filterMap fun t => (s.get? t.control).bind (derive? t)

def isRanking (p : Predicate) : Bool :=
  match p.condition with
  | .topN _ _ _ => true
  | _ => false

end Predicate

end LinkedControls
