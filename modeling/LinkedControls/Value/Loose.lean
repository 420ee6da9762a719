import LinkedControls.Value.Basic
import LinkedControls.Calendar.DateText

namespace LinkedControls

open Decimal Calendar

namespace Value

def dateJson (d : Date) : Json := .text d.toText

/-- The plain JSON form. A number that is not finite becomes null. -/
def toJson : Value → Json
  | .null => .null
  | .text s => .text s
  | .number x => .ofBinary64 x
  | .boolean b => .bool b
  | .date d => dateJson d
  | .dateRange r =>
      .object [("end", .ofOption dateJson r.upper), ("start", .ofOption dateJson r.lower)]
  | .numberRange r =>
      .object [("max", .ofOption .ofBinary64 r.upper), ("min", .ofOption .ofBinary64 r.lower)]
  | .list items => .texts items

def looseText? : Json → Option String
  | .text s => some s
  | .number n => some n.toText
  | .bool b => some (if b then "true" else "false")
  | _ => none

def looseNumber? : Json → Option Binary64
  | .number n => some n.toBinary64 |>.filter (·.isFinite)
  | .text s => Binary64.finiteOfText? s.toList
  | _ => none

def truthWord? (s : String) : Option Bool :=
  let word := String.ofList (Text.asciiLower (Text.trim s.toList))
  if word = "true" ∨ word = "1" ∨ word = "yes" then some true
  else if word = "false" ∨ word = "0" ∨ word = "no" then some false
  else none

def looseBool? : Json → Option Bool
  | .bool b => some b
  | .number n =>
      if n.toBinary64.eqv .zero then some false
      else if n.toBinary64.eqv .one then some true
      else none
  | .text s => truthWord? s
  | _ => none

def looseDate? : Json → Option Date
  | .text s => Date.ofText? s.toList
  | _ => none

def looseSides? (lower upper : String) : Json → Option (Option Json × Option Json)
  | .array [lo, hi] => some (some lo, some hi)
  | .object fields =>
      let lo := fields.lookup lower
      let hi := fields.lookup upper
      if lo.isSome || hi.isSome then some (lo, hi) else none
  | _ => none

def looseRange {α : Type} (read : Json → Option α) (form : Range α → Value) :
    Option (Option Json × Option Json) → Value
  | some (lo, hi) => form ⟨lo.bind read, hi.bind read⟩
  | none => .null

def ofLoose (j : Json) (k : Kind) : Value :=
  if j.isNull then .null
  else
    match k with
    | .text => ofBound .text (looseText? j)
    | .number => ofBound .number (looseNumber? j)
    | .boolean => ofBound .boolean (looseBool? j)
    | .date => ofBound .date (looseDate? j)
    | .numberRange => looseRange looseNumber? .numberRange (looseSides? "min" "max" j)
    | .dateRange =>
        looseRange looseDate? .dateRange
          (looseSides? "start" "end" j <|> looseSides? "min" "max" j)
    | .list =>
        match j with
        | .array items => .list (items.filterMap looseText?)
        | j => ofBound (fun s => .list [s]) (looseText? j)

end Value

end LinkedControls
