import LinkedControls.Value.Loose

namespace LinkedControls

open Decimal Calendar

abbrev Record := List (String × Json)

namespace Field

def text? : Json → Option String
  | .text s => some s
  | .number n => some n.toText
  | .bool b => some (if b then "true" else "false")
  | _ => none

def number? : Json → Option Binary64
  | .number n => some n.toBinary64 |>.filter (·.isFinite)
  | .text s => Binary64.finiteOfText? s.toList
  | _ => none

def bool? : Json → Option Bool
  | .bool b => some b
  | .number n =>
      match n.toInt64? with
      | some 0 => some false
      | some 1 => some true
      | _ => none
  | .text s => Value.truthWord? s
  | _ => none

def date? : Json → Option Date
  | .text s => Date.ofText? s.toList
  | .number n => n.toInt64?.bind Date.ofMillis?
  | _ => none

end Field

end LinkedControls
