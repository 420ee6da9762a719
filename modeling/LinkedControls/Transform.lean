import LinkedControls.Json.Record
import LinkedControls.Text.Case
import LinkedControls.Text.Quoted
import LinkedControls.Value.Basic

/-!
The closed set of transforms that a rule may apply to a value on its way to another control.
-/

namespace LinkedControls

open Decimal Calendar

inductive Transform
  | identity
  | scale (factor : Binary64)
  | offset (amount : Binary64)
  | clamp (least greatest : Option Binary64)
  | round (decimals : Nat)
  | prepend (lead : String)
  | append (tail : String)
  | uppercase
  | lowercase
  | rangeMin
  | rangeMax
  /-- The range that begins at a number or day; days are counted in whole days. -/
  | toRange (width : Binary64)
deriving DecidableEq

namespace Transform

def finite (f : Binary64 → Binary64) (x : Binary64) : Option Binary64 :=
  some (f x) |>.filter (·.isFinite)

def mapNumbers (f : Binary64 → Binary64) : Value → Option Value
  | .number x => (finite f x).map .number
  | .numberRange r => some (.numberRange (r.filterMap (finite f)))
  | _ => none

def mapTexts (f : List Char → List Char) : Value → Option Value
  | .text s => some (.text (String.ofList (f s.toList)))
  | .list items => some (.list (items.map fun s => String.ofList (f s.toList)))
  | _ => none

def clampNumber (least greatest : Option Binary64) (x : Binary64) : Binary64 :=
  let x := match least with
    | some lo => x.max lo
    | none => x
  match greatest with
  | some hi => x.min hi
  | none => x

def roundNumber (decimals : Nat) (x : Binary64) : Binary64 :=
  let factor := Binary64.ofNat (Nat.pow 10 (min decimals 15))
  (x.mul factor).roundHalfAway.div factor

def durationDays : Int := 106751991167

def wholeDays? (width : Binary64) : Option Int :=
  let days := width.truncateTo (-0x8000000000000000) 0x7FFFFFFFFFFFFFFF
  if -durationDays ≤ days ∧ days ≤ durationDays then some days else none

/-- The transformed value, or nothing when the transform does not apply to it. Null stays null. -/
def apply (t : Transform) (v : Value) : Option Value :=
  if v.isNull then some .null
  else
    match t with
    | .identity => some v
    | .scale factor => mapNumbers (·.mul factor) v
    | .offset amount => mapNumbers (·.add amount) v
    | .clamp least greatest => mapNumbers (clampNumber least greatest) v
    | .round decimals => mapNumbers (roundNumber decimals) v
    | .prepend lead => mapTexts (lead.toList ++ ·) v
    | .append tail => mapTexts (· ++ tail.toList) v
    | .uppercase => mapTexts Text.toUpper v
    | .lowercase => mapTexts Text.toLower v
    | .rangeMin =>
        match v with
        | .numberRange r => some (Value.ofBound .number r.lower)
        | .dateRange r => some (Value.ofBound .date r.lower)
        | _ => none
    | .rangeMax =>
        match v with
        | .numberRange r => some (Value.ofBound .number r.upper)
        | .dateRange r => some (Value.ofBound .date r.upper)
        | _ => none
    | .toRange width =>
        match v with
        | .number x => some (.numberRange ⟨some x, some (x.add width)⟩)
        | .date d => (wholeDays? width).map fun days => .dateRange ⟨some d, d.addDays? days⟩
        | _ => none

def isFinite : Transform → Bool
  | .scale x => x.isFinite
  | .offset x => x.isFinite
  | .clamp lo hi => lo.all (·.isFinite) && hi.all (·.isFinite)
  | .toRange x => x.isFinite
  | _ => true

def withParameter (name parameter value : String) : String :=
  name ++ " \x7b " ++ parameter ++ ": " ++ value ++ " \x7d"

def describeText (s : String) : String := String.ofList (Text.describe s.toList)

def describeOption : Option Binary64 → String
  | none => "None"
  | some x => "Some(" ++ Layout.described.write x ++ ")"

def describe : Transform → String
  | .identity => "Identity"
  | .scale x => withParameter "Scale" "factor" (Layout.described.write x)
  | .offset x => withParameter "Offset" "amount" (Layout.described.write x)
  | .clamp lo hi =>
      withParameter "Clamp" "min" (describeOption lo ++ ", max: " ++ describeOption hi)
  | .round decimals => withParameter "Round" "decimals" (toString decimals)
  | .prepend s => withParameter "Prefix" "value" (describeText s)
  | .append s => withParameter "Suffix" "value" (describeText s)
  | .uppercase => "Uppercase"
  | .lowercase => "Lowercase"
  | .rangeMin => "RangeMin"
  | .rangeMax => "RangeMax"
  | .toRange x => withParameter "ToRange" "width" (Layout.described.write x)

open Json in
def parameter? {α : Type} (name : String) (read : Json → Option α) (form : α → Transform)
    (j : Json) : Option Transform :=
  match j.members? [name] with
  | some [x] => (required read x).map form
  | _ => none

open Json in
def ofJson? (j : Json) : Option Transform := do
  let (kind, fields) ← j.tagged? "kind"
  let plain (t : Transform) : Option Transform :=
    match fields with
    | .array (_ :: _) => none
    | _ => some t
  match kind with
  | "identity" => plain .identity
  | "scale" => parameter? "factor" asBinary64? .scale fields
  | "offset" => parameter? "amount" asBinary64? .offset fields
  | "clamp" =>
      match fields.members? ["min", "max"] with
      | some [lo, hi] => return .clamp (← optional asBinary64? lo) (← optional asBinary64? hi)
      | _ => none
  | "round" => parameter? "decimals" (asNat? 0xFFFFFFFF) .round fields
  | "prefix" => parameter? "value" asText? .prepend fields
  | "suffix" => parameter? "value" asText? .append fields
  | "uppercase" => plain .uppercase
  | "lowercase" => plain .lowercase
  | "range_min" => plain .rangeMin
  | "range_max" => plain .rangeMax
  | "to_range" => parameter? "width" asBinary64? .toRange fields
  | _ => none

end Transform

end LinkedControls
