import LinkedControls.Decimal.Layout

/-!
JSON values. A number is an integer or a binary64 number, and an object is the list of its fields in
the order in which they are written. `Json.settle` puts an object into the form of a mapping: keys
in ascending order, and of equal keys the last one.
-/

namespace LinkedControls

open Decimal

namespace Json

inductive Number
  | integer (n : Int)
  | double (x : Binary64)
deriving DecidableEq

namespace Number

def toText : Number → String
  | .integer n => toString n
  | .double x => if x.isFinite then Layout.json.write x else "null"

def toBinary64 : Number → Binary64
  | .integer n => .ofInt n
  | .double x => x

def toInt64? : Number → Option Int
  | .integer n => if -0x8000000000000000 ≤ n ∧ n ≤ 0x7FFFFFFFFFFFFFFF then some n else none
  | .double _ => none

end Number

end Json

inductive Json
  | null
  | bool (b : Bool)
  | number (n : Json.Number)
  | text (s : String)
  | array (items : List Json)
  | object (fields : List (String × Json))

namespace Json

instance : Inhabited Json := ⟨.null⟩

def ofInt (n : Int) : Json := .number (.integer n)

def ofNat (n : Nat) : Json := .number (.integer n)

def ofBinary64 (x : Binary64) : Json := if x.isFinite then .number (.double x) else .null

def ofOption {α : Type} (f : α → Json) : Option α → Json
  | some a => f a
  | none => .null

def texts (ss : List String) : Json := .array (ss.map .text)

def isNull : Json → Bool
  | .null => true
  | _ => false

def asText? : Json → Option String
  | .text s => some s
  | _ => none

def insertField {α : Type} (key : String) (value : α) : List (String × α) → List (String × α)
  | [] => [(key, value)]
  | (k, v) :: rest =>
      if key < k then (key, value) :: (k, v) :: rest
      else if key = k then (key, value) :: rest
      else (k, v) :: insertField key value rest

def sortFields {α : Type} (fields : List (String × α)) : List (String × α) :=
  fields.foldl (fun sorted (k, v) => insertField k v sorted) []

mutual

def settle : Json → Json
  | .array items => .array (settleItems items)
  | .object fields => .object (sortFields (settleFields fields))
  | j => j

def settleItems : List Json → List Json
  | [] => []
  | j :: rest => settle j :: settleItems rest

def settleFields : List (String × Json) → List (String × Json)
  | [] => []
  | (k, j) :: rest => (k, settle j) :: settleFields rest

end

def field? (key : String) : Json → Option Json
  | .object fields => fields.lookup key
  | _ => none

end Json

end LinkedControls
