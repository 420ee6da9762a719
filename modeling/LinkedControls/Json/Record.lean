import LinkedControls.Json.Basic

/-!
Reading typed values out of JSON. A record may be written as an object, where unknown fields are
ignored and a declared one may stand only once, or as the array of its fields in declaration order,
where fields with a default may be left off at the end.
-/

namespace LinkedControls.Json

open Decimal

def asBool? : Json → Option Bool
  | .bool b => some b
  | _ => none

def asInt? (lo hi : Int) : Json → Option Int
  | .number (.integer n) => if lo ≤ n ∧ n ≤ hi then some n else none
  | _ => none

def asNat? (hi : Nat) (j : Json) : Option Nat := (asInt? 0 hi j).map Int.toNat

def asBinary64? : Json → Option Binary64
  | .number n => some n.toBinary64
  | _ => none

def asList? {α : Type} (read : Json → Option α) : Json → Option (List α)
  | .array items => items.mapM read
  | _ => none

def asOption? {α : Type} (read : Json → Option α) : Json → Option (Option α)
  | .null => some none
  | j => (read j).map some

def required {α : Type} (read : Json → Option α) : Option Json → Option α
  | some j => read j
  | none => none

def withDefault {α : Type} (default : α) (read : Json → Option α) : Option Json → Option α
  | some j => read j
  | none => some default

def optional {α : Type} (read : Json → Option α) : Option Json → Option (Option α) :=
  withDefault none (asOption? read)

def single? (key : String) (fields : List (String × Json)) : Option (Option Json) :=
  match fields.filter (·.1 == key) with
  | [] => some none
  | [(_, j)] => some (some j)
  | _ => none

def members? (names : List String) : Json → Option (List (Option Json))
  | .object fields => names.mapM fun name => single? name fields
  | .array items =>
      if names.length < items.length then none
      else some (items.map some ++ List.replicate (names.length - items.length) none)
  | _ => none

def variantName? : Json → Option String
  | .text s => some s
  | .object [(name, .null)] => some name
  | _ => none

def variant? {α : Type} (table : List (String × α)) (j : Json) : Option α :=
  (variantName? j).bind fun name => table.lookup name

/-- A variant whose name stands under `tag` among its own fields, or first in an array. -/
def tagged? (tag : String) : Json → Option (String × Json)
  | .object fields => do
      let name ← required asText? (← single? tag fields)
      return (name, .object (fields.filter (·.1 != tag)))
  | .array (.text name :: rest) => some (name, .array rest)
  | _ => none

/-- A variant whose name and content stand side by side under two keys, or in an array of two. -/
def adjacent? (tag content : String) : Json → Option (String × Json)
  | .object fields => do
      let name ← required asText? (← single? tag fields)
      let inner ← required some (← single? content fields)
      return (name, inner)
  | .array [.text name, inner] => some (name, inner)
  | _ => none

end LinkedControls.Json
