import LinkedControls.Calendar.Date
import LinkedControls.Decimal.Reader
import LinkedControls.Json.Basic

/-!
The values of controls, one form for each kind of control, and a null that fits every kind.
-/

namespace LinkedControls

open Decimal Calendar

inductive Kind
  | text
  | number
  | boolean
  | date
  | dateRange
  | numberRange
  | list
deriving DecidableEq, Repr

namespace Kind

def all : List Kind := [.text, .number, .boolean, .date, .dateRange, .numberRange, .list]

def name : Kind → String
  | .text => "text"
  | .number => "number"
  | .boolean => "boolean"
  | .date => "date"
  | .dateRange => "date_range"
  | .numberRange => "number_range"
  | .list => "list"

def names : List (String × Kind) := all.map fun k => (k.name, k)

def ofText? (s : String) : Option Kind :=
  let word := (Text.asciiLower (Text.trim s.toList)).map fun c => if c = '-' then '_' else c
  if word = "bool".toList then some .boolean else names.lookup (String.ofList word)

def isRange : Kind → Bool
  | .dateRange => true
  | .numberRange => true
  | _ => false

end Kind

/-- A range that contains its bounds; a missing bound leaves that side open. -/
structure Range (α : Type) where
  lower : Option α
  upper : Option α
deriving DecidableEq, Repr

namespace Range

def isOpen {α : Type} (r : Range α) : Bool := r.lower.isNone && r.upper.isNone

def filterMap {α β : Type} (f : α → Option β) (r : Range α) : Range β :=
  ⟨r.lower.bind f, r.upper.bind f⟩

end Range

inductive Value
  | null
  | text (s : String)
  | number (x : Binary64)
  | boolean (b : Bool)
  | date (d : Date)
  | dateRange (r : Range Date)
  | numberRange (r : Range Binary64)
  | list (items : List String)
deriving DecidableEq

def sameBound : Option Binary64 → Option Binary64 → Bool
  | none, none => true
  | some x, some y => x.eqv y
  | _, _ => false

namespace Value

instance : Inhabited Value := ⟨.null⟩

/-- Equality of values, where numbers are compared as numbers: the zeros are equal, and not a number
equals nothing. -/
def agrees : Value → Value → Bool
  | .number x, .number y => x.eqv y
  | .numberRange r, .numberRange t => sameBound r.lower t.lower && sameBound r.upper t.upper
  | v, w => v == w

def isNull : Value → Bool
  | .null => true
  | _ => false

/-- The value has an opinion: it is neither null nor empty nor open on both sides. -/
def isActive : Value → Bool
  | .null => false
  | .text s => !s.isEmpty
  | .dateRange r => !r.isOpen
  | .numberRange r => !r.isOpen
  | .list items => !items.isEmpty
  | _ => true

def kind? : Value → Option Kind
  | .null => none
  | .text _ => some .text
  | .number _ => some .number
  | .boolean _ => some .boolean
  | .date _ => some .date
  | .dateRange _ => some .dateRange
  | .numberRange _ => some .numberRange
  | .list _ => some .list

def typeName (v : Value) : String :=
  match v.kind? with
  | some k => k.name
  | none => "null"

def fits (v : Value) (k : Kind) : Bool :=
  match v.kind? with
  | some own => own == k
  | none => true

def isFinite : Value → Bool
  | .number x => x.isFinite
  | .numberRange r => r.lower.all (·.isFinite) && r.upper.all (·.isFinite)
  | _ => true

def ofBound {α : Type} (form : α → Value) : Option α → Value
  | some a => form a
  | none => .null

def part (v : Value) (path : String) : Value :=
  match v with
  | .numberRange r =>
      if path = "min" then ofBound .number r.lower
      else if path = "max" then ofBound .number r.upper
      else .null
  | .dateRange r =>
      if path = "start" ∨ path = "min" then ofBound .date r.lower
      else if path = "end" ∨ path = "max" then ofBound .date r.upper
      else .null
  | .list items => if path = "length" then .number (.ofNat items.length) else .null
  | .text s => if path = "length" then .number (.ofNat s.length) else .null
  | _ => .null

def toBinary64? : Value → Option Binary64
  | .number x => some x
  | .text s => Binary64.finiteOfText? s.toList
  | .boolean b => some (if b then .one else .zero)
  | _ => none

end Value

end LinkedControls
