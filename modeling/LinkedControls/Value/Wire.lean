import LinkedControls.Value.Basic
import LinkedControls.Value.Loose
import LinkedControls.Text.Percent
import LinkedControls.Text.Split

/-!
The written form of a value inside a link, and its reading. Three tokens that no escaped text can
equal stand for null, for an empty text or list, and for an empty item of a list.
-/

namespace LinkedControls

open Decimal Calendar Text

namespace Wire

def nullToken : List Char := ['~', 'n', 'u', 'l', 'l']

def emptyToken : List Char := ['~', 'e', 'm', 'p', 't', 'y']

def emptyItemToken : List Char := ['~', 'e']

def lowerMark : List Char := ['m', 'i', 'n', ':']

def upperMark : List Char := ['m', 'a', 'x', ':']

def encodeNumber (x : Binary64) : Option (List Char) :=
  if x.isFinite then some x.toText.toList else none

def encodeBound {α : Type} (write : α → Option (List Char)) (b : Option α) : List Char :=
  (b.bind write).getD []

def encodeRange {α : Type} (write : α → Option (List Char)) (r : Range α) : List Char :=
  lowerMark ++ encodeBound write r.lower ++ ',' :: upperMark ++ encodeBound write r.upper

def encodeItem (item : String) : List Char :=
  if item.isEmpty then emptyItemToken else escapeComponent item.toList

/-- The written form of a value for a control of kind `k`; a value of another kind is null. -/
def encode (v : Value) (k : Kind) : List Char :=
  if !v.fits k then nullToken
  else
    match v with
    | .null => nullToken
    | .text s => if s.isEmpty then emptyToken else escapeComponent s.toList
    | .number x => (encodeNumber x).getD nullToken
    | .boolean b => if b then ['t', 'r', 'u', 'e'] else ['f', 'a', 'l', 's', 'e']
    | .date d => d.toChars
    | .numberRange r => encodeRange encodeNumber r
    | .dateRange r => encodeRange (fun d : Date => some d.toChars) r
    | .list items =>
        if items.isEmpty then emptyToken else join [','] (items.map encodeItem)

def decodeBool? (s : List Char) : Option Bool :=
  let word := String.ofList (asciiLower (trim s))
  if word = "true" ∨ word = "1" then some true
  else if word = "false" ∨ word = "0" then some false
  else none

def decodeBound? {α : Type} (read : List Char → Option α) (s : List Char) : Option (Option α) :=
  if s.isEmpty then some none else (read s).map some

/-- The two bounds behind their marks. A range that does not begin with the lower mark is taken to be
escaped as a whole. -/
def decodeRange? {α : Type} (read : List Char → Option α) (raw : List Char) :
    Option (Range α) := do
  let s ← if lowerMark.isPrefixOf raw then some raw else unescapeComponent? raw
  let (lower, upper) ← splitFirst ',' s
  let lower ← afterLead lowerMark (trim lower)
  let upper ← afterLead upperMark (trim upper)
  return ⟨← decodeBound? read lower, ← decodeBound? read upper⟩

def decodeItem? (item : List Char) : Option String :=
  if item = emptyItemToken then some "" else (unescapeComponent? item).map String.ofList

def decodeScalar? {α : Type} (read : List Char → Option α) (raw : List Char) : Option α :=
  (unescapeComponent? raw).bind read

def decode (raw : List Char) (k : Kind) : Value :=
  if raw = nullToken ∨ raw = [] then .null
  else if raw = emptyToken then
    match k with
    | .text => .text ""
    | .list => .list []
    | _ => .null
  else
    match k with
    | .text => Value.ofBound (fun s => .text (String.ofList s)) (unescapeComponent? raw)
    | .number => Value.ofBound .number (decodeScalar? Binary64.finiteOfText? raw)
    | .boolean => Value.ofBound .boolean (decodeScalar? decodeBool? raw)
    | .date => Value.ofBound .date (decodeScalar? Date.ofText? raw)
    | .numberRange => Value.ofBound .numberRange (decodeRange? Binary64.finiteOfText? raw)
    | .dateRange => Value.ofBound .dateRange (decodeRange? Date.ofText? raw)
    | .list => Value.ofBound .list ((splitOn ',' raw).mapM decodeItem?)

end Wire

end LinkedControls
