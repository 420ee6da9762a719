import LinkedControls.Json.Basic
import LinkedControls.Query.Template
import LinkedControls.Store.Control

/-!
Filling templates from a snapshot, with quoted literals or with placeholders that are bound to
values.
-/

namespace LinkedControls

def Kind.hasPart (k : Kind) (path : String) : Bool :=
  match k with
  | .numberRange => path == "min" || path == "max"
  | .dateRange => path == "start" || path == "end" || path == "min" || path == "max"
  | .list => path == "length"
  | .text => path == "length"
  | _ => false

/-- The value that a reference stands for. Null has the parts of its control's kind. -/
def Reference.resolve? (r : Reference) (s : Snapshot) : Option Value := do
  let c ← s.get? r.control
  match r.path with
  | none => return c.value
  | some path =>
      if (c.value.kind?.getD c.kind).hasPart path then return c.value.part path else none

def doubleQuotes (s : List Char) : List Char :=
  s.flatMap fun c => if c = '\'' then ['\'', '\''] else [c]

def quoteLiteral (s : List Char) : List Char := '\'' :: (doubleQuotes s ++ ['\''])

def Value.literal? : Value → Option (List Char)
  | .null => some ['N', 'U', 'L', 'L']
  | .text s => some (quoteLiteral s.toList)
  | .number x => if x.isFinite then some x.toText.toList else none
  | .boolean b => some (if b then ['1'] else ['0'])
  | .date d => some (quoteLiteral d.toChars)
  | .list [] => some ['(', 'N', 'U', 'L', 'L', ')']
  | .list items =>
      some ('(' :: (Text.join [',', ' '] (items.map fun s => quoteLiteral s.toList) ++ [')']))
  | .numberRange _ => none
  | .dateRange _ => none

def nullLiteral : List Char := ['N', 'U', 'L', 'L']

def Reference.literal? (r : Reference) (s : Snapshot) : Option (List Char) :=
  (r.resolve? s).bind Value.literal?

namespace Template

def substitute (template : List Char) (s : Snapshot) : List Char :=
  fill (fun r => (r.literal? s).getD nullLiteral) template

def unresolved (template : List Char) (s : Snapshot) : List String :=
  ((references template).filter fun r => (r.literal? s).isNone).map Reference.key

def defaultPlaceholder : String := "p"

structure Binding where
  reference : Reference
  name : String
deriving DecidableEq, Repr

def isNameCharacter (c : Char) : Bool :=
  ('a' ≤ c && c ≤ 'z') || ('A' ≤ c && c ≤ 'Z') || ('0' ≤ c && c ≤ '9') || c == '_'

def sanitize (s : String) : String := s.map fun c => if isNameCharacter c then c else '_'

/-- The first of `base`, `base_2`, `base_3` and so on that is not taken. -/
def freshName (base : String) (taken : List String) : String :=
  let candidates := base :: (List.range taken.length).map fun n => base ++ "_" ++ toString (n + 2)
  (candidates.find? fun name => !taken.contains name).getD base

def bind (lead : String) (bound : List Binding) (r : Reference) : List Binding :=
  if bound.any (·.reference == r) then bound
  else
    let base := sanitize lead ++ "_" ++ sanitize r.key
    bound ++ [⟨r, freshName base (bound.map (·.name))⟩]

def bindings (template : List Char) (lead : String) : List Binding :=
  (references template).foldl (bind lead) []

def placeholder (bound : List Binding) (r : Reference) : List Char :=
  match bound.find? (·.reference == r) with
  | some b => ':' :: b.name.toList
  | none => []

def parameterize (template : List Char) (lead : String) : List Char :=
  fill (placeholder (bindings template lead)) template

def parameters (template : List Char) (lead : String) (s : Snapshot) : List (String × Value) :=
  Json.sortFields ((bindings template lead).map fun b =>
    (b.name, (b.reference.resolve? s).getD .null))

def unbound (template : List Char) (lead : String) (s : Snapshot) : List String :=
  ((bindings template lead).filter fun b => (b.reference.resolve? s).isNone).map
    (·.reference.key)

end Template

end LinkedControls
