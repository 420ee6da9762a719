import LinkedControls.Sync.Conflict

namespace LinkedControls

open Decimal

/-- The combinators that have a name. A strategy that merges by some other function of its own is not among
them. -/
inductive Combinator
  | union
  | widest
  | max
  | min
deriving DecidableEq, Repr

namespace Combinator

def name : Combinator → String
  | .union => "union"
  | .widest => "widest"
  | .max => "max"
  | .min => "min"

def named? (s : String) : Option Combinator :=
  [Combinator.union, .widest, .max, .min].find? (·.name == s)

def addItems (items more : List String) : List String :=
  more.foldl (fun kept item => if kept.contains item then kept else kept ++ [item]) items

def items : Value → List String
  | .list items => items
  | _ => []

def range? : Value → Option (Range Binary64)
  | .numberRange r => some r
  | _ => none

def number? : Value → Option Binary64
  | .number x => some x
  | _ => none

/-- Two bounds made one; a side that is open in either stays open. -/
def joinBound (pick : Binary64 → Binary64 → Binary64) :
    Option Binary64 → Option Binary64 → Option Binary64
  | some x, some y => some (pick x y)
  | _, _ => none

def joinRange (r t : Range Binary64) : Range Binary64 :=
  ⟨joinBound Binary64.min r.lower t.lower, joinBound Binary64.max r.upper t.upper⟩

def combine {α : Type} (f : α → α → α) : List α → Option α
  | [] => none
  | a :: rest => some (rest.foldl f a)

/-- Values of another kind than the combinator's do not count. Without any value that counts the
result is null, and for `union` the empty list. -/
def apply (c : Combinator) (values : List Value) : Value :=
  match c with
  | .union => .list ((values.map items).foldl addItems [])
  | .widest => Value.ofBound .numberRange (combine joinRange (values.filterMap range?))
  | .max => Value.ofBound .number (combine Binary64.max (values.filterMap number?))
  | .min => Value.ofBound .number (combine Binary64.min (values.filterMap number?))

end Combinator

end LinkedControls
