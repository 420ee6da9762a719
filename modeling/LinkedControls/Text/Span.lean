/-!
Sets of code points as lists of arithmetic progressions, and maps that shift such progressions.
-/

namespace LinkedControls.Text

structure Span where
  first : Nat
  last : Nat
  step : Nat
deriving DecidableEq, Repr

def Span.covers (s : Span) (n : Nat) : Bool :=
  s.first ≤ n && n ≤ s.last && (n - s.first) % s.step == 0

def covered (spans : List Span) (n : Nat) : Bool := spans.any (·.covers n)

structure Shift where
  span : Span
  amount : Int
deriving DecidableEq, Repr

def shifted (shifts : List Shift) (n : Nat) : Nat :=
  match shifts.find? (·.span.covers n) with
  | some s => (n + s.amount).toNat
  | none => n

def shiftedFrom (shifts : List Shift) (n : Nat) : List Nat :=
  shifts.filterMap fun s =>
    let origin := (n : Int) - s.amount
    if 0 ≤ origin && s.span.covers origin.toNat then some origin.toNat else none

end LinkedControls.Text
