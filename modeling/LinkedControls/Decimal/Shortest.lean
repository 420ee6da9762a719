import LinkedControls.Decimal.Binary64

/-!
The fewest decimal digits that read back. For one digit, two digits and so on up to seventeen, the
two neighbours of a magnitude on that decimal grid are read by the same rounding that reads every
decimal; the first grid with a hit wins, and of two hits the nearer one.
-/

namespace LinkedControls.Decimal

structure DecimalNumber where
  digits : Nat
  exponent : Int
deriving DecidableEq, Repr

def DecimalNumber.magnitude? (d : DecimalNumber) : Option Magnitude :=
  match d.exponent with
  | .ofNat k => Magnitude.nearest? (d.digits * Nat.pow 10 k * unitsPerOne) 1
  | .negSucc k => Magnitude.nearest? (d.digits * unitsPerOne) (Nat.pow 10 (k + 1))

inductive Tie
  | up
  | even
deriving DecidableEq, Repr

namespace Magnitude

/-- Every magnitude is a decimal: a unit is 5^1074 · 10^-1074. -/
def expansion (m : Magnitude) : DecimalNumber := ⟨m.units * Nat.pow 5 1074, -1074⟩

def digitCount (n : Nat) : Nat := (Nat.repr n).length

def decade (m : Magnitude) : Int :=
  (digitCount (m.units * Nat.pow 10 400 / unitsPerOne) : Int) - 401

def scaled (m : Magnitude) (e : Int) : Nat × Nat :=
  match e with
  | .ofNat k => (m.units, unitsPerOne * Nat.pow 10 k)
  | .negSucc k => (m.units * Nat.pow 10 (k + 1), unitsPerOne)

def neighbours (tie : Tie) (e : Int) (num den : Nat) : List DecimalNumber :=
  let q := num / den
  let gap := num % den
  let preferBelow :=
    2 * gap < den || (2 * gap == den && tie == .even && q % 2 == 0)
  if preferBelow then [⟨q, e⟩, ⟨q + 1, e⟩] else [⟨q + 1, e⟩, ⟨q, e⟩]

def withDigits? (tie : Tie) (m : Magnitude) (n : Nat) : Option DecimalNumber :=
  let e := m.decade - ((n : Int) - 1)
  let quotient := m.scaled e
  (neighbours tie e quotient.1 quotient.2).find? fun d => d.magnitude? == some m

def shortest (tie : Tie) (m : Magnitude) : DecimalNumber :=
  if m.units = 0 then ⟨0, 0⟩
  else ((List.range 17).findSome? fun n => m.withDigits? tie (n + 1)).getD m.expansion

end Magnitude

end LinkedControls.Decimal
