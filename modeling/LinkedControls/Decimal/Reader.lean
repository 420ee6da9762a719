import LinkedControls.Decimal.Shortest
import LinkedControls.Text.Blank

/-!
Decimal numerals: an optional sign, then digits with an optional point and exponent, or a word for
infinity or for not a number. The value is the exact decimal rounded once.
-/

namespace LinkedControls.Decimal

def isDigit (c : Char) : Bool := '0' ≤ c && c ≤ '9'

def digitValue (c : Char) : Nat := c.toNat - '0'.toNat

def digitsValue (s : List Char) : Nat := s.foldl (fun n c => n * 10 + digitValue c) 0

def splitSign : List Char → Bool × List Char
  | '-' :: rest => (true, rest)
  | '+' :: rest => (false, rest)
  | s => (false, s)

structure Numeral where
  whole : List Char
  fraction : List Char
  exponent : Int
deriving Repr

namespace Numeral

def digits (n : Numeral) : List Char := n.whole ++ n.fraction

def decimal (n : Numeral) : DecimalNumber := ⟨digitsValue n.digits, n.exponent - n.fraction.length⟩

/-- The nearest number. An exponent that outweighs all digits is settled without computing it. -/
def toBinary64 (negative : Bool) (n : Numeral) : Binary64 :=
  let d := n.decimal
  if d.digits = 0 then .finite negative .zero
  else if 400 < d.exponent then .infinity negative
  else if d.exponent < -(n.digits.length + 400 : Int) then .finite negative .zero
  else
    match d.magnitude? with
    | some m => .finite negative m
    | none => .infinity negative

def readExponent : List Char → Option Int
  | [] => some 0
  | c :: rest =>
      if c = 'e' ∨ c = 'E' then
        let (negative, ds) := splitSign rest
        if ds.isEmpty || !ds.all isDigit then none
        else some (if negative then -(digitsValue ds : Int) else digitsValue ds)
      else none

def ofText? (s : List Char) : Option Numeral :=
  let whole := s.takeWhile isDigit
  let rest := s.dropWhile isDigit
  let (fraction, rest) := match rest with
    | '.' :: rest => (rest.takeWhile isDigit, rest.dropWhile isDigit)
    | _ => ([], rest)
  if whole.isEmpty && fraction.isEmpty then none
  else (readExponent rest).map fun e => ⟨whole, fraction, e⟩

end Numeral

def Binary64.ofText? (s : List Char) : Option Binary64 :=
  let (negative, rest) := splitSign s
  let word := Text.asciiLower rest
  if word = "inf".toList ∨ word = "infinity".toList then some (.infinity negative)
  else if word = "nan".toList then some .nan
  else (Numeral.ofText? rest).map (·.toBinary64 negative)

def Binary64.finiteOfText? (s : List Char) : Option Binary64 :=
  (Binary64.ofText? (Text.trim s)).filter (·.isFinite)

def naturalOfText? (limit : Nat) (s : List Char) : Option Nat :=
  let ds := match s with
    | '+' :: rest => rest
    | _ => s
  if ds.isEmpty || !ds.all isDigit then none
  else if digitsValue ds ≤ limit then some (digitsValue ds) else none

end LinkedControls.Decimal
