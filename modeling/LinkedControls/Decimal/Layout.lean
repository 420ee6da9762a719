import LinkedControls.Decimal.Shortest

/-!
Written forms of a binary64 number. All of them show the shortest digits that read back; a layout
says which decades are written positionally, whether a whole number keeps a point, and how an
exponent is marked.
-/

namespace LinkedControls.Decimal

structure Layout where
  tie : Tie
  /-- The decades written positionally, from the first and below the second; all when absent. -/
  positional : Option (Int × Int)
  wholePoint : Bool
  plusSign : Bool
deriving Repr

namespace Layout

/-- Positional at every size and without a superfluous point: `100`, `0.0000001`. -/
def plain : Layout := ⟨.up, none, false, false⟩

/-- The text of a number in a JSON document: `100.0`, `0.00001`, `1e-6`, `1e+16`. -/
def json : Layout := ⟨.even, some (-5, 16), true, true⟩

/-- The text of a number in a description of a value: `100.0`, `0.0001`, `1e-5`, `1e16`. -/
def described : Layout := ⟨.up, some (-4, 16), true, false⟩

end Layout

def DecimalNumber.significant (d : DecimalNumber) : List Char × Int :=
  let all := (Nat.repr d.digits).toList
  let kept := (all.reverse.dropWhile (· == '0')).reverse
  (kept, d.exponent + all.length - 1)

def writePositional (wholePoint : Bool) (digits : List Char) (decade : Int) : List Char :=
  match decade with
  | .negSucc k => '0' :: '.' :: (List.replicate k '0' ++ digits)
  | .ofNat k =>
      let whole := digits.take (k + 1)
      let fraction := digits.drop (k + 1)
      whole ++ List.replicate (k + 1 - whole.length) '0' ++
        (if fraction.isEmpty then (if wholePoint then ['.', '0'] else []) else '.' :: fraction)

def writeExponent (plusSign : Bool) (digits : List Char) (decade : Int) : List Char :=
  let mark := if plusSign && 0 ≤ decade then ['e', '+'] else ['e']
  let mantissa := match digits with
    | [] => ['0']
    | [d] => [d]
    | d :: rest => d :: '.' :: rest
  mantissa ++ mark ++ (toString decade).toList

namespace Layout

def writeMagnitude (layout : Layout) (m : Magnitude) : List Char :=
  if m.units = 0 then (if layout.wholePoint then ['0', '.', '0'] else ['0'])
  else
    let (digits, decade) := (m.shortest layout.tie).significant
    let positional := match layout.positional with
      | none => true
      | some (lo, hi) => decide (lo ≤ decade ∧ decade < hi)
    if positional then writePositional layout.wholePoint digits decade
    else writeExponent layout.plusSign digits decade

def write (layout : Layout) : Binary64 → String
  | .nan => "NaN"
  | .infinity negative => if negative then "-inf" else "inf"
  | .finite negative m =>
      String.ofList ((if negative then ['-'] else []) ++ layout.writeMagnitude m)

end Layout

def Binary64.toText (x : Binary64) : String := Layout.plain.write x

end LinkedControls.Decimal
