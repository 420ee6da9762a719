import LinkedControls.Json.Basic
import LinkedControls.Decimal.Reader

/-!
Reading JSON text. Objects keep repeated keys, brackets nest at most 127 deep, and a double is read
in two roundings: its digits as a whole number, then the scaling by a power of ten.
-/

namespace LinkedControls.Json

open Decimal

def isSpace (c : Char) : Bool := c == ' ' || c == '\n' || c == '\t' || c == '\r'

def skipSpace (s : List Char) : List Char := s.dropWhile isSpace

def wordMax : Nat := 0xFFFFFFFFFFFFFFFF

def appendDigits (n : Nat) : List Char → Nat × Nat
  | [] => (n, 0)
  | c :: rest =>
      let next := n * 10 + digitValue c
      if next ≤ wordMax then appendDigits next rest else (n, rest.length + 1)

/-- Divides by 10^308 until the exponent is at least -308 or nothing is left. -/
def raiseExponent : Nat → Binary64 → Nat → Binary64 × Nat
  | 0, x, e => (x, e)
  | fuel + 1, x, e =>
      if e ≤ 308 || x.eqv .zero then (x, e)
      else raiseExponent fuel (x.div (.ofNat (Nat.pow 10 308))) (e - 308)

def scaleDouble (negative : Bool) (n : Nat) (e : Int) : Option Binary64 :=
  let x := Binary64.ofNat n
  let scaled :=
    match e with
    | .ofNat k =>
        if n = 0 then some x
        else if 308 < k then none
        else some (x.mul (.ofNat (Nat.pow 10 k)))
    | .negSucc k =>
        let (y, e) := raiseExponent 8 x (k + 1)
        if y.eqv .zero then some y else some (y.div (.ofNat (Nat.pow 10 e)))
  match scaled with
  | some y => if y.isFinite then some (if negative then y.neg else y) else none
  | none => none

def readExponent (s : List Char) : Option (Option Int × List Char) :=
  match s with
  | c :: rest =>
      if c = 'e' ∨ c = 'E' then
        let (negative, rest) := splitSign rest
        let ds := rest.takeWhile isDigit
        if ds.isEmpty then none
        else
          let n : Int := digitsValue ds
          some (some (if negative then -n else n), rest.dropWhile isDigit)
      else some (none, s)
  | [] => some (none, [])

def readFraction (s : List Char) : Option (Option (List Char) × List Char) :=
  match s with
  | '.' :: rest =>
      let ds := rest.takeWhile isDigit
      if ds.isEmpty then none else some (some ds, rest.dropWhile isDigit)
  | _ => some (none, s)

/-- A number. Integers that fit 64 bits are kept exactly, but `-0` is a double. -/
def readNumber (s : List Char) : Option (Number × List Char) := do
  let (negative, s) := match s with
    | '-' :: rest => (true, rest)
    | _ => (false, s)
  let whole := s.takeWhile isDigit
  guard (!whole.isEmpty && (whole.length == 1 || whole.head? != some '0'))
  let (fraction, s) ← readFraction (s.dropWhile isDigit)
  let (exponent, s) ← readExponent s
  let (n, left) := appendDigits 0 whole
  match fraction, exponent, left with
  | none, none, 0 =>
      if !negative then return (.integer n, s)
      else if n = 0 then return (.double (Binary64.zero.neg), s)
      else if n ≤ 0x8000000000000000 then return (.integer (-n), s)
      else return (.double (Binary64.ofNat n).neg, s)
  | _, _, _ =>
      let ds := fraction.getD []
      let (n, unused) := appendDigits n ds
      let used : Int := ds.length - unused
      let x ← scaleDouble negative n (left - used + exponent.getD 0)
      return (.double x, s)

def hexValue? (c : Char) : Option Nat :=
  if '0' ≤ c ∧ c ≤ '9' then some (c.toNat - 48)
  else if 'a' ≤ c ∧ c ≤ 'f' then some (c.toNat - 87)
  else if 'A' ≤ c ∧ c ≤ 'F' then some (c.toNat - 55)
  else none

def unitValue? (a b c d : Char) : Option Nat := do
  let a ← hexValue? a
  let b ← hexValue? b
  let c ← hexValue? c
  let d ← hexValue? d
  return ((a * 16 + b) * 16 + c) * 16 + d

def unescape? (e : Char) : Option Char :=
  if e = '"' ∨ e = '\\' ∨ e = '/' then some e
  else if e = 'b' then some (Char.ofNat 8)
  else if e = 'f' then some (Char.ofNat 12)
  else if e = 'n' then some '\n'
  else if e = 'r' then some '\r'
  else if e = 't' then some '\t'
  else none

def isHighSurrogate (n : Nat) : Bool := 0xD800 ≤ n && n < 0xDC00

def isLowSurrogate (n : Nat) : Bool := 0xDC00 ≤ n && n < 0xE000

/-- The rest of a quoted text, after its opening quote. Two escapes make a character past the first
plane; a single half of such a pair is refused. -/
def readQuoted : List Char → Option (List Char × List Char)
  | [] => none
  | '"' :: rest => some ([], rest)
  | '\\' :: 'u' :: a :: b :: c :: d :: rest =>
      match unitValue? a b c d with
      | none => none
      | some high =>
          if isHighSurrogate high then
            match rest with
            | '\\' :: 'u' :: e :: f :: g :: h :: rest =>
                match unitValue? e f g h with
                | none => none
                | some low =>
                    if isLowSurrogate low then
                      (readQuoted rest).map fun (tail, rest) =>
                        (Char.ofNat (0x10000 + (high - 0xD800) * 0x400 + (low - 0xDC00)) :: tail, rest)
                    else none
            | _ => none
          else if isLowSurrogate high then none
          else (readQuoted rest).map fun (tail, rest) => (Char.ofNat high :: tail, rest)
  | '\\' :: e :: rest =>
      match unescape? e with
      | none => none
      | some c => (readQuoted rest).map fun (tail, rest) => (c :: tail, rest)
  | c :: rest =>
      if c.toNat < 32 || c == '\\' then none
      else (readQuoted rest).map fun (tail, rest) => (c :: tail, rest)

def readText (s : List Char) : Option (String × List Char) :=
  (readQuoted s).map fun (cs, rest) => (String.ofList cs, rest)

mutual

def readValue : Nat → Nat → List Char → Option (Json × List Char)
  | 0, _, _ => none
  | fuel + 1, depth, s =>
      match skipSpace s with
      | 'n' :: 'u' :: 'l' :: 'l' :: rest => some (.null, rest)
      | 't' :: 'r' :: 'u' :: 'e' :: rest => some (.bool true, rest)
      | 'f' :: 'a' :: 'l' :: 's' :: 'e' :: rest => some (.bool false, rest)
      | '"' :: rest => (readText rest).map fun (s, rest) => (.text s, rest)
      | '[' :: rest =>
          if depth = 0 then none
          else
            match skipSpace rest with
            | ']' :: rest => some (.array [], rest)
            | rest => (readItems fuel (depth - 1) rest).map fun (items, rest) => (.array items, rest)
      | '\x7b' :: rest =>
          if depth = 0 then none
          else
            match skipSpace rest with
            | '\x7d' :: rest => some (.object [], rest)
            | rest =>
                (readFields fuel (depth - 1) rest).map fun (fields, rest) => (.object fields, rest)
      | rest => (readNumber rest).map fun (n, rest) => (.number n, rest)

def readItems : Nat → Nat → List Char → Option (List Json × List Char)
  | 0, _, _ => none
  | fuel + 1, depth, s => do
      let (j, rest) ← readValue fuel depth s
      match skipSpace rest with
      | ']' :: rest => return ([j], rest)
      | ',' :: rest => do
          let (items, rest) ← readItems fuel depth rest
          return (j :: items, rest)
      | _ => none

def readFields : Nat → Nat → List Char → Option (List (String × Json) × List Char)
  | 0, _, _ => none
  | fuel + 1, depth, s =>
      match skipSpace s with
      | '"' :: rest => do
          let (key, rest) ← readText rest
          match skipSpace rest with
          | ':' :: rest => do
              let (j, rest) ← readValue fuel depth rest
              match skipSpace rest with
              | '\x7d' :: rest => return ([(key, j)], rest)
              | ',' :: rest => do
                  let (fields, rest) ← readFields fuel depth rest
                  return ((key, j) :: fields, rest)
              | _ => none
          | _ => none
      | _ => none

end

def ofText? (s : String) : Option Json :=
  let cs := s.toList
  match readValue (2 * cs.length + 2) 127 cs with
  | some (j, rest) => if (skipSpace rest).isEmpty then some j else none
  | none => none

end LinkedControls.Json
