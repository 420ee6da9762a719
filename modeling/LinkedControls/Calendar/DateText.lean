import LinkedControls.Calendar.Date
import LinkedControls.Decimal.Reader

/-!
Dates as text: `2024-01-31`, with a sign on years past four digits. A date is also read off a
date-time, whose time of day and offset are checked and dropped.
-/

namespace LinkedControls.Calendar

open Decimal

def padded (places n : Nat) : List Char :=
  let ds := (Nat.repr n).toList
  List.replicate (places - ds.length) '0' ++ ds

namespace Date

def yearText (year : Int) : List Char :=
  if 0 ≤ year ∧ year ≤ 9999 then padded 4 year.toNat
  else (if year < 0 then '-' else '+') :: padded 4 year.natAbs

def toChars (d : Date) : List Char :=
  yearText d.year ++ '-' :: padded 2 d.month ++ '-' :: padded 2 d.day

def toText (d : Date) : String := String.ofList d.toChars

end Date

def readDigits (width : Nat) (s : List Char) : Option (Nat × List Char) :=
  let ds := (s.takeWhile isDigit).take width
  if ds.isEmpty then none else some (digitsValue ds, s.drop ds.length)

def readField (lo hi : Nat) (s : List Char) : Option (Nat × List Char) := do
  let (n, rest) ← readDigits 2 (Text.trimStart s)
  guard (lo ≤ n && n ≤ hi)
  return (n, rest)

/-- Blanks, then a year: up to four digits, or any number of digits after a sign. -/
def readYear (s : List Char) : Option (Int × List Char) :=
  match Text.trimStart s with
  | '-' :: rest => (readDigits rest.length rest).map fun (n, rest) => (-(n : Int), rest)
  | '+' :: rest => (readDigits rest.length rest).map fun (n, rest) => ((n : Int), rest)
  | rest => (readDigits 4 rest).map fun (n, rest) => ((n : Int), rest)

def readChar (c : Char) : List Char → Option (List Char)
  | [] => none
  | d :: rest => if c = d then some rest else none

def readDate (s : List Char) : Option (Date × List Char) := do
  let (year, s) ← readYear s
  let s ← readChar '-' s
  let (month, s) ← readField 1 12 s
  let s ← readChar '-' s
  let (day, s) ← readField 1 31 s
  let date ← Date.of? year month day
  return (date, s)

def atEnd {α : Type} : Option (α × List Char) → Option α
  | some (a, []) => some a
  | _ => none

def dayOfText? (s : List Char) : Option Date := atEnd (readDate s)

def readFixed (width lo hi : Nat) (s : List Char) : Option (Nat × List Char) := do
  let ds := s.take width
  guard (ds.length == width && ds.all isDigit)
  let n := digitsValue ds
  guard (lo ≤ n && n ≤ hi)
  return (n, s.drop width)

def skipFraction : List Char → Option (List Char)
  | '.' :: rest =>
      let ds := rest.takeWhile isDigit
      if ds.isEmpty then none else some (rest.dropWhile isDigit)
  | s => some s

def readOffset : List Char → Option (List Char)
  | [] => none
  | c :: rest =>
      if c = 'Z' ∨ c = 'z' then some rest
      else if c = '+' ∨ c = '-' ∨ c = '−' then do
        let (_, rest) ← readFixed 2 0 23 rest
        let rest ← readChar ':' rest
        let (_, rest) ← readFixed 2 0 59 rest
        return rest
      else none

def dayOfMoment? (s : List Char) : Option Date := do
  let (year, s) ← readFixed 4 0 9999 s
  let s ← readChar '-' s
  let (month, s) ← readFixed 2 1 12 s
  let s ← readChar '-' s
  let (day, s) ← readFixed 2 1 31 s
  let date ← Date.of? year month day
  let s ← match s with
    | c :: rest => if c = 'T' ∨ c = 't' ∨ c = ' ' then some rest else none
    | [] => none
  let (_, s) ← readFixed 2 0 23 s
  let s ← readChar ':' s
  let (_, s) ← readFixed 2 0 59 s
  let s ← readChar ':' s
  let (_, s) ← readFixed 2 0 60 s
  let s ← readOffset (← skipFraction s)
  atEnd (some (date, s))

def dayOfLocal? (separate : List Char → Option (List Char)) (seconds : Bool) (s : List Char) :
    Option Date := do
  let (date, s) ← readDate s
  let s ← separate s
  let (_, s) ← readField 0 23 s
  let s ← readChar ':' s
  let (_, s) ← readField 0 59 s
  let s ← if seconds then do
      let s ← readChar ':' s
      let (_, s) ← readField 0 60 s
      skipFraction s
    else some s
  atEnd (some (date, s))

def Date.ofText? (s : List Char) : Option Date :=
  let s := Text.trim s
  dayOfText? s <|> dayOfMoment? s <|> dayOfLocal? (readChar 'T') true s <|>
    dayOfLocal? (fun s => some (Text.trimStart s)) true s <|> dayOfLocal? (readChar 'T') false s

end LinkedControls.Calendar
