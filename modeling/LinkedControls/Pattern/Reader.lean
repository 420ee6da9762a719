import LinkedControls.Decimal.Reader
import LinkedControls.Pattern.Basic
import LinkedControls.Pattern.Property
import LinkedControls.Text.Percent
import LinkedControls.Text.Split

/-!
The written form of patterns: characters, brackets, groups, repetitions, assertions and inline flags.
There are no references back to groups and no looks around; a text that asks for them, like any other
malformed one, is no pattern.
-/

namespace LinkedControls.Pattern

open Decimal

structure Flags where
  anyCase : Bool
  multiLine : Bool
  dotAll : Bool
  returns : Bool
  extended : Bool
  unicode : Bool
deriving DecidableEq, Repr

namespace Flags

def start (anyCase : Bool) : Flags := ⟨anyCase, false, false, false, false, true⟩

def set? (f : Flags) (c : Char) (on : Bool) : Option Flags :=
  match c with
  | 'i' => some { f with anyCase := on }
  | 'm' => some { f with multiLine := on }
  | 's' => some { f with dotAll := on }
  | 'R' => some { f with returns := on }
  | 'x' => some { f with extended := on }
  | 'u' => some { f with unicode := on }
  | 'U' => some f
  | _ => none

def read (on : Bool) (seen : List Char) (f : Flags) :
    List Char → Option (Flags × Bool × Char × List Char)
  | [] => none
  | c :: rest =>
      if c = ':' ∨ c = ')' then
        if seen.head? = some '-' then none else some (f, !seen.isEmpty, c, rest)
      else if seen.contains c then none
      else if c = '-' then read false (c :: seen) f rest
      else
        match f.set? c on with
        | some f => read on (c :: seen) f rest
        | none => none

def word (f : Flags) : CharSet := if f.unicode then .word else .asciiWord

def digit (f : Flags) : CharSet := if f.unicode then .digit else .asciiDigit

def blank (f : Flags) : CharSet := if f.unicode then .blank else .asciiBlank

def fold (f : Flags) (set : CharSet) : CharSet :=
  if f.anyCase then .anyCase set else set

/-- The complement, which could match half of a character when characters are bytes. -/
def complement? (f : Flags) (negated : Bool) (set : CharSet) : Option CharSet :=
  if !negated then some set else if f.unicode then some (.complement set) else none

def literal (f : Flags) (c : Char) : CharSet :=
  if f.anyCase then .ofChars (Text.caseVariants c) else .single c

def dot? (f : Flags) : Option CharSet :=
  if !f.unicode then none
  else if f.dotAll then some .all
  else if f.returns then some (.complement (.ofChars ['\r', '\n']))
  else some (.complement (.single '\n'))

def startAssertion (f : Flags) : Assertion :=
  if !f.multiLine then .textStart else if f.returns then .lineStartReturn else .lineStart

def endAssertion (f : Flags) : Assertion :=
  if !f.multiLine then .textEnd else if f.returns then .lineEndReturn else .lineEnd

end Flags

def skipExtended : List Char → List Char
  | [] => []
  | c :: rest =>
      if Text.isBlank c then skipExtended rest
      else if c = '#' then skipComment rest
      else c :: rest
where
  skipComment : List Char → List Char
    | [] => []
    | c :: rest => if c = '\n' then skipExtended rest else skipComment rest

def Flags.skip (f : Flags) (s : List Char) : List Char :=
  if f.extended then skipExtended s else s

inductive Escape
  | literal (c : Char)
  | set (set : CharSet)
  | assertion (a : Assertion)

def hexCharacter? (ds : List Char) : Option Char := do
  let values ← ds.mapM Text.hexDigit?
  guard (!values.isEmpty && values.length ≤ 8)
  let n := values.foldl (fun n v => n * 16 + v) 0
  if n.isValidChar then some (Char.ofNat n) else none

def readHex (width : Nat) : List Char → Option (Char × List Char)
  | '\x7b' :: rest =>
      (Text.splitFirst '\x7d' rest).bind fun (ds, rest) => (hexCharacter? ds).map (·, rest)
  | s =>
      if (s.take width).length = width then (hexCharacter? (s.take width)).map (·, s.drop width)
      else none

def readProperty (f : Flags) (negated : Bool) (s : List Char) : Option (CharSet × List Char) := do
  guard f.unicode
  let (name, rest) ← match s with
    | '\x7b' :: rest => Text.splitFirst '\x7d' rest
    | c :: rest => some ([c], rest)
    | [] => none
  let (inverted, name) := match name with
    | '^' :: name => (true, name)
    | name => (false, name)
  let (unequal, set) ← match Text.splitFirst '=' name, Text.splitFirst ':' name with
    | some (property, value), _ =>
        if property.getLast? = some '!' then
          (CharSet.ofNameAndValue? property.dropLast value).map (true, ·)
        else (CharSet.ofNameAndValue? property value).map (false, ·)
    | none, some (property, value) => (CharSet.ofNameAndValue? property value).map (false, ·)
    | none, none => (CharSet.ofName? name).map (false, ·)
  let set := f.fold set
  return (if (negated != inverted) != unequal then .complement set else set, rest)

/-- An assertion on words, behind `b` and perhaps a name in braces. Braces that hold something else
belong to a repetition. -/
def readBoundary (f : Flags) (s : List Char) : Option (Escape × List Char) :=
  let plain := some (Escape.assertion (.wordBoundary f.word), s)
  match s with
  | '\x7b' :: rest =>
      let isName (c : Char) := Text.isAsciiLetter c || c == '-'
      if !rest.head?.any isName then plain
      else
        match rest.dropWhile isName with
        | '\x7d' :: after =>
            let named (a : Assertion) := some (Escape.assertion a, after)
            match String.ofList (rest.takeWhile isName) with
            | "start" => named (.wordStart f.word)
            | "end" => named (.wordEnd f.word)
            | "start-half" => named (.wordStartHalf f.word)
            | "end-half" => named (.wordEndHalf f.word)
            | _ => none
        | _ => none
  | _ => plain

def isEscapable (c : Char) : Bool :=
  c.toNat < 128 && !Text.isAsciiLetter c && !Text.isAsciiDigit c && c != '<' && c != '>'

def readEscape (f : Flags) : List Char → Option (Escape × List Char)
  | [] => none
  | c :: rest =>
      let literal (c : Char) := some (Escape.literal c, rest)
      let set (s : CharSet) := some (Escape.set s, rest)
      let assertion (a : Assertion) := some (Escape.assertion a, rest)
      let negated (s : CharSet) :=
        (f.complement? true s).map fun s => (Escape.set s, rest)
      match c with
      | 'a' => literal (Char.ofNat 7)
      | 'f' => literal (Char.ofNat 12)
      | 't' => literal '\t'
      | 'n' => literal '\n'
      | 'r' => literal '\r'
      | 'v' => literal (Char.ofNat 11)
      | 'x' => (readHex 2 rest).map fun (c, rest) => (.literal c, rest)
      | 'u' => (readHex 4 rest).map fun (c, rest) => (.literal c, rest)
      | 'U' => (readHex 8 rest).map fun (c, rest) => (.literal c, rest)
      | 'p' => (readProperty f false rest).map fun (s, rest) => (.set s, rest)
      | 'P' => (readProperty f true rest).map fun (s, rest) => (.set s, rest)
      | 'd' => set f.digit
      | 's' => set f.blank
      | 'w' => set f.word
      | 'D' => negated f.digit
      | 'S' => negated f.blank
      | 'W' => negated f.word
      | 'A' => assertion .textStart
      | 'z' => assertion .textEnd
      | 'b' => readBoundary f rest
      | 'B' => assertion (.noWordBoundary f.word)
      | '<' => assertion (.wordStart f.word)
      | '>' => assertion (.wordEnd f.word)
      | c => if isEscapable c then literal c else none

def readMember (f : Flags) : List Char → Option (Escape × List Char)
  | [] => none
  | '\\' :: rest =>
      match readEscape f rest with
      | some (.assertion _, _) => none
      | result => result
  | c :: rest => some (.literal c, rest)

def Escape.toSet : Escape → CharSet
  | .literal c => .single c
  | .set s => s
  | .assertion _ => .nothing

/-- A member, or two characters with a dash between them. A dash before a closing bracket or before
another dash stands for itself. -/
def readSpan (f : Flags) (s : List Char) : Option (CharSet × List Char) := do
  let (first, rest) ← readMember f s
  match f.skip rest with
  | [] => none
  | '-' :: tail =>
      match f.skip tail with
      | [] => none
      | ']' :: _ => return (first.toSet, rest)
      | '-' :: _ => return (first.toSet, rest)
      | tail =>
          match first, ← readMember f tail with
          | .literal a, (.literal b, rest) =>
              if a ≤ b then return (.between a b, rest) else none
          | _, _ => none
  | _ => return (first.toSet, rest)

def readAsciiClass (s : List Char) : Option (CharSet × List Char) := do
  let rest ← Text.afterLead ['[', ':'] s
  let (negated, rest) := match rest with
    | '^' :: rest => (true, rest)
    | rest => (false, rest)
  let (name, rest) ← Text.splitFirst ':' rest
  let rest ← Text.afterLead [']'] rest
  let set ← CharSet.asciiClass? (String.ofList name)
  return (if negated then .complement set else set, rest)

inductive SetOperator
  | first
  | intersection
  | difference
  | symmetricDifference

def SetOperator.combine (f : Flags) (a b : CharSet) : SetOperator → CharSet
  | .first => b
  | .intersection => .intersection (f.fold a) (f.fold b)
  | .difference => .difference (f.fold a) (f.fold b)
  | .symmetricDifference =>
      .union (.difference (f.fold a) (f.fold b)) (.difference (f.fold b) (f.fold a))

mutual

def readBrackets (f : Flags) : Nat → List Char → Option (CharSet × List Char)
  | 0, _ => none
  | fuel + 1, s =>
      let (negated, s) := match f.skip s with
        | '^' :: rest => (true, f.skip rest)
        | s => (false, s)
      let dashes := s.takeWhile (· == '-')
      let rest := f.skip (s.dropWhile (· == '-'))
      let (union, rest) :=
        if dashes.isEmpty then
          match rest with
          | ']' :: rest => (CharSet.single ']', rest)
          | rest => (.nothing, rest)
        else (CharSet.single '-', rest)
      match readMembers f fuel .nothing .first union rest with
      | some (set, rest) => (f.complement? negated (f.fold set)).map (·, rest)
      | none => none

def readMembers (f : Flags) : Nat → CharSet → SetOperator → CharSet → List Char →
    Option (CharSet × List Char)
  | 0, _, _, _, _ => none
  | fuel + 1, left, op, union, s =>
      let next (op' : SetOperator) (rest : List Char) :=
        readMembers f fuel (op.combine f left union) op' .nothing rest
      match f.skip s with
      | [] => none
      | ']' :: rest => some (op.combine f left union, rest)
      | '&' :: '&' :: rest => next .intersection rest
      | '-' :: '-' :: rest => next .difference rest
      | '~' :: '~' :: rest => next .symmetricDifference rest
      | '[' :: rest =>
          match readAsciiClass ('[' :: rest) with
          | some (set, rest) => readMembers f fuel left op (.union union set) rest
          | none =>
              match readBrackets f fuel rest with
              | some (set, rest) => readMembers f fuel left op (.union union set) rest
              | none => none
      | s =>
          match readSpan f s with
          | some (set, rest) => readMembers f fuel left op (.union union set) rest
          | none => none

end

def countLimit : Nat := 0xFFFFFFFF

def readCount (s : List Char) : Option (Option Nat × List Char) :=
  let s := Text.trimStart s
  let ds := s.takeWhile isDigit
  let rest := Text.trimStart (s.dropWhile isDigit)
  if ds.isEmpty then some (none, rest)
  else if digitsValue ds ≤ countLimit then some (some (digitsValue ds), rest)
  else none

def readCounts (s : List Char) : Option (Nat × Option Nat × List Char) := do
  let (least, rest) ← readCount s
  let least ← least
  match rest with
  | '\x7d' :: rest => return (least, some least, rest)
  | ',' :: rest =>
      match Text.trimStart rest with
      | '\x7d' :: rest => return (least, none, rest)
      | rest => do
          let (most, rest) ← readCount rest
          let most ← most
          let rest ← Text.afterLead ['\x7d'] rest
          if least ≤ most then return (least, some most, rest) else none
  | _ => none

def isNameStart (c : Char) : Bool := c == '_' || Text.isAlphabetic c

def isNamePart (c : Char) : Bool :=
  isNameStart c || c == '.' || c == '[' || c == ']' ||
    Text.Category.holds Text.Category.numbers c

def readName (s : List Char) : Option (String × List Char) := do
  let (name, rest) ← Text.splitFirst '>' s
  guard (name.head?.any isNameStart && name.all isNamePart)
  return (String.ofList name, rest)

inductive Opening
  | group (f : Flags) (name : Option String)
  | flags (f : Flags)

def readOpening (f : Flags) (s : List Char) : Option (Opening × List Char) :=
  let named (rest : List Char) :=
    (readName rest).map fun (name, rest) => (Opening.group f (some name), rest)
  match s with
  | '?' :: 'P' :: '<' :: rest => named rest
  | '?' :: '<' :: c :: rest => if c = '=' ∨ c = '!' then none else named (c :: rest)
  | '?' :: rest =>
      match Flags.read true [] f rest with
      | some (f, _, ':', rest) => some (.group f none, rest)
      | some (f, true, _, rest) => some (.flags f, rest)
      | _ => none
  | s => some (.group f none, s)

structure Progress where
  flags : Flags
  names : List String
  /-- The alternatives before the last bar. -/
  choices : List Pattern
  /-- The items since then, last one first; flags stand between them as nothing. -/
  items : List (Option Pattern)

namespace Progress

def add (p : Progress) (q : Pattern) : Progress := { p with items := some q :: p.items }

def alternative (p : Progress) : Pattern := sequences (p.items.reverse.filterMap id)

def result (p : Progress) : Pattern := Pattern.choices (p.choices ++ [p.alternative])

def bar (p : Progress) : Progress :=
  { p with choices := p.choices ++ [p.alternative], items := [] }

def repeatLast (p : Progress) (least : Nat) (most : Option Nat) : Option Progress :=
  match p.items with
  | some q :: rest => some { p with items := some (.repetition q least most) :: rest }
  | _ => none

end Progress

def skipLazy : List Char → List Char
  | '?' :: rest => rest
  | s => s

def readGroup : Nat → Progress → List Char → Option (Progress × List Char)
  | 0, _, _ => none
  | fuel + 1, p, s =>
      match p.flags.skip s with
      | [] => some (p, [])
      | ')' :: rest => some (p, ')' :: rest)
      | '|' :: rest => readGroup fuel p.bar rest
      | '(' :: rest =>
          match readOpening p.flags rest with
          | some (.flags f, rest) =>
              readGroup fuel { p with flags := f, items := none :: p.items } rest
          | some (.group f name, rest) =>
              if name.any p.names.contains then none
              else
                match readGroup fuel ⟨f, name.toList ++ p.names, [], []⟩ rest with
                | some (inner, ')' :: rest) =>
                    readGroup fuel ({ p with names := inner.names }.add inner.result) rest
                | _ => none
          | none => none
      | '[' :: rest =>
          match readBrackets p.flags fuel rest with
          | some (set, rest) => readGroup fuel (p.add (.one set)) rest
          | none => none
      | '\x7b' :: rest =>
          match readCounts rest with
          | some (least, most, rest) =>
              match p.repeatLast least most with
              | some p => readGroup fuel p (skipLazy rest)
              | none => none
          | none => none
      | '*' :: rest =>
          match p.repeatLast 0 none with
          | some p => readGroup fuel p (skipLazy rest)
          | none => none
      | '+' :: rest =>
          match p.repeatLast 1 none with
          | some p => readGroup fuel p (skipLazy rest)
          | none => none
      | '?' :: rest =>
          match p.repeatLast 0 (some 1) with
          | some p => readGroup fuel p (skipLazy rest)
          | none => none
      | '.' :: rest =>
          match p.flags.dot? with
          | some set => readGroup fuel (p.add (.one set)) rest
          | none => none
      | '^' :: rest => readGroup fuel (p.add (.assertion p.flags.startAssertion)) rest
      | '$' :: rest => readGroup fuel (p.add (.assertion p.flags.endAssertion)) rest
      | '\\' :: rest =>
          match readEscape p.flags rest with
          | some (.literal c, rest) => readGroup fuel (p.add (.one (p.flags.literal c))) rest
          | some (.set set, rest) => readGroup fuel (p.add (.one set)) rest
          | some (.assertion a, rest) => readGroup fuel (p.add (.assertion a)) rest
          | none => none
      | c :: rest => readGroup fuel (p.add (.one (p.flags.literal c))) rest

/-- The limit of a pattern's size. The weight is a measure of its own that stands for the size in bytes of a
compiled program: of the patterns near the limit, others may be refused. -/
def weightLimit : Nat := 327680

def ofText? (anyCase : Bool) (s : List Char) : Option Pattern :=
  match readGroup (2 * s.length + 2) ⟨.start anyCase, [], [], []⟩ s with
  | some (p, []) => if p.result.weight ≤ weightLimit then some p.result else none
  | _ => none

end LinkedControls.Pattern
