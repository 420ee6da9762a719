import LinkedControls.Decimal.Reader
import LinkedControls.Pattern.Reader
import LinkedControls.Text.Blank
import LinkedControls.Text.Split

/-!
The directives that say what is logged: levels, targets with levels, and spans with fields, between
commas.
-/

namespace LinkedControls.LogFilter

open Text

def levelNames : List String := ["error", "warn", "info", "debug", "trace", "off"]

def isLevel (s : List Char) : Bool :=
  (Decimal.naturalOfText? 5 s).isSome || levelNames.contains (String.ofList (asciiLower s))

inductive State
  | start
  | levelOrTarget (first : Nat)
  | span
  | field (first : Nat)
  | fields
  | target
  | level (first : Nat)
deriving DecidableEq, Repr

def isField (s : List Char) : Bool :=
  !s.isEmpty &&
    match splitOn '=' s with
    | _ :: value :: _ => (Pattern.ofText? false value).isSome
    | _ => true

def slice (s : List Char) (first last : Nat) : List Char := (s.take last).drop first

def step (s : List Char) (place : Nat) (c : Char) : State → Option State
  | .start =>
      if c = '[' then some .span
      else if c = '-' ∨ c = ':' ∨ c = '_' ∨ isAlphabetic c ∨ Category.holds Category.numbers c then
        some (.levelOrTarget place)
      else none
  | .levelOrTarget first =>
      if c = '=' then some (.level (place + 1))
      else if c = '[' then some .span
      else some (.levelOrTarget first)
  | .span =>
      if c = ']' then some .target
      else if c = '\x7b' then some (.field (place + 1))
      else some .span
  | .field first =>
      if c = '\x7d' then if isField (slice s first place) then some .fields else none
      else some (.field first)
  | .fields => if c = ']' then some .target else none
  | .target => if c = '=' then some (.level (place + 1)) else none
  | .level first => some (.level first)

def run (s : List Char) : Nat → List Char → State → Option State
  | _, [], state => some state
  | place, c :: rest, state => (step s place c state).bind (run s (place + 1) rest)

/-- A directive is well formed. Places count from its first character that is not blank, and parts
are cut from the directive as it is. -/
def isDirective (s : List Char) : Bool :=
  match run s 0 (trim s) .start with
  | some (.levelOrTarget _) => true
  | some .target => true
  | some (.level first) => (s.drop first).isEmpty || isLevel (s.drop first)
  | _ => false

def isValid (s : String) : Bool :=
  ((splitOn ',' s.toList).filter (!·.isEmpty)).all isDirective

end LinkedControls.LogFilter
