import LinkedControls.Text.Case

namespace LinkedControls

inductive CharSet
  | span (first last : Nat)
  | category (cs : List Text.Category)
  | spans (ss : List Text.Span)
  | alphabetic
  | lowercase
  | uppercase
  | blank
  | digit
  | word
  | union (a b : CharSet)
  | intersection (a b : CharSet)
  | difference (a b : CharSet)
  | complement (a : CharSet)
  | anyCase (a : CharSet)

namespace CharSet

def holds : CharSet → Char → Bool
  | .span first last, c => first ≤ c.toNat && c.toNat ≤ last
  | .category cs, c => Text.Category.holds cs c
  | .spans ss, c => Text.covered ss c.toNat
  | .alphabetic, c => Text.isAlphabetic c
  | .lowercase, c => Text.isLowercase c
  | .uppercase, c => Text.isUppercase c
  | .blank, c => Text.isBlank c
  | .digit, c => Text.isDecimalDigit c
  | .word, c => Text.isWordCharacter c
  | .union a b, c => a.holds c || b.holds c
  | .intersection a b, c => a.holds c && b.holds c
  | .difference a b, c => a.holds c && !b.holds c
  | .complement a, c => !a.holds c
  | .anyCase a, c => (Text.caseVariants c).any a.holds

def single (c : Char) : CharSet := .span c.toNat c.toNat

def between (first last : Char) : CharSet := .span first.toNat last.toNat

def all : CharSet := .span 0 0x10FFFF

def nothing : CharSet := .span 1 0

def unions : List CharSet → CharSet
  | [] => nothing
  | [a] => a
  | a :: rest => .union a (unions rest)

def ofChars (cs : List Char) : CharSet := unions (cs.map single)

def asciiWord : CharSet :=
  unions [between 'a' 'z', between 'A' 'Z', between '0' '9', single '_']

def asciiDigit : CharSet := between '0' '9'

def asciiBlank : CharSet := unions [.span 9 13, single ' ']

def weight : CharSet → Nat
  | .span _ _ => 1
  | .union a b => a.weight + b.weight
  | .intersection a b => a.weight + b.weight
  | .difference a b => a.weight + b.weight
  | .complement a => a.weight + 1
  | .anyCase a => a.weight + 1
  | .blank => 10
  | .digit => 60
  | _ => 400

end CharSet

end LinkedControls
