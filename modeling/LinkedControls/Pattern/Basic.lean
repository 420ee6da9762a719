import LinkedControls.Pattern.CharSet

/-!
Patterns and the search for them in texts. A search follows all ways through a pattern at once, as a
set of places in the text, so that its time does not depend on how ambiguous the pattern is.
-/

namespace LinkedControls

structure Place where
  offset : Nat
  before : Option Char
  rest : List Char
deriving DecidableEq

namespace Place

def allFrom (offset : Nat) (before : Option Char) : List Char → List Place
  | [] => [⟨offset, before, []⟩]
  | c :: rest => ⟨offset, before, c :: rest⟩ :: allFrom (offset + 1) (some c) rest

def all (s : List Char) : List Place := allFrom 0 none s

def after (p : Place) : Option Char := p.rest.head?

def pass (set : CharSet) (p : Place) : Option Place :=
  match p.rest with
  | c :: rest => if set.holds c then some ⟨p.offset + 1, some c, rest⟩ else none
  | [] => none

def merge : List Place → List Place → List Place
  | [], qs => qs
  | ps, [] => ps
  | p :: ps, q :: qs =>
      if p.offset < q.offset then p :: merge ps (q :: qs)
      else if q.offset < p.offset then q :: merge (p :: ps) qs
      else p :: merge ps qs

def remove : List Place → List Place → List Place
  | [], _ => []
  | ps, [] => ps
  | p :: ps, q :: qs =>
      if p.offset < q.offset then p :: remove ps (q :: qs)
      else if q.offset < p.offset then remove (p :: ps) qs
      else remove ps qs

end Place

inductive Assertion
  | textStart
  | textEnd
  | lineStart
  | lineEnd
  | lineStartReturn
  | lineEndReturn
  | wordBoundary (set : CharSet)
  | noWordBoundary (set : CharSet)
  | wordStart (set : CharSet)
  | wordEnd (set : CharSet)
  | wordStartHalf (set : CharSet)
  | wordEndHalf (set : CharSet)

namespace Assertion

def inWord (set : CharSet) : Option Char → Bool
  | some c => set.holds c
  | none => false

def holds (a : Assertion) (p : Place) : Bool :=
  match a with
  | .textStart => p.before.isNone
  | .textEnd => p.after.isNone
  | .lineStart => p.before.isNone || p.before == some '\n'
  | .lineEnd => p.after.isNone || p.after == some '\n'
  | .lineStartReturn =>
      p.before.isNone || p.before == some '\n' ||
        (p.before == some '\r' && p.after != some '\n')
  | .lineEndReturn =>
      p.after.isNone || p.after == some '\r' ||
        (p.after == some '\n' && p.before != some '\r')
  | .wordBoundary w => inWord w p.before != inWord w p.after
  | .noWordBoundary w => inWord w p.before == inWord w p.after
  | .wordStart w => !inWord w p.before && inWord w p.after
  | .wordEnd w => inWord w p.before && !inWord w p.after
  | .wordStartHalf w => !inWord w p.before
  | .wordEndHalf w => !inWord w p.after

end Assertion

inductive Pattern
  | empty
  | one (set : CharSet)
  | assertion (a : Assertion)
  | sequence (p q : Pattern)
  | choice (p q : Pattern)
  /-- At least `least` times, and at most `most` times if that is given. -/
  | repetition (p : Pattern) (least : Nat) (most : Option Nat)

namespace Pattern

def spread (step : List Place → List Place) : Nat → List Place → List Place → List Place
  | 0, _, seen => seen
  | rounds + 1, front, seen =>
      match Place.remove (step front) seen with
      | [] => seen
      | fresh => spread step rounds fresh (Place.merge seen fresh)

def iterate (step : List Place → List Place) : Nat → List Place → List Place
  | 0, ps => ps
  | _ + 1, [] => []
  | n + 1, ps => iterate step n (step ps)

def placesFrom : List Place → Nat
  | [] => 0
  | p :: _ => p.rest.length + 1

def advance : Pattern → List Place → List Place
  | .empty, ps => ps
  | .one set, ps => ps.filterMap (Place.pass set)
  | .assertion a, ps => ps.filter a.holds
  | .sequence p q, ps => q.advance (p.advance ps)
  | .choice p q, ps => Place.merge (p.advance ps) (q.advance ps)
  | .repetition p least most, ps =>
      let ps := iterate p.advance least ps
      let rounds := match most with
        | some m => min (m - least) (placesFrom ps)
        | none => placesFrom ps
      spread p.advance rounds ps ps

def matchesAt (p : Pattern) (place : Place) : Bool := !(p.advance [place]).isEmpty

def isIn (p : Pattern) (s : List Char) : Bool := !(p.advance (Place.all s)).isEmpty

def sequences : List Pattern → Pattern
  | [] => .empty
  | [p] => p
  | p :: rest => .sequence p (sequences rest)

def choices : List Pattern → Pattern
  | [] => .one .nothing
  | [p] => p
  | p :: rest => .choice p (choices rest)

def star (p : Pattern) : Pattern := .repetition p 0 none

def plus (p : Pattern) : Pattern := .repetition p 1 none

def optional (p : Pattern) : Pattern := .repetition p 0 (some 1)

def chars (set : CharSet) : Pattern := .one set

def letter (c : Char) : Pattern := .one (.ofChars (Text.caseVariants c))

def word (s : String) : Pattern := sequences (s.toList.map letter)

def exact (c : Char) : Pattern := .one (.single c)

def blanks : Pattern := star (.one .blank)

def boundary : Pattern := .assertion (.wordBoundary .word)

def weight : Pattern → Nat
  | .empty => 1
  | .one set => set.weight
  | .assertion _ => 1
  | .sequence p q => p.weight + q.weight
  | .choice p q => p.weight + q.weight + 1
  | .repetition p least most => p.weight * max (most.getD least) 1 + 1

end Pattern

end LinkedControls
