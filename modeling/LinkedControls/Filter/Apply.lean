import LinkedControls.Filter.Predicate
import LinkedControls.Pattern.Reader

/-!
Filtering records: each record has to pass every test of single records, and then every ranking
keeps the best of what is left.
-/

namespace LinkedControls

open Decimal Calendar

def foldText (caseSensitive : Bool) (s : List Char) : List Char :=
  if caseSensitive then s else Text.toLower s

structure TextMatcher where
  test : List Char → Bool
  negated : Bool

namespace TextMatcher

def testOf (op : TextTest) (needle : List Char) (caseSensitive : Bool) : List Char → Bool :=
  match op with
  | .equals => fun s => foldText caseSensitive s == foldText caseSensitive needle
  | .contains => fun s => Text.contains (foldText caseSensitive needle) (foldText caseSensitive s)
  | .startsWith => fun s => (foldText caseSensitive needle).isPrefixOf (foldText caseSensitive s)
  | .endsWith => fun s => (foldText caseSensitive needle).isSuffixOf (foldText caseSensitive s)
  | .matchesPattern =>
      match Pattern.ofText? (!caseSensitive) needle with
      | some p => p.isIn
      | none => fun _ => false

def ofOp (op : TextOp) (needle : String) (caseSensitive : Bool) : TextMatcher :=
  ⟨testOf op.test needle.toList caseSensitive, op.negated⟩

def accepts (m : TextMatcher) (s : String) : Bool := m.test s.toList != m.negated

end TextMatcher

namespace Range

def containsNumber (r : Range Binary64) (x : Binary64) : Bool :=
  r.lower.all (·.le x) && r.upper.all fun hi => x.le hi

def containsDate (r : Range Date) (d : Date) : Bool :=
  r.lower.all (·.le d) && r.upper.all fun hi => d.le hi

end Range

def NumberOp.accepts (op : NumberOp) (bound x : Binary64) : Bool :=
  match op with
  | .equals => x.eqv bound
  | .atMost => x.le bound
  | .atLeast => bound.le x

namespace Condition

def matcher? : Condition → Option TextMatcher
  | .text op needle caseSensitive => some (.ofOp op needle caseSensitive)
  | _ => none

/-- A field passes the test. One that cannot be read as the test needs it fails, except that only
what has a text can be hidden. -/
def accepts (m : Option TextMatcher) : Condition → Option Json → Bool
  | .text _ _ _, field => (field.bind Field.text?).any fun s => m.any (·.accepts s)
  | .number op value, field => (field.bind Field.number?).any (op.accepts value)
  | .boolean expected, field => field.bind Field.bool? == some expected
  | .membership items, some (.array fields) =>
      (fields.filterMap Field.text?).any items.contains
  | .membership items, field => (field.bind Field.text?).any items.contains
  | .numberBetween r, field => (field.bind Field.number?).any r.containsNumber
  | .dateBetween r, field => (field.bind Field.date?).any r.containsDate
  | .hidden items _, field => (field.bind Field.text?).all fun s => !items.contains s
  | .topN _ _ _, _ => true

end Condition

def Predicate.accepts (p : Predicate) (record : Record) : Bool :=
  p.condition.accepts p.condition.matcher? (record.lookup p.column)

def Predicate.hidesAll (p : Predicate) : Bool :=
  match p.condition with
  | .hidden items series => !series.isEmpty && series.all items.contains
  | _ => false

namespace Ranking

def sizeLimit : Nat := 0xFFFFFFFFFFFFFFFF

def percent : Binary64 := .ofNat 100

def clampPercent (x : Binary64) : Binary64 :=
  if x.lt .zero then .zero else if percent.lt x then percent else x

def keepCount (n : Binary64) (percentile : Bool) (size : Nat) : Nat :=
  if percentile then
    (((clampPercent n).div percent).mul (.ofNat size)).ceilNat sizeLimit
  else (n.max .zero).floorNat sizeLimit

def precedes (direction : Direction) : Option Binary64 → Option Binary64 → Bool
  | some x, some y =>
      match direction with
      | .top => !x.lt y
      | .bottom => !y.lt x
  | some _, none => true
  | none, some _ => false
  | none, none => true

def key (column : String) (record : Record) : Option Binary64 :=
  (record.lookup column).bind Field.number?

def best (records : List Record) (column : String) (direction : Direction) (keep : Nat) :
    List Nat :=
  let ranked := (records.map (key column)).zipIdx.mergeSort fun a b =>
    precedes direction a.1 b.1
  (ranked.take keep).map (·.2)

def select (records : List Record) (column : String) (direction : Direction) (keep : Nat) :
    List Record :=
  if records.length ≤ keep then records
  else
    let chosen := best records column direction keep
    records.zipIdx.filterMap fun (record, place) =>
      if chosen.contains place then some record else none

end Ranking

def Predicate.rank (records : List Record) (p : Predicate) : List Record :=
  match p.condition with
  | .topN n direction percentile =>
      Ranking.select records p.column direction (Ranking.keepCount n percentile records.length)
  | _ => records

def applyFilters (records : List Record) (ps : List Predicate) : List Record :=
  if ps.any (·.hidesAll) then []
  else
    let tests := (ps.filter (!·.isRanking)).map fun p => (p, p.condition.matcher?)
    let rows := records.filter fun record =>
      tests.all fun (p, m) => p.condition.accepts m (record.lookup p.column)
    (ps.filter (·.isRanking)).foldl Predicate.rank rows

def filterRecords (records : List Record) (ts : List FilterTarget) (s : Snapshot) :
    List Record :=
  applyFilters records (Predicate.deriveAll ts s)

end LinkedControls
