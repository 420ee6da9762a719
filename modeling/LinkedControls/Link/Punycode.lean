/-!
Labels of domain names with characters beyond the first code page, written with letters, digits and
dashes alone. The other characters follow the plain ones as gaps in ascending order of code points.
-/

namespace LinkedControls.Link.Punycode

def base : Nat := 36

def leastThreshold : Nat := 1

def greatestThreshold : Nat := 26

def digit (n : Nat) : Char := if n < 26 then Char.ofNat (97 + n) else Char.ofNat (22 + n)

def threshold (place bias : Nat) : Nat :=
  max leastThreshold (min greatestThreshold (place - bias))

def shrink : Nat → Nat → Nat → Nat × Nat
  | 0, n, k => (n, k)
  | fuel + 1, n, k =>
      if 455 < n then shrink fuel (n / (base - leastThreshold)) (k + base) else (n, k)

def adapt (gap count : Nat) (isFirst : Bool) : Nat :=
  let n := if isFirst then gap / 700 else gap / 2
  let n := n + n / count
  let (n, k) := shrink n n 0
  k + base * n / (n + 38)

def writeGap : Nat → Nat → Nat → Nat → List Char
  | 0, _, _, _ => []
  | fuel + 1, bias, place, n =>
      let t := threshold place bias
      if n < t then [digit n]
      else digit (t + (n - t) % (base - t)) :: writeGap fuel bias (place + base) ((n - t) / (base - t))

structure State where
  output : List Char
  gap : Nat
  bias : Nat
  handled : Nat

def pass (plain n : Nat) (s : State) (c : Char) : State :=
  if c.toNat < n then { s with gap := s.gap + 1 }
  else if c.toNat = n then
    { output := s.output ++ writeGap (s.gap + 1) s.bias base s.gap
      gap := 0
      bias := adapt s.gap (s.handled + 1) (s.handled == plain)
      handled := s.handled + 1 }
  else s

def insertAll (label : List Char) (plain : Nat) : List Nat → Nat → State → State
  | [], _, s => s
  | n :: rest, start, s =>
      let s := { s with gap := s.gap + (n - start) * (s.handled + 1) }
      let s := label.foldl (pass plain n) s
      insertAll label plain rest (n + 1) { s with gap := s.gap + 1 }

def encode (label : List Char) : List Char :=
  let plain := label.filter fun c => c.toNat < 128
  let others := ((label.filter fun c => 128 ≤ c.toNat).map Char.toNat).eraseDups.mergeSort
  let lead := if plain.isEmpty then [] else plain ++ ['-']
  (insertAll label plain.length others 128 ⟨lead, 0, 72, plain.length⟩).output

def encodeLabel (label : List Char) : List Char :=
  if label.all fun c => c.toNat < 128 then label else ['x', 'n', '-', '-'] ++ encode label

end LinkedControls.Link.Punycode
