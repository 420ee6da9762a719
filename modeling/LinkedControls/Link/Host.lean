import LinkedControls.Link.Punycode
import LinkedControls.Text.Case
import LinkedControls.Text.Percent
import LinkedControls.Text.Quoted
import LinkedControls.Text.Split

/-!
The hosts of addresses: domain names, and numbers of the two widths.
-/

namespace LinkedControls.Link

open Text

inductive UrlError
  | emptyHost
  | invalidName
  | invalidPort
  | invalidIpv4
  | invalidIpv6
  | invalidCharacter
  | relativeWithoutBase
deriving DecidableEq, Repr

def UrlError.message : UrlError → String
  | .emptyHost => "empty host"
  | .invalidName => "invalid international domain name"
  | .invalidPort => "invalid port number"
  | .invalidIpv4 => "invalid IPv4 address"
  | .invalidIpv6 => "invalid IPv6 address"
  | .invalidCharacter => "invalid domain character"
  | .relativeWithoutBase => "relative URL without a base"

def percentEncode (extra : List Char) (s : List Char) : List Char :=
  s.flatMap fun c =>
    if c.toNat < 32 || 127 ≤ c.toNat || extra.contains c then percentCharacter c else [c]

def ipv4Number? (s : List Char) : Option Nat := do
  let (base, ds) ← match s with
    | [] => none
    | '0' :: 'x' :: ds => some (16, ds)
    | '0' :: 'X' :: ds => some (16, ds)
    | '0' :: d :: ds => some (8, d :: ds)
    | ds => some (10, ds)
  let values ← ds.mapM hexDigit?
  guard (values.all (· < base))
  return values.foldl (fun n v => n * base + v) 0

def labels (domain : List Char) : List (List Char) :=
  let ls := splitOn '.' domain
  if ls.length > 1 && ls.getLast? == some [] then ls.dropLast else ls

def endsInNumber (domain : List Char) : Bool :=
  (labels domain).getLast?.any fun l =>
    (!l.isEmpty && l.all fun c => '0' ≤ c && c ≤ '9') || (ipv4Number? l).isSome

def ipv4? (domain : List Char) : Option Nat := do
  let ls := labels domain
  guard (ls.length ≤ 4)
  let ns ← ls.mapM ipv4Number?
  let last ← ns.getLast?
  let bytes := ns.dropLast
  guard (last < Nat.pow 256 (4 - bytes.length) && bytes.all (· < 256))
  return bytes.zipIdx.foldl (fun n (b, place) => n + b * Nat.pow 256 (3 - place)) last

def writeIpv4 (n : Nat) : List Char :=
  join ['.'] ([3, 2, 1, 0].map fun place => (Nat.repr (n / Nat.pow 256 place % 256)).toList)

def ipv6Piece? (s : List Char) : Option Nat := do
  guard (1 ≤ s.length && s.length ≤ 4)
  return (← s.mapM hexDigit?).foldl (fun n v => n * 16 + v) 0

def byte? (s : List Char) : Option Nat := do
  guard (!s.isEmpty && s.all fun c => '0' ≤ c && c ≤ '9')
  guard (s.length == 1 || s.head? != some '0')
  let n := s.foldl (fun n c => n * 10 + (c.toNat - 48)) 0
  guard (n < 256)
  return n

def ipv6Tail? (s : List Char) : Option (List Nat) := do
  match ← (splitOn '.' s).mapM byte? with
  | [a, b, c, d] => return [a * 256 + b, c * 256 + d]
  | _ => none

def ipv6Pieces? : List (List Char) → Option (List Nat)
  | [] => some []
  | [s] => if s.contains '.' then ipv6Tail? s else (ipv6Piece? s).map ([·])
  | s :: rest => do return (← ipv6Piece? s) :: (← ipv6Pieces? rest)

def splitGap : List Char → Option (List Char × List Char)
  | ':' :: ':' :: rest => some ([], rest)
  | c :: rest => (splitGap rest).map fun (before, after) => (c :: before, after)
  | [] => none

def ipv6Side? (s : List Char) : Option (List Nat) :=
  if s.isEmpty then some [] else ipv6Pieces? (splitOn ':' s)

def ipv6? (s : List Char) : Option (List Nat) :=
  match splitGap s with
  | none => (ipv6Pieces? (splitOn ':' s)).filter (·.length == 8)
  | some (before, after) => do
      guard (!before.contains '.')
      let left ← ipv6Side? before
      let right ← ipv6Side? after
      guard (left.length + right.length ≤ 7)
      return left ++ List.replicate (8 - left.length - right.length) 0 ++ right

def zerosAhead (pieces : List Nat) : Nat := (pieces.takeWhile (· == 0)).length

def longestZeros (pieces : List Nat) : Nat × Nat :=
  (List.range pieces.length).foldl
    (fun best place =>
      let n := zerosAhead (pieces.drop place)
      if best.2 < n then (place, n) else best)
    (0, 0)

def writePieces (pieces : List Nat) : List Char := join [':'] (pieces.map hexDigits)

def writeIpv6 (pieces : List Nat) : List Char :=
  let (place, n) := longestZeros pieces
  if n < 2 then writePieces pieces
  else writePieces (pieces.take place) ++ [':', ':'] ++ writePieces (pieces.drop (place + n))

/-- A character as domain names have it: lower case, and of plain width. This is a part of the mapping of
international names: other compatibility mappings (of ligatures, for one) and normalization are left out. -/
def plainCharacter (c : Char) : List Char :=
  let n := c.toNat
  if n = 0x3002 ∨ n = 0xFF0E ∨ n = 0xFF61 then ['.']
  else if n = 0xAD ∨ n = 0x200B ∨ n = 0x2060 ∨ n = 0xFEFF then []
  else if 0xFF01 ≤ n ∧ n ≤ 0xFF5E then [(Char.ofNat (n - 0xFEE0)).toLower]
  else lowerCharacter c

def isForbidden (c : Char) : Bool :=
  c.toNat ≤ 32 || c.toNat == 127 || "#%/:<>?@[\\]^|".toList.contains c

/-- The name with its labels encoded. Labels that begin with `xn--` stand as they are; what they encode is
not checked. -/
def domain? (s : List Char) : Except UrlError (List Char) :=
  match unescapeComponent? s with
  | none => .error .invalidName
  | some s =>
      let mapped := s.flatMap plainCharacter
      if mapped.any isForbidden then .error .invalidName
      else .ok (join ['.'] ((splitOn '.' mapped).map Punycode.encodeLabel))

def bracketed? (s : List Char) : Except UrlError (List Char) :=
  match s.getLast?, ipv6? s.dropLast with
  | some ']', some pieces => .ok ('[' :: (writeIpv6 pieces ++ [']']))
  | _, _ => .error .invalidIpv6

def specialHost (s : List Char) : Except UrlError (List Char) :=
  match s with
  | '[' :: rest => bracketed? rest
  | s => do
      let domain ← domain? s
      if domain.isEmpty then throw .emptyHost
      if endsInNumber domain then
        match ipv4? domain with
        | some n => return writeIpv4 n
        | none => throw .invalidIpv4
      else return domain

def isForbiddenOpaque (c : Char) : Bool :=
  c.toNat == 0 || "\t\n\r #/:<>?@[\\]^|".toList.contains c

def opaqueHost (s : List Char) : Except UrlError (List Char) :=
  match s with
  | '[' :: rest => bracketed? rest
  | s => if s.any isForbiddenOpaque then .error .invalidCharacter else .ok (percentEncode [] s)

end LinkedControls.Link
