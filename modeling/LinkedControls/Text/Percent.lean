/-!
Percent-encoded components of links: letters, digits, `-`, `_` and `.` stand for themselves, and all
else is written as the bytes of its UTF-8 form.
-/

namespace LinkedControls.Text

def isUnreserved (c : Char) : Bool :=
  ('a' ≤ c && c ≤ 'z') || ('A' ≤ c && c ≤ 'Z') || ('0' ≤ c && c ≤ '9') ||
    c == '-' || c == '_' || c == '.'

def hexUpper (n : Nat) : Char := if n < 10 then Char.ofNat (48 + n) else Char.ofNat (55 + n)

def percentByte (b : UInt8) : List Char :=
  ['%', hexUpper (b.toNat / 16), hexUpper (b.toNat % 16)]

def percentCharacter (c : Char) : List Char := (String.utf8EncodeChar c).flatMap percentByte

def escapeComponent (s : List Char) : List Char :=
  s.flatMap fun c => if isUnreserved c then [c] else percentCharacter c

def hexDigit? (c : Char) : Option Nat :=
  if '0' ≤ c ∧ c ≤ '9' then some (c.toNat - 48)
  else if 'a' ≤ c ∧ c ≤ 'f' then some (c.toNat - 87)
  else if 'A' ≤ c ∧ c ≤ 'F' then some (c.toNat - 55)
  else none

def hexByte? (h l : Char) : Option UInt8 := do
  let h ← hexDigit? h
  let l ← hexDigit? l
  return UInt8.ofNat (16 * h + l)

/-- The bytes that a component stands for. A percent sign without two digits stands for itself. -/
def componentBytes : List Char → List UInt8
  | [] => []
  | '%' :: h :: l :: rest =>
      match hexByte? h l with
      | some b => b :: componentBytes rest
      | none => String.utf8EncodeChar '%' ++ componentBytes (h :: l :: rest)
  | c :: rest => String.utf8EncodeChar c ++ componentBytes rest

def ofBytes? (bytes : List UInt8) : Option (List Char) :=
  (ByteArray.mk bytes.toArray).utf8Decode?.map Array.toList

def unescapeComponent? (s : List Char) : Option (List Char) := ofBytes? (componentBytes s)

end LinkedControls.Text
