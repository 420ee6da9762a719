import LinkedControls.Text.Category

/-!
Quoted texts in descriptions: quotes, backslashes and line controls have short escapes, and
characters that cannot be shown alone are written by their code point.
-/

namespace LinkedControls.Text

def hexDigits (n : Nat) : List Char := Nat.toDigits 16 n

def codePointEscape (c : Char) : List Char :=
  ['\\', 'u', '\x7b'] ++ hexDigits c.toNat ++ ['\x7d']

def describeCharacter (c : Char) : List Char :=
  if c = '"' then ['\\', '"']
  else if c = '\\' then ['\\', '\\']
  else if c = '\n' then ['\\', 'n']
  else if c = '\r' then ['\\', 'r']
  else if c = '\t' then ['\\', 't']
  else if c.toNat = 0 then ['\\', '0']
  else if isExtending c || !isPrintable c then codePointEscape c
  else [c]

def describe (s : List Char) : List Char := '"' :: (s.flatMap describeCharacter ++ ['"'])

end LinkedControls.Text
