import LinkedControls.Text.Category
import LinkedControls.Text.Table.Case

/-!
Upper case, lower case and case folding of texts. The full mappings may give several characters
for one, and the lower case of a capital sigma depends on its place in the word.
-/

namespace LinkedControls.Text

def upperCharacter (c : Char) : List Char :=
  if c.toNat < 128 then [c.toUpper]
  else
    match Table.upperExpansions.lookup c.toNat with
    | some several => several.map Char.ofNat
    | none => [Char.ofNat (shifted Table.upper c.toNat)]

def lowerCharacter (c : Char) : List Char :=
  if c.toNat < 128 then [c.toLower]
  else
    match Table.lowerExpansions.lookup c.toNat with
    | some several => several.map Char.ofNat
    | none => [Char.ofNat (shifted Table.lower c.toNat)]

def toUpper (s : List Char) : List Char := s.flatMap upperCharacter

def meetsCased (s : List Char) : Bool :=
  match s.dropWhile isCaseIgnorable with
  | [] => false
  | c :: _ => isCased c

/-- The lower case of `rest`, where the characters `before` come in front of it, last one first. -/
def toLowerAfter (before : List Char) : List Char → List Char
  | [] => []
  | c :: rest =>
      let lower :=
        if c = 'Σ' then
          if meetsCased before && !meetsCased rest then ['ς'] else ['σ']
        else lowerCharacter c
      lower ++ toLowerAfter (c :: before) rest

/-- The lower case of a text; a sigma that ends a word takes its final form. -/
def toLower (s : List Char) : List Char := toLowerAfter [] s

def foldCase (c : Char) : Char :=
  if c.toNat < 128 then c.toLower else Char.ofNat (shifted Table.folded c.toNat)

def caseVariants (c : Char) : List Char :=
  let f := foldCase c
  f :: (shiftedFrom Table.folded f.toNat).map Char.ofNat

end LinkedControls.Text
