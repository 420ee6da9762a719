import LinkedControls.Pattern.CharSet

/-!
The names of character properties in patterns. Letter case, blanks, dashes and underscores do not
count in them, nor does a leading `is`.
-/

namespace LinkedControls.CharSet

open Text

def normalName (s : List Char) : String :=
  let word := (asciiLower s).filter fun c => !(c == ' ' || c == '_' || c == '-')
  String.ofList <|
    match word with
    | ['i', 's', 'c'] => word
    | 'i' :: 's' :: rest => rest
    | _ => word

def categoryNames : List (List String × List Category) := [
  (["l", "letter"], Category.letters),
  (["lc", "casedletter"], Category.casedLetters),
  (["lu", "uppercaseletter"], [.uppercaseLetter]),
  (["ll", "lowercaseletter"], [.lowercaseLetter]),
  (["lt", "titlecaseletter"], [.titlecaseLetter]),
  (["lm", "modifierletter"], [.modifierLetter]),
  (["lo", "otherletter"], [.otherLetter]),
  (["m", "mark", "combiningmark"], Category.marks),
  (["mn", "nonspacingmark"], [.nonspacingMark]),
  (["mc", "spacingmark"], [.spacingMark]),
  (["me", "enclosingmark"], [.enclosingMark]),
  (["n", "number"], Category.numbers),
  (["nd", "decimalnumber", "digit"], [.decimalNumber]),
  (["nl", "letternumber"], [.letterNumber]),
  (["no", "othernumber"], [.otherNumber]),
  (["p", "punctuation", "punct"], Category.punctuation),
  (["pc", "connectorpunctuation"], [.connectorPunctuation]),
  (["pd", "dashpunctuation"], [.dashPunctuation]),
  (["ps", "openpunctuation"], [.openPunctuation]),
  (["pe", "closepunctuation"], [.closePunctuation]),
  (["pi", "initialpunctuation"], [.initialPunctuation]),
  (["pf", "finalpunctuation"], [.finalPunctuation]),
  (["po", "otherpunctuation"], [.otherPunctuation]),
  (["s", "symbol"], Category.symbols),
  (["sm", "mathsymbol"], [.mathSymbol]),
  (["sc", "currencysymbol"], [.currencySymbol]),
  (["sk", "modifiersymbol"], [.modifierSymbol]),
  (["so", "othersymbol"], [.otherSymbol]),
  (["z", "separator"], Category.separators),
  (["zs", "spaceseparator"], [.spaceSeparator]),
  (["zl", "lineseparator"], [.lineSeparator]),
  (["zp", "paragraphseparator"], [.paragraphSeparator]),
  (["c", "other"], Category.others),
  (["cc", "control", "cntrl"], [.control]),
  (["cf", "format"], [.format]),
  (["co", "privateuse"], [.privateUse]),
  (["cn", "unassigned"], [.unassigned]),
  (["assigned"], Category.assigned)]

def scriptNames : List (List String × List Span) := [
  (["latin", "latn"], Table.latin), (["greek", "grek"], Table.greek),
  (["cyrillic", "cyrl"], Table.cyrillic), (["armenian", "armn"], Table.armenian),
  (["hebrew", "hebr"], Table.hebrew), (["arabic", "arab"], Table.arabic),
  (["devanagari", "deva"], Table.devanagari), (["bengali", "beng"], Table.bengali),
  (["thai"], Table.thai), (["georgian", "geor"], Table.georgian),
  (["hangul", "hang"], Table.hangul), (["hiragana", "hira"], Table.hiragana),
  (["katakana", "kana"], Table.katakana), (["han", "hani"], Table.han)]

def asciiHex : CharSet := unions [asciiDigit, between 'a' 'f', between 'A' 'F']

def binaryNames : List (List String × CharSet) := [
  (["any"], all), (["ascii"], .span 0 127), (["alphabetic", "alpha"], .alphabetic),
  (["lowercase", "lower"], .lowercase), (["uppercase", "upper"], .uppercase),
  (["whitespace", "wspace", "space"], .blank),
  (["asciihexdigit", "ahex"], asciiHex)]

def lookupName {α : Type} (table : List (List String × α)) (name : String) : Option α :=
  (table.find? fun entry => entry.1.contains name).map (·.2)

def ofCategory? (name : String) : Option CharSet :=
  (lookupName categoryNames name).map .category

def ofScript? (name : String) : Option CharSet := (lookupName scriptNames name).map .spans

def ofName? (s : List Char) : Option CharSet :=
  let name := normalName s
  lookupName binaryNames name <|> ofCategory? name <|> ofScript? name

def ofNameAndValue? (property value : List Char) : Option CharSet :=
  let property := normalName property
  let value := normalName value
  if property = "gc" ∨ property = "generalcategory" then
    if value = "any" then some all else ofCategory? value
  else if property = "sc" ∨ property = "script" then ofScript? value
  else none

def asciiClass? (name : String) : Option CharSet :=
  let letters := union (between 'a' 'z') (between 'A' 'Z')
  match name with
  | "alnum" => some (union letters asciiDigit)
  | "alpha" => some letters
  | "ascii" => some (.span 0 127)
  | "blank" => some (ofChars [' ', '\t'])
  | "cntrl" => some (.union (.span 0 31) (.span 127 127))
  | "digit" => some asciiDigit
  | "graph" => some (.span 33 126)
  | "lower" => some (between 'a' 'z')
  | "print" => some (.span 32 126)
  | "punct" => some (unions [.span 33 47, .span 58 64, .span 91 96, .span 123 126])
  | "space" => some asciiBlank
  | "upper" => some (between 'A' 'Z')
  | "word" => some asciiWord
  | "xdigit" => some asciiHex
  | _ => none

end LinkedControls.CharSet
