import LinkedControls.Text.Split

/-!
Paths as texts with slashes. A path is shown as it was given, so the functions here take it apart only
where they have to.
-/

namespace LinkedControls.Path

def pieces (p : String) : List String :=
  (Text.splitOn '/' p.toList).map String.ofList

def isAbsolute (p : String) : Bool := p.toList.head? == some '/'

/-- The names of a path: empty pieces do not count, and a dot counts only as the first piece. -/
def names (p : String) : List String :=
  match pieces p with
  | [] => []
  | first :: rest =>
      (if first = "" then [] else [first]) ++ rest.filter fun n => n != "" && n != "."

def ofNames (absolute : Bool) (ns : List String) : String :=
  (if absolute then "/" else "") ++ "/".intercalate ns

def parent? (p : String) : Option String :=
  match names p with
  | [] => none
  | ns => some (ofNames (isAbsolute p) ns.dropLast)

def fileName? (p : String) : Option String :=
  (names p).getLast?.filter fun n => n != "." && n != ".."

def stem (name : String) : String :=
  let tail := name.toList.reverse.dropWhile (· != '.')
  match tail with
  | _ :: c :: rest => String.ofList (c :: rest).reverse
  | _ => name

def withEnding (p ending : String) : String :=
  match fileName? p with
  | none => p
  | some name =>
      ofNames (isAbsolute p) ((names p).dropLast ++ [stem name ++ "." ++ ending])

def join (p name : String) : String :=
  match p.toList.getLast? with
  | none => name
  | some c => if c = '/' then p ++ name else p ++ "/" ++ name

end LinkedControls.Path
