import LinkedControls.Files.Path

/-!
A tree of folders and text files, and the operations on it that may fail.
-/

namespace LinkedControls

inductive FileError
  | notFound
  | alreadyExists
  | notAFolder
  | isAFolder
deriving DecidableEq, Repr

def FileError.message : FileError → String
  | .notFound => "No such file or directory (os error 2)"
  | .alreadyExists => "File exists (os error 17)"
  | .notAFolder => "Not a directory (os error 20)"
  | .isAFolder => "Is a directory (os error 21)"

abbrev Location := List String

inductive FileNode
  | folder
  | file (content : String)
deriving DecidableEq, Repr

structure FileTree where
  nodes : List (Location × FileNode)
deriving DecidableEq, Repr

namespace FileTree

def here : Location := ["here"]

def empty : FileTree := ⟨[(here, .folder)]⟩

instance : Inhabited FileTree := ⟨empty⟩

def node? (t : FileTree) : Location → Option FileNode
  | [] => some .folder
  | l => t.nodes.lookup l

def put (t : FileTree) (l : Location) (n : FileNode) : FileTree :=
  ⟨t.nodes.filter (·.1 != l) ++ [(l, n)]⟩

def remove (t : FileTree) (l : Location) : FileTree := ⟨t.nodes.filter (·.1 != l)⟩

def follow (t : FileTree) : List String → Location → Except FileError Location
  | [], l => .ok l
  | p :: rest, l =>
      match t.node? l with
      | none => .error .notFound
      | some (.file _) => .error .notAFolder
      | some .folder =>
          if p = "" ∨ p = "." then t.follow rest l
          else if p = ".." then t.follow rest l.dropLast
          else t.follow rest (l ++ [p])

def locate (t : FileTree) (path : String) : Except FileError Location :=
  if path = "" then .error .notFound
  else t.follow (Path.pieces path) (if Path.isAbsolute path then [] else here)

def at? (t : FileTree) (path : String) : Except FileError FileNode := do
  match t.node? (← t.locate path) with
  | some n => return n
  | none => throw .notFound

def contains (t : FileTree) (path : String) : Bool := (t.at? path).isOk

def isFolder (t : FileTree) (path : String) : Bool :=
  match t.at? path with
  | .ok .folder => true
  | _ => false

def read (t : FileTree) (path : String) : Except FileError String := do
  match ← t.at? path with
  | .file content => return content
  | .folder => throw .isAFolder

def write (t : FileTree) (path content : String) : Except FileError FileTree := do
  let l ← t.locate path
  match t.node? l with
  | some .folder => throw .isAFolder
  | _ => return t.put l (.file content)

def rename (t : FileTree) (source target : String) : Except FileError FileTree := do
  let content ← t.read source
  let origin ← t.locate source
  let goal ← t.locate target
  match t.node? goal with
  | some .folder => throw .isAFolder
  | _ => return (t.remove origin).put goal (.file content)

def trimSlashes (path : String) : String :=
  match (path.toList.reverse.dropWhile (· == '/')).reverse with
  | [] => path
  | cs => String.ofList cs

def makeFolder (t : FileTree) (path : String) : Except FileError FileTree := do
  let l ← t.locate (trimSlashes path)
  match t.node? l with
  | some _ => throw .alreadyExists
  | none => return t.put l .folder

def makeFoldersUp : Nat → FileTree → String → Except FileError FileTree
  | 0, t, _ => .ok t
  | fuel + 1, t, path =>
      if path = "" then .ok t
      else
        match t.makeFolder path with
        | .ok t => .ok t
        | .error .notFound =>
            match Path.parent? path with
            | none => .error .notFound
            | some parent => do
                let t ← makeFoldersUp fuel t parent
                if t.isFolder path then return t else t.makeFolder path
        | .error e => if t.isFolder path then .ok t else .error e

def makeFolders (t : FileTree) (path : String) : Except FileError FileTree :=
  makeFoldersUp ((Path.pieces path).length + 1) t path

def makeParents (t : FileTree) (path : String) : Except FileError FileTree :=
  t.makeFolders ((Path.parent? path).getD "")

/-- Replaces a file by way of a neighbour, so that it never holds half of a text. When the neighbour
cannot take the place of the file, it stays. -/
def replace (t : FileTree) (path content : String) : Except FileError Unit × FileTree :=
  let draft := Path.withEnding path "json.tmp"
  match t.write draft content with
  | .error e => (.error e, t)
  | .ok t =>
      match t.rename draft path with
      | .error e => (.error e, t)
      | .ok t => (.ok (), t)

end FileTree

end LinkedControls
