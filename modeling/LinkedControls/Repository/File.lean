import LinkedControls.Files.Tree
import LinkedControls.Json.Printer
import LinkedControls.Json.Reader
import LinkedControls.Repository.Basic

/-!
A repository in one file, which holds the groups as a JSON array. A missing or blank file holds no
groups.
-/

namespace LinkedControls

namespace StoredGroups

def toText (gs : List Group) : String := (Json.array (gs.map Group.toJson)).pretty

def ofText? (s : String) : Option (List Group) :=
  if Text.isBlankText s then some [] else (Json.ofText? s).bind (Json.asList? Group.ofJson?)

end StoredGroups

structure FileRepository where
  path : String
deriving DecidableEq, Repr

namespace FileRepository

def storageError {α : Type} (result : Except FileError α) : Except RepositoryError α :=
  result.mapError fun e => .storage e.message

def list (r : FileRepository) (t : FileTree) : Except RepositoryError (List Group) :=
  match t.read r.path with
  | .error .notFound => .ok []
  | .error e => .error (.storage e.message)
  | .ok content =>
      match StoredGroups.ofText? content with
      | some gs => .ok gs
      | none => .error (.serialization "the file does not hold groups")

def get? (r : FileRepository) (t : FileTree) (id : String) :
    Except RepositoryError (Option Group) := do
  return StoredGroups.find? (← r.list t) id

def store (r : FileRepository) (t : FileTree) (gs : List Group) :
    Except RepositoryError Unit × FileTree :=
  match t.makeParents r.path with
  | .error e => (.error (.storage e.message), t)
  | .ok t =>
      let (result, t) := t.replace r.path (StoredGroups.toText (StoredGroups.sort gs))
      (storageError result, t)

def save (r : FileRepository) (t : FileTree) (g : Group) :
    Except RepositoryError Unit × FileTree :=
  match r.list t with
  | .error e => (.error e, t)
  | .ok gs => r.store t (StoredGroups.put g gs)

def delete (r : FileRepository) (t : FileTree) (id : String) :
    Except RepositoryError Bool × FileTree :=
  match r.list t with
  | .error e => (.error e, t)
  | .ok gs =>
      if StoredGroups.holds gs id then
        let (result, t) := r.store t (StoredGroups.without gs id)
        (result.map fun _ => true, t)
      else (.ok false, t)

end FileRepository

end LinkedControls
