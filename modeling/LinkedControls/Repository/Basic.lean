import LinkedControls.Sync.Group

/-!
Stored definitions of groups. All repositories keep a list and change it in the same way.
-/

namespace LinkedControls

inductive RepositoryError
  | storage (message : String)
  | serialization (message : String)
deriving DecidableEq, Repr

def RepositoryError.message : RepositoryError → String
  | .storage message => "Storage error: " ++ message
  | .serialization message => "Serialization error: " ++ message

def RepositoryError.toSyncError (e : RepositoryError) : SyncError := .repository e.message

namespace StoredGroups

def put (g : Group) : List Group → List Group
  | [] => [g]
  | h :: rest => if h.id = g.id then g :: rest else h :: put g rest

def sort (gs : List Group) : List Group := gs.mergeSort fun g h => g.id ≤ h.id

def save (gs : List Group) (g : Group) : List Group := sort (put g gs)

def find? (gs : List Group) (id : String) : Option Group := gs.find? (·.id == id)

def without (gs : List Group) (id : String) : List Group := gs.filter (·.id != id)

def holds (gs : List Group) (id : String) : Bool := gs.any (·.id == id)

end StoredGroups

structure Repository where
  groups : List Group
deriving DecidableEq, Repr

namespace Repository

def empty : Repository := ⟨[]⟩

def save (r : Repository) (g : Group) : Repository := ⟨StoredGroups.save r.groups g⟩

def get? (r : Repository) (id : String) : Option Group := StoredGroups.find? r.groups id

def delete (r : Repository) (id : String) : Bool × Repository :=
  (StoredGroups.holds r.groups id, ⟨StoredGroups.without r.groups id⟩)

end Repository

end LinkedControls
