import LinkedControls.Store.Control

/-!
The store, the only place where control values change. An action either fails and leaves everything
as it was, or raises the version by one; value writes are also appended to the log of changes.
-/

namespace LinkedControls

/-- What made a change. Only a user's change starts propagation. -/
inductive Origin
  | user
  | sync
  | url
  | system
deriving DecidableEq, Repr

namespace Origin

def name : Origin → String
  | .user => "user"
  | .sync => "sync"
  | .url => "url"
  | .system => "system"

def names : List (String × Origin) :=
  [Origin.user, .sync, .url, .system].map fun o => (o.name, o)

end Origin

inductive StoreError
  | controlNotFound (id : String)
  | alreadyRegistered (id : String)
  | typeMismatch (id : String) (expected : Kind) (actual : String)
deriving DecidableEq

def StoreError.message : StoreError → String
  | .controlNotFound id => "Control not found: " ++ id
  | .alreadyRegistered id => "Control already registered: " ++ id
  | .typeMismatch id expected actual =>
      "Control " ++ id ++ " expects " ++ expected.name ++ " but got " ++ actual

structure Change where
  control : String
  before : Value
  after : Value
  origin : Origin
  version : UInt64
deriving DecidableEq

structure Store where
  controls : List Control
  version : UInt64
  log : List Change
deriving DecidableEq

def coerce (id : String) (v : Value) (k : Kind) : Except StoreError Value :=
  if v.fits k then .ok v
  else
    match Value.ofLoose v.toJson k with
    | .null => .error (.typeMismatch id k v.typeName)
    | converted => .ok converted

namespace Store

inductive Action
  | register (id : String) (kind : Kind) (value : Value)
  | write (id : String) (value : Value) (origin : Origin)
  | deregister (id : String)
  | clear
deriving DecidableEq

def empty : Store := ⟨[], 0, []⟩

instance : Inhabited Store := ⟨empty⟩

def get? (s : Store) (id : String) : Option Control := s.controls.find? (·.id == id)

def contains (s : Store) (id : String) : Bool := (s.get? id).isSome

def snapshot (s : Store) : Snapshot := ⟨s.controls, s.version⟩

def register (s : Store) (id : String) (k : Kind) (v : Value) : Except StoreError Store :=
  if s.contains id then .error (.alreadyRegistered id)
  else do
    let v ← coerce id v k
    return { s with controls := s.controls ++ [⟨id, k, v⟩], version := s.version + 1 }

def write (s : Store) (id : String) (v : Value) (origin : Origin) :
    Except StoreError (Store × Change) :=
  match s.get? id with
  | none => .error (.controlNotFound id)
  | some c => do
      let v ← coerce id v c.kind
      let change : Change := ⟨id, c.value, v, origin, s.version + 1⟩
      return (
        { controls := replaceControl { c with value := v } s.controls
          version := s.version + 1
          log := s.log ++ [change] },
        change)

def deregister (s : Store) (id : String) : Except StoreError Store :=
  if s.contains id then
    .ok { s with controls := s.controls.filter (·.id != id), version := s.version + 1 }
  else .error (.controlNotFound id)

def clear (s : Store) : Store := { s with controls := [], version := s.version + 1 }

def apply (s : Store) : Action → Except StoreError (Store × Option Change)
  | .register id k v => (s.register id k v).map (·, none)
  | .write id v origin => (s.write id v origin).map fun (s, change) => (s, some change)
  | .deregister id => (s.deregister id).map (·, none)
  | .clear => .ok (s.clear, none)

end Store

end LinkedControls
