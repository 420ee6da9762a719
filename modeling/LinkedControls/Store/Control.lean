import LinkedControls.Value.Loose

/-!
Controls with their values, and snapshots of all of them.
-/

namespace LinkedControls

structure Control where
  id : String
  kind : Kind
  value : Value
deriving DecidableEq

def Control.isActive (c : Control) : Bool := c.value.isActive

structure Snapshot where
  controls : List Control
  version : UInt64
deriving DecidableEq

def replaceControl (c : Control) : List Control → List Control
  | [] => [c]
  | d :: rest => if d.id = c.id then c :: rest else d :: replaceControl c rest

namespace Snapshot

/-- A snapshot of given controls; of equal ids the last one counts. -/
def ofControls (cs : List Control) : Snapshot :=
  ⟨cs.foldl (fun kept c => replaceControl c kept) [], 0⟩

def get? (s : Snapshot) (id : String) : Option Control := s.controls.find? (·.id == id)

def value? (s : Snapshot) (id : String) : Option Value := (s.get? id).map (·.value)

def kind? (s : Snapshot) (id : String) : Option Kind := (s.get? id).map (·.kind)

def active (s : Snapshot) : List Control := s.controls.filter (·.isActive)

def sorted (s : Snapshot) : List Control := s.controls.mergeSort fun c d => c.id ≤ d.id

def kinds (s : Snapshot) : List (String × Kind) := s.controls.map fun c => (c.id, c.kind)

end Snapshot

end LinkedControls
