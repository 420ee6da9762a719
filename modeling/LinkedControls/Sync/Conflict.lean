import LinkedControls.Store.Basic

namespace LinkedControls

structure Competing where
  control : String
  value : Value
  time : Int
  origin : Origin
deriving DecidableEq

inductive ConflictStatus
  | pending
  | resolved
  | ignored
deriving DecidableEq, Repr

namespace ConflictStatus

def name : ConflictStatus → String
  | .pending => "pending"
  | .resolved => "resolved"
  | .ignored => "ignored"

def title : ConflictStatus → String
  | .pending => "Pending"
  | .resolved => "Resolved"
  | .ignored => "Ignored"

def names : List (String × ConflictStatus) :=
  [ConflictStatus.pending, .resolved, .ignored].map fun s => (s.name, s)

end ConflictStatus

/-- The write that counts as newest: of equal times the later one. -/
def latestOf : List Competing → Option Competing
  | [] => none
  | w :: rest => some (rest.foldl (fun best v => if best.time ≤ v.time then v else best) w)

def writeOf (writes : List Competing) (control : String) : Option Competing :=
  writes.reverse.find? (·.control == control)

structure Conflict where
  id : String
  group : String
  control : String
  values : List Competing
  status : ConflictStatus
  resolvedValue : Option Value
  resolvedAt : Option Int
  resolvedBy : Option String
deriving DecidableEq

namespace Conflict

def pending (id group control : String) (values : List Competing) : Conflict :=
  ⟨id, group, control, values, .pending, none, none, none⟩

def isPending (c : Conflict) : Bool := c.status == .pending

def latest (c : Conflict) : Option Competing := latestOf c.values

def valueFrom (c : Conflict) (control : String) : Option Competing := writeOf c.values control

def resolve (c : Conflict) (value : Value) (resolver : String) (now : Int) : Conflict :=
  if c.isPending then
    { c with
      status := .resolved
      resolvedValue := some value
      resolvedAt := some now
      resolvedBy := some resolver }
  else c

def ignore (c : Conflict) (now : Int) : Conflict :=
  if c.isPending then { c with status := .ignored, resolvedAt := some now } else c

end Conflict

end LinkedControls
