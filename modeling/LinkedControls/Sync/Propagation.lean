import LinkedControls.Sync.History
import LinkedControls.Sync.Group
import LinkedControls.Sync.Rule

/-!
Sending a value to the members of a group. Every attempt is recorded, whether the target took the
value or not.
-/

namespace LinkedControls

structure Parcel where
  /-- The member that the value is from; it does not receive it. Without one all members do. -/
  origin : Option String
  /-- The member whose rules apply. -/
  ruleSource : String
  value : Value
deriving DecidableEq

namespace Parcel

def source (p : Parcel) : String := p.origin.getD p.ruleSource

def targets (p : Parcel) (g : Group) : List String :=
  g.members.filter fun m => some m != p.origin

def isHeldBack (p : Parcel) (g : Group) : Bool :=
  g.mode == .masterSlave && p.origin.any fun m => !g.isMaster m

def outgoing (p : Parcel) (g : Group) (rules : List Rule) (target : String) :
    Except String Value :=
  match rules.find? (·.governs g.id p.ruleSource target) with
  | none => .ok p.value
  | some r =>
      match r.transform.apply p.value with
      | some v => .ok v
      | none =>
          .error ("transform " ++ r.transform.describe ++ " does not apply to a " ++
            p.value.typeName ++ " value")

end Parcel

def Store.valueOf (s : Store) (id : String) : Value :=
  match s.get? id with
  | some c => c.value
  | none => .null

def deliver (g : Group) (rules : List Rule) (p : Parcel) (s : Store) (target : String) :
    Store × Event :=
  match p.outgoing g rules target with
  | .error reason => (s, .skipped g.id p.source target (s.valueOf target) p.value reason)
  | .ok v =>
      match s.write target v .sync with
      | .ok (s, change) => (s, .applied g.id p.source target change.before change.after)
      | .error e => (s, .skipped g.id p.source target (s.valueOf target) v e.message)

def deliverAll (g : Group) (rules : List Rule) (p : Parcel) (s : Store) :
    List String → Store × List Event
  | [] => (s, [])
  | target :: rest =>
      let (s, e) := deliver g rules p s target
      let (s, es) := deliverAll g rules p s rest
      (s, e :: es)

def holdBack (g : Group) (p : Parcel) (s : Store) (target : String) : Event :=
  { Event.skipped g.id p.source target (s.valueOf target) p.value
      "only the master control propagates in master_slave mode" with
    origin := .user }

def propagate (s : Store) (g : Group) (rules : List Rule) (p : Parcel) : Store × List Event :=
  if p.isHeldBack g then (s, (p.targets g).map (holdBack g p s))
  else deliverAll g rules p s (p.targets g)

end LinkedControls
