import LinkedControls.Json.Record
import LinkedControls.Sync.Error
import LinkedControls.Text.Blank

/-!
Groups of controls whose values follow each other, and the rules that a definition has to keep.
-/

namespace LinkedControls

inductive Mode
  | bidirectional
  | masterSlave
  /-- Any member's change goes to all others, and competing changes are no conflict. -/
  | broadcast
deriving DecidableEq, Repr

namespace Mode

def name : Mode → String
  | .bidirectional => "bidirectional"
  | .masterSlave => "master_slave"
  | .broadcast => "broadcast"

def names : List (String × Mode) :=
  [Mode.bidirectional, .masterSlave, .broadcast].map fun m => (m.name, m)

def detectsConflicts : Mode → Bool
  | .broadcast => false
  | _ => true

end Mode

inductive Policy
  | latestWins
  | masterWins
  | manual
  | merge
deriving DecidableEq, Repr

namespace Policy

def name : Policy → String
  | .latestWins => "latest_wins"
  | .masterWins => "master_wins"
  | .manual => "manual"
  | .merge => "merge"

def names : List (String × Policy) :=
  [Policy.latestWins, .masterWins, .manual, .merge].map fun p => (p.name, p)

end Policy

structure Group where
  id : String
  name : String
  members : List String
  mode : Mode
  master : Option String
  policy : Policy
  enabled : Bool
  lastSync : Option Int
deriving DecidableEq, Repr

inductive GroupFault
  | blankId
  | tooFewMembers
  | blankMember
  | repeatedMember
  | masterMissing
  | masterOutside
  | winningMasterMissing
deriving DecidableEq, Repr

def GroupFault.message : GroupFault → String
  | .blankId => "group id must not be empty"
  | .tooFewMembers => "a sync group needs at least two members"
  | .blankMember => "member ids must not be empty"
  | .repeatedMember => "member ids must be unique"
  | .masterMissing => "master_slave mode requires a master control"
  | .masterOutside => "master control must be a member of the group"
  | .winningMasterMissing => "master_wins policy requires a master control"

namespace Group

instance : Inhabited Group := ⟨⟨"", "", [], .bidirectional, none, .latestWins, true, none⟩⟩

def contains (g : Group) (control : String) : Bool := g.members.contains control

def isMaster (g : Group) (control : String) : Bool := g.master == some control

def others (g : Group) (control : String) : List String := g.members.filter (· != control)

def fault? (g : Group) : Option GroupFault :=
  if Text.isBlankText g.id then some .blankId
  else if g.members.length < 2 then some .tooFewMembers
  else if g.members.any Text.isBlankText then some .blankMember
  else if ¬ g.members.Nodup then some .repeatedMember
  else if g.mode = .masterSlave ∧ g.master = none then some .masterMissing
  else if g.master.any fun m => !g.contains m then some .masterOutside
  else if g.policy = .masterWins ∧ g.master = none then some .winningMasterMissing
  else none

def isValid (g : Group) : Bool := g.fault?.isNone

def validate (g : Group) : Except SyncError Unit :=
  match g.fault? with
  | some fault => .error (.invalidGroup g.id fault.message)
  | none => .ok ()

/-- The group without a member; a master that leaves is not replaced. -/
def without (g : Group) (control : String) : Group :=
  { g with
    members := g.others control
    master := if g.isMaster control then none else g.master }

def toJson (g : Group) : Json :=
  .object (
    [("id", .text g.id), ("name", .text g.name), ("members", .texts g.members),
      ("mode", .text g.mode.name)] ++
    (g.master.map fun m => ("master_id", Json.text m)).toList ++
    [("conflict_policy", .text g.policy.name), ("enabled", .bool g.enabled)] ++
    (g.lastSync.map fun t => ("last_sync_at", Json.ofInt t)).toList)

def fieldNames : List String :=
  ["id", "name", "members", "mode", "master_id", "conflict_policy", "enabled", "last_sync_at"]

open Json in
def ofJson? (j : Json) : Option Group :=
  match j.members? fieldNames with
  | some [id, name, members, mode, master, policy, enabled, lastSync] => do
      return {
        id := ← required asText? id
        name := ← required asText? name
        members := ← required (asList? asText?) members
        mode := ← withDefault .bidirectional (variant? Mode.names) mode
        master := ← optional asText? master
        policy := ← withDefault .latestWins (variant? Policy.names) policy
        enabled := ← withDefault true asBool? enabled
        lastSync := ← optional (asInt? (-0x8000000000000000) 0x7FFFFFFFFFFFFFFF) lastSync }
  | _ => none

end Group

end LinkedControls
