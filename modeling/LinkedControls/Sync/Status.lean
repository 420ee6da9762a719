import LinkedControls.Sync.Coordinator

namespace LinkedControls

structure GroupStatus where
  group : String
  enabled : Bool
  phase : Phase
  pendingConflicts : Nat
  lastSync : Option Int
  historyLength : Nat
deriving DecidableEq, Repr

namespace GroupStatus

def stateName (s : GroupStatus) : String := if s.enabled then "active" else "paused"

end GroupStatus

namespace Coordinator

def status (c : Coordinator) (id : String) : Except SyncError GroupStatus := do
  let l ← c.need id
  return {
    group := id
    enabled := l.group.enabled
    phase := l.phase
    pendingConflicts := c.pendingConflicts id
    lastSync := l.group.lastSync
    historyLength := l.history.events.length }

def history (c : Coordinator) (id : String) (limit : Option Nat) : Except SyncError (List Event) := do
  let l ← c.need id
  return l.history.recent limit

end Coordinator

end LinkedControls
