import LinkedControls.Sync.Group
import LinkedControls.Sync.History
import LinkedControls.Sync.Merge
import LinkedControls.Sync.Rule

/-!
The coordinator of groups. User changes of a group's members are gathered in a window, and a timer
closes the window when no change has come for some time.
-/

namespace LinkedControls

/-- The settings of a coordinator: how long a window stays open after a change, in milliseconds, and
how many events a group's history keeps. -/
structure SyncSettings where
  debounce : Nat
  historyLimit : Nat
deriving DecidableEq, Repr

def SyncSettings.default : SyncSettings := ⟨300, 100⟩

inductive Phase
  | idle
  | pendingPropagation
deriving DecidableEq, Repr

def Phase.name : Phase → String
  | .idle => "idle"
  | .pendingPropagation => "pending_propagation"

structure LiveGroup where
  group : Group
  history : History
  phase : Phase
  /-- The last write of each member since the window opened, ordered by time. -/
  window : List Competing
  timer : Option Nat
  /-- Raised whenever a running timer loses its meaning. -/
  generation : UInt64
deriving DecidableEq

namespace LiveGroup

def id (l : LiveGroup) : String := l.group.id

def fresh (g : Group) (historyLimit : Nat) : LiveGroup :=
  ⟨g, .empty historyLimit, .idle, [], none, 0⟩

def reset (l : LiveGroup) : LiveGroup :=
  { l with timer := none, generation := l.generation + 1, window := [], phase := .idle }

def gather (window : List Competing) (w : Competing) : List Competing :=
  window.filter (·.control != w.control) ++ [w]

end LiveGroup

/-- A running timer. It acts only if its group still has the generation it was started with. -/
structure Timer where
  serial : Nat
  group : String
  generation : UInt64
  due : Int
deriving DecidableEq

structure Coordinator where
  settings : SyncSettings
  store : Store
  groups : List LiveGroup
  rules : List Rule
  conflicts : List Conflict
  combinators : List (String × Combinator)
  timers : List Timer
  nextTimer : Nat
  nextConflict : Nat
deriving DecidableEq

/-- What is to be done in the repository: the deletions first, then the saves. -/
structure Writes where
  deletes : List String
  saves : List Group
deriving DecidableEq

namespace Writes

def none : Writes := ⟨[], []⟩

def save (g : Group) : Writes := ⟨[], [g]⟩

def delete (id : String) : Writes := ⟨[id], []⟩

def andThen (w next : Writes) : Writes :=
  ⟨w.deletes ++ next.deletes, w.saves.filter (fun g => !next.deletes.contains g.id) ++ next.saves⟩

end Writes

structure Outcome (α : Type) where
  answer : α
  next : Coordinator
  writes : Writes

namespace Coordinator

def start (settings : SyncSettings) (store : Store) (nextConflict : Nat) : Coordinator :=
  ⟨settings, store, [], [], [], [], [], 0, nextConflict⟩

def live? (c : Coordinator) (id : String) : Option LiveGroup := c.groups.find? (·.id == id)

def group? (c : Coordinator) (id : String) : Option Group := (c.live? id).map (·.group)

def liveOf? (c : Coordinator) (control : String) : Option LiveGroup :=
  c.groups.find? (·.group.contains control)

def groupOf? (c : Coordinator) (control : String) : Option Group :=
  (c.liveOf? control).map (·.group)

def owns (c : Coordinator) (control : String) : Bool := (c.liveOf? control).isSome

def update (c : Coordinator) (id : String) (f : LiveGroup → LiveGroup) : Coordinator :=
  { c with groups := c.groups.map fun l => if l.id == id then f l else l }

def install (l : LiveGroup) : List LiveGroup → List LiveGroup
  | [] => [l]
  | k :: rest => if k.id == l.id then l :: rest else k :: install l rest

def stopTimer (c : Coordinator) (timer : Option Nat) : Coordinator :=
  { c with timers := c.timers.filter fun t => some t.serial != timer }

def cancel (c : Coordinator) (l : LiveGroup) : Coordinator :=
  (c.stopTimer l.timer).update l.id LiveGroup.reset

def schedule (c : Coordinator) (l : LiveGroup) (now : Int) : Coordinator :=
  let generation := l.generation + 1
  let serial := c.nextTimer
  let timer : Timer := ⟨serial, l.id, generation, now + c.settings.debounce⟩
  let c := (c.stopTimer l.timer).update l.id fun l =>
    { l with timer := some serial, generation := generation }
  { c with timers := c.timers ++ [timer], nextTimer := serial + 1 }

def drop (c : Coordinator) (l : LiveGroup) : Coordinator :=
  let c := c.stopTimer l.timer
  { c with
    groups := c.groups.filter (·.id != l.id)
    rules := c.rules.filter (·.group != l.id)
    conflicts := c.conflicts.filter (·.group != l.id)
    combinators := c.combinators.filter (·.1 != l.id) }

def sortedGroups (c : Coordinator) : List Group :=
  (c.groups.map (·.group)).mergeSort fun g h =>
    g.name < h.name || (g.name == h.name && g.id ≤ h.id)

def rulesOf (c : Coordinator) (id : String) : List Rule :=
  (c.rules.filter (·.group == id)).mergeSort fun r s =>
    r.source < s.source || (r.source == s.source && r.target ≤ s.target)

def conflictsWith (c : Coordinator) (group : Option String) (status : Option ConflictStatus) :
    List Conflict :=
  c.conflicts.filter fun k => group.all (k.group == ·) && status.all (k.status == ·)

def pendingConflicts (c : Coordinator) (group : String) : Nat :=
  (c.conflictsWith (some group) (some .pending)).length

def combinator? (c : Coordinator) (id : String) : Option Combinator := c.combinators.lookup id

def need (c : Coordinator) (id : String) : Except SyncError LiveGroup :=
  match c.live? id with
  | some l => .ok l
  | none => .error (.groupNotFound id)

end Coordinator

end LinkedControls
