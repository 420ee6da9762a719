import LinkedControls.Sync.Coordinator

/-!
Operations on the definitions of groups. A control that joins a group leaves the one it was in, and a
group that is no longer valid without it is dissolved.
-/

namespace LinkedControls.Coordinator

def expel (c : Coordinator) (control : String) (l : LiveGroup) : Coordinator × Option Group :=
  let g := l.group.without control
  if g.isValid then
    let c := (c.cancel l).update l.id fun l => { l with group := g }
    ({ c with rules := c.rules.filter fun r => !r.touches l.id control }, some g)
  else (c.drop l, none)

def expelWrites (id : String) : Option Group → Writes
  | some g => .save g
  | none => .delete id

def detach (c : Coordinator) (control keep : String) : Coordinator × Writes :=
  (c.groups.filter fun l => l.id != keep && l.group.contains control).foldl
    (fun (c, w) l =>
      let (c, rest) := c.expel control l
      (c, w.andThen (expelWrites l.id rest)))
    (c, .none)

def detachAll (c : Coordinator) (controls : List String) (keep : String) : Coordinator × Writes :=
  controls.foldl
    (fun (c, w) control =>
      let (c, next) := c.detach control keep
      (c, w.andThen next))
    (c, .none)

def createGroup (c : Coordinator) (g : Group) : Except SyncError (Outcome Group) := do
  g.validate
  if (c.live? g.id).isSome then
    throw (.invalidGroup g.id "a group with this id already exists")
  let (c, w) := c.detachAll g.members g.id
  let c := { c with groups := install (.fresh g c.settings.historyLimit) c.groups }
  return ⟨g, c, w.andThen (.save g)⟩

/-- Replaces the definition of a group. Its window is dropped, and rules whose ends are no longer
members both. The last time of sending is kept where the new definition names none. -/
def updateGroup (c : Coordinator) (g : Group) : Except SyncError (Outcome Group) := do
  g.validate
  let l ← c.need g.id
  let (c, w) := (c.cancel l).detachAll g.members g.id
  let c := { c with
    rules := c.rules.filter fun r =>
      r.group != g.id || (g.contains r.source && g.contains r.target) }
  let c := c.update g.id fun l =>
    { l with group := { g with lastSync := g.lastSync <|> l.group.lastSync } }
  return ⟨g, c, w.andThen (.save g)⟩

def deleteGroup (c : Coordinator) (id : String) : Except SyncError (Outcome Unit) := do
  let l ← c.need id
  return ⟨(), c.drop l, .delete id⟩

def addMember (c : Coordinator) (id control : String) : Except SyncError (Outcome Group) := do
  let l ← c.need id
  if l.group.contains control then return ⟨l.group, c, .none⟩
  let (c, w) := c.detach control id
  let g := { l.group with members := l.group.members ++ [control] }
  let c := (c.cancel l).update id fun l => { l with group := g }
  return ⟨g, c, w.andThen (.save g)⟩

def removeMember (c : Coordinator) (id control : String) :
    Except SyncError (Outcome (Option Group)) := do
  let l ← c.need id
  if !l.group.contains control then throw (.notAMember id control)
  let (c, rest) := c.expel control l
  return ⟨rest, c, expelWrites id rest⟩

def setEnabled (c : Coordinator) (id : String) (enabled : Bool) :
    Except SyncError (Outcome Group) := do
  let l ← c.need id
  let c := if enabled then c else c.cancel l
  let g := { l.group with enabled := enabled }
  return ⟨g, c.update id fun l => { l with group := g }, .save g⟩

def loadGroups (c : Coordinator) (stored : List Group) : Nat × Coordinator :=
  stored.foldl
    (fun (loaded, c) g =>
      if g.isValid && !g.members.any c.owns then
        (loaded + 1, { c with groups := install (.fresh g c.settings.historyLimit) c.groups })
      else (loaded, c))
    (0, c)

def addRule (c : Coordinator) (r : Rule) : Except SyncError (Rule × Coordinator) := do
  let l ← c.need r.group
  if !l.group.contains r.source then throw (.notAMember r.group r.source)
  if !l.group.contains r.target then throw (.notAMember r.group r.target)
  if r.source = r.target then
    throw (.invalidGroup r.group "a rule needs distinct source and target controls")
  let others := c.rules.filter fun s => !s.isFor r.group r.source r.target && s.id != r.id
  return (r, { c with rules := others ++ [r] })

def removeRule (c : Coordinator) (id : String) : Except SyncError (Rule × Coordinator) :=
  match c.rules.find? (·.id == id) with
  | some r => .ok (r, { c with rules := c.rules.filter (·.id != id) })
  | none => .error (.ruleNotFound id)

def setCombinator (c : Coordinator) (id : String) (combinator : Combinator) :
    Except SyncError Coordinator := do
  let _ ← c.need id
  return { c with combinators := (id, combinator) :: c.combinators.filter (·.1 != id) }

end LinkedControls.Coordinator
