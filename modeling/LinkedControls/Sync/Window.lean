import LinkedControls.Sync.Coordinator
import LinkedControls.Sync.Propagation

/-!
Windows: changes open them, and timers and flushes close them. When a window closes, its last write is
sent to the group, unless other members wrote something else. Then there is a conflict, and the
group's policy settles it.
-/

namespace LinkedControls.Coordinator

def handleChange (c : Coordinator) (control : String) (v : Value) (origin : Origin) (now : Int) :
    Except StoreError (Change × Coordinator) := do
  let (store, change) ← c.store.write control v origin
  let c := { c with store := store }
  if origin ≠ .user then return (change, c)
  match c.liveOf? control with
  | none => return (change, c)
  | some l =>
      if !l.group.enabled then return (change, c)
      let write : Competing := ⟨control, change.after, now, origin⟩
      let c := c.update l.id fun l =>
        { l with window := LiveGroup.gather l.window write, phase := .pendingPropagation }
      return (change, c.schedule l now)

def compete (window : List Competing) (last : Competing) : Bool :=
  2 ≤ window.length && window.any fun w => !w.value.agrees last.value

def ofWrite (w : Competing) : Option String × Value := (some w.control, w.value)

/-- The value on which a group's policy settles competing writes, with the member it is from. A
combined value is from no member, and a manual policy settles nothing. -/
def decide (g : Group) (combinator : Option Combinator) (writes : List Competing) :
    Option (Option String × Value) :=
  let latest := (latestOf writes).map ofWrite
  match g.policy with
  | .latestWins => latest
  | .masterWins => (g.master.bind (writeOf writes)).map ofWrite <|> latest
  | .manual => none
  | .merge =>
      match combinator with
      | some f => some (none, f.apply (writes.map (·.value)))
      | none => latest

def send (c : Coordinator) (l : LiveGroup) (p : Parcel) (now : Int) : Coordinator :=
  let (store, events) := propagate c.store l.group c.rules p
  let c := { c with store := store }
  c.update l.id fun l =>
    { l with
      history := l.history.record events
      group := { l.group with lastSync := some now } }

def addConflict (c : Coordinator) (l : LiveGroup) (last : Competing)
    (decision : Option (Option String × Value)) (now : Int) : Coordinator :=
  let conflict := Conflict.pending ("#" ++ toString c.nextConflict) l.id last.control l.window
  let conflict := match decision with
    | some (_, v) => conflict.resolve v l.group.policy.name now
    | none => conflict
  { c with conflicts := c.conflicts ++ [conflict], nextConflict := c.nextConflict + 1 }

def settle (c : Coordinator) (l : LiveGroup) (last : Competing) (now : Int) :
    Option (Option String × Value) × Coordinator :=
  if compete l.window last && l.group.mode.detectsConflicts then
    let decision := decide l.group (c.combinator? l.id) l.window
    (decision, c.addConflict l last decision now)
  else (some (ofWrite last), c)

def closeWindow (c : Coordinator) (id : String) (now : Int) : Coordinator × Writes :=
  match c.live? id with
  | none => (c, .none)
  | some l =>
      let c := c.update id fun l => { l with window := [], phase := .idle }
      match l.window.getLast? with
      | none => (c, .none)
      | some last =>
          match c.settle l last now with
          | (some (origin, v), c) =>
              let c := c.send l ⟨origin, last.control, v⟩ now
              (c, ⟨[], (c.group? id).toList⟩)
          | (none, c) => (c, .none)

def fire (c : Coordinator) (t : Timer) (now : Int) : Coordinator × Writes :=
  let c := c.stopTimer (some t.serial)
  match c.live? t.group with
  | none => (c, .none)
  | some l =>
      if l.generation = t.generation ∧ l.group.enabled then
        (c.update l.id fun l => { l with timer := none }).closeWindow l.id now
      else (c, .none)

def flush (c : Coordinator) (id : String) (now : Int) : Except SyncError (Outcome Unit) := do
  let l ← c.need id
  let c := (c.stopTimer l.timer).update id fun l =>
    { l with timer := none, generation := l.generation + 1 }
  if !l.group.enabled then return ⟨(), c, .none⟩
  let (c, w) := c.closeWindow id now
  return ⟨(), c, w⟩

def conflict? (c : Coordinator) (id : String) : Option Conflict :=
  c.conflicts.find? (·.id == id)

def replaceConflict (c : Coordinator) (k : Conflict) : Coordinator :=
  { c with conflicts := c.conflicts.map fun j => if j.id == k.id then k else j }

def resolveConflict (c : Coordinator) (id : String) (v : Value) (resolver : String) (now : Int) :
    Except SyncError (Conflict × Coordinator) :=
  match c.conflict? id with
  | none => .error (.conflictNotFound id)
  | some k =>
      if !k.isPending then .ok (k, c)
      else
        let k := k.resolve v resolver now
        let c := c.replaceConflict k
        match c.live? k.group with
        | none => .ok (k, c)
        | some l =>
            if l.group.enabled then
              let c := c.send l ⟨none, k.control, v⟩ now
              let phase := if l.window.isEmpty then Phase.idle else .pendingPropagation
              .ok (k, c.update l.id fun l => { l with phase := phase })
            else .ok (k, c)

def ignoreConflict (c : Coordinator) (id : String) (now : Int) :
    Except SyncError (Conflict × Coordinator) :=
  match c.conflict? id with
  | none => .error (.conflictNotFound id)
  | some k =>
      let k := k.ignore now
      .ok (k, c.replaceConflict k)

def shutdown (c : Coordinator) : Coordinator := c.groups.foldl cancel c

end LinkedControls.Coordinator
