import LinkedControls.Store.Declaration
import LinkedControls.Sync.Session

/-!
Scripts: controls, groups, rules and combinators, and then steps with pauses between them. A replay
ends when all windows have closed.
-/

namespace LinkedControls

structure RuleSpec where
  group : String
  source : String
  target : String
  transform : Transform
deriving DecidableEq

inductive ScriptAction
  | change (control : String) (value : Json) (origin : Origin)
  /-- Resolves the oldest pending conflict of a group. -/
  | resolve (group : String) (value : Json)

structure ScriptStep where
  pause : Nat
  action : ScriptAction

structure Script where
  controls : List Declaration
  groups : List Group
  rules : List RuleSpec
  combinators : List (String × String)
  steps : List ScriptStep

open Json in
def RuleSpec.ofJson? (j : Json) : Option RuleSpec :=
  match j.members? ["group_id", "source_id", "target_id", "transform"] with
  | some [group, source, target, transform] => do
      return {
        group := ← required asText? group
        source := ← required asText? source
        target := ← required asText? target
        transform := ← withDefault .identity Transform.ofJson? transform }
  | _ => none

namespace ScriptStep

def pauseLimit : Nat := 0xFFFFFFFFFFFFFFFF

open Json in
def changeOfJson? (j : Json) : Option ScriptStep :=
  match j.members? ["wait_ms", "control", "value", "source"] with
  | some [pause, control, value, source] => do
      let control ← required asText? control
      let value ← value
      let origin ← withDefault .user (variant? Origin.names) source
      return ⟨← withDefault 0 (asNat? pauseLimit) pause, .change control value.settle origin⟩
  | _ => none

open Json in
def resolveOfJson? (j : Json) : Option ScriptStep :=
  match j.members? ["wait_ms", "resolve", "value"] with
  | some [pause, group, value] => do
      let group ← required asText? group
      let value ← value
      return ⟨← withDefault 0 (asNat? pauseLimit) pause, .resolve group value.settle⟩
  | _ => none

/-- A step is a change if it can be read as one, and otherwise it has to resolve something. -/
def ofJson? : Json → Option ScriptStep
  | .object fields => changeOfJson? (.object fields) <|> resolveOfJson? (.object fields)
  | _ => none

end ScriptStep

def textFields? : Json → Option (List (String × String))
  | .object fields =>
      (Json.sortFields fields).mapM fun (k, j) => j.asText?.map fun s => (k, s)
  | _ => none

open Json in
def Script.ofJson? (j : Json) : Option Script :=
  match j.members? ["controls", "groups", "rules", "merge", "steps"] with
  | some [controls, groups, rules, merge, steps] => do
      return {
        controls := ← required (asList? Declaration.ofJson?) controls
        groups := ← required (asList? Group.ofJson?) groups
        rules := ← withDefault [] (asList? RuleSpec.ofJson?) rules
        combinators := ← withDefault [] textFields? merge
        steps := ← required (asList? ScriptStep.ofJson?) steps }
  | _ => none

inductive ScriptError
  | store (e : StoreError)
  | sync (e : SyncError)
  | unknownCombinator (name : String)
  | unknownControl (id : String)
  | noPendingConflict (group : String)
deriving DecidableEq

def ScriptError.message : ScriptError → String
  | .store e => e.message
  | .sync e => e.message
  | .unknownCombinator name => "Unknown merge combinator: " ++ name
  | .unknownControl id => "Unknown control: " ++ id
  | .noPendingConflict group => "No pending conflict in group " ++ group

namespace Script

def lift {ε α : Type} (wrap : ε → ScriptError) :
    Except ε α × Session → Except ScriptError (α × Session)
  | (.ok a, s) => .ok (a, s)
  | (.error e, _) => .error (wrap e)

def addGroup (s : Session) (g : Group) : Except ScriptError Session := do
  let (_, s) ← lift .sync (s.run (·.createGroup g))
  return s

def addRule (s : Session) (entry : RuleSpec × Nat) : Except ScriptError Session := do
  let (spec, place) := entry
  let rule : Rule := ⟨toString place, spec.group, spec.source, spec.target, spec.transform, true⟩
  let (_, s) ← lift .sync (s.act (·.addRule rule))
  return s

def addCombinator (s : Session) (entry : String × String) : Except ScriptError Session :=
  match Combinator.named? entry.2 with
  | none => .error (.unknownCombinator entry.2)
  | some f => do
      let (_, s) ← lift .sync (s.act fun c => (c.setCombinator entry.1 f).map ((), ·))
      return s

def step (kinds : List (String × Kind)) (s : Session) (t : ScriptStep) :
    Except ScriptError Session := do
  let s := s.wait t.pause
  match t.action with
  | .change control value origin =>
      match kinds.lookup control with
      | none => throw (.unknownControl control)
      | some k =>
          let v := Value.ofLoose value k
          let (_, s) ← lift .store (s.act (·.handleChange control v origin s.now))
          return s
  | .resolve group value =>
      match (s.coordinator.conflictsWith (some group) (some .pending)).head? with
      | none => throw (.noPendingConflict group)
      | some k =>
          let v := match kinds.lookup k.control with
            | some kind => Value.ofLoose value kind
            | none => .null
          let (_, s) ← lift .sync (s.act (·.resolveConflict k.id v "script" s.now))
          return s

/-- The pause at the end, beyond the time that a window stays open. -/
def closingPause : Nat := 50

def replay (script : Script) (settings : SyncSettings) (now : Int) :
    Except ScriptError Session := do
  let store ← (Store.ofDeclarations script.controls).mapError .store
  let s := Session.start settings store now
  let s ← script.groups.foldlM addGroup s
  let s ← script.rules.zipIdx.foldlM addRule s
  let s ← script.combinators.foldlM addCombinator s
  let s ← script.steps.foldlM (step (script.controls.map fun d => (d.id, d.kind))) s
  return s.wait (settings.debounce + closingPause)

end Script

end LinkedControls
