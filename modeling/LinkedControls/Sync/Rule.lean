import LinkedControls.Transform

/-!
Rules that transform what one member of a group sends to another one.
-/

namespace LinkedControls

structure Rule where
  id : String
  group : String
  source : String
  target : String
  transform : Transform
  enabled : Bool
deriving DecidableEq

namespace Rule

def isFor (r : Rule) (group source target : String) : Bool :=
  r.group == group && r.source == source && r.target == target

def governs (r : Rule) (group source target : String) : Bool :=
  r.enabled && r.isFor group source target

def touches (r : Rule) (group control : String) : Bool :=
  r.group == group && (r.source == control || r.target == control)

open Json in
def ofJson? (j : Json) : Option Rule :=
  match j.members? ["id", "group_id", "source_id", "target_id", "transform", "enabled"] with
  | some [id, group, source, target, transform, enabled] => do
      return {
        id := ← required asText? id
        group := ← required asText? group
        source := ← required asText? source
        target := ← required asText? target
        transform := ← withDefault .identity Transform.ofJson? transform
        enabled := ← withDefault true asBool? enabled }
  | _ => none

end Rule

end LinkedControls
