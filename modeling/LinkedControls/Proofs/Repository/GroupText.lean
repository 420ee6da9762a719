import LinkedControls.Proofs.Json.ReadBack
import LinkedControls.Repository.File

namespace LinkedControls

open Json

theorem asList?_map {α : Type} {read : Json → Option α} {write : α → Json} {items : List α}
    (h : ∀ a ∈ items, read (write a) = some a) :
    asList? read (.array (items.map write)) = some items := by
  rw [asList?, List.mapM_map]
  induction items with
  | nil => rfl
  | cons a items ih =>
    have hrest := ih fun b hb => h b (List.mem_cons_of_mem _ hb)
    simp only [List.mapM_cons, Function.comp_apply, h a List.mem_cons_self, hrest]
    rfl

namespace Mode

theorem variant?_name (m : Mode) : variant? names (.text m.name) = some m := by
  cases m <;> rfl

end Mode

namespace Policy

theorem variant?_name (p : Policy) : variant? names (.text p.name) = some p := by
  cases p <;> rfl

end Policy

namespace Group

variable {g : Group} {gs : List Group}

def Stamped (g : Group) : Prop :=
  ∀ t ∈ g.lastSync, -0x8000000000000000 ≤ t ∧ t ≤ 0x7FFFFFFFFFFFFFFF

theorem members?_toJson (g : Group) : g.toJson.members? fieldNames =
    some [some (.text g.id), some (.text g.name), some (.texts g.members), some (.text g.mode.name),
      g.master.map .text, some (.text g.policy.name), some (.bool g.enabled),
      g.lastSync.map .ofInt] := by
  obtain ⟨id, name, members, mode, master, policy, enabled, lastSync⟩ := g
  cases master
  all_goals
    cases lastSync
    all_goals rfl

theorem optional_text (s : Option String) : Json.optional asText? (s.map .text) = some s := by
  cases s <;> rfl

theorem optional_stamp (h : g.Stamped) :
    Json.optional (asInt? (-0x8000000000000000) 0x7FFFFFFFFFFFFFFF) (g.lastSync.map .ofInt) =
      some g.lastSync := by
  cases hstamp : g.lastSync with
  | none => rfl
  | some t =>
    have ht := h t hstamp
    simp [Json.optional, withDefault, asOption?, ofInt, asInt?, ht]

theorem ofJson?_toJson (h : g.Stamped) : ofJson? g.toJson = some g := by
  have hmembers : required (asList? asText?) (some (.texts g.members)) = some g.members :=
    asList?_map fun _ _ => rfl
  rw [ofJson?, members?_toJson]
  simp only [hmembers, optional_text, optional_stamp h, withDefault, Mode.variant?_name,
    Policy.variant?_name]
  rfl

theorem legible_toJson (h : g.Stamped) (depth : Nat) : Legible (depth + 2) g.toJson := by
  refine .object fun f hf => ?_
  simp only [List.mem_append, List.mem_cons, List.not_mem_nil, or_false, Option.mem_toList,
    Option.map_eq_some_iff] at hf
  obtain (((rfl | rfl | rfl | rfl) | ⟨m, -, rfl⟩) | rfl | rfl) | ⟨t, ht, rfl⟩ := hf
  case inl.inl.inl.inr.inr.inl =>
    refine .array fun j hj => ?_
    obtain ⟨m, -, rfl⟩ := List.mem_map.mp hj
    exact .text depth m
  case inr =>
    obtain ⟨hlow, hhigh⟩ := h t ht
    exact .integer (depth + 1) ⟨hlow, by omega⟩
  all_goals constructor

end Group

namespace StoredGroups

variable {gs : List Group}

theorem ofText?_toText (h : ∀ g ∈ gs, g.Stamped) : ofText? (toText gs) = some gs := by
  have hlegible : Legible 127 (.array (gs.map Group.toJson)) := by
    refine .array fun j hj => ?_
    obtain ⟨g, hg, rfl⟩ := List.mem_map.mp hj
    exact Group.legible_toJson (h g hg) 124
  have hblank : Text.isBlankText (toText gs) = false := by
    cases gs
    all_goals simp [toText, pretty, prettyAt, Text.isBlankText, Text.isBlank]
  rw [ofText?, hblank, toText, ofText?_pretty hlegible]
  exact asList?_map fun g hg => Group.ofJson?_toJson (h g hg)

end StoredGroups

end LinkedControls
