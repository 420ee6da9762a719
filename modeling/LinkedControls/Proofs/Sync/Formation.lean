import LinkedControls.Sync.Group
import Mathlib.Data.List.Nodup

/-!
What makes a definition valid. Of the seven rules the one on blank members is apart from the others,
which all operations on groups keep.
-/

namespace LinkedControls

namespace Group

variable {g : Group} {control : String}

def undated (g : Group) : Group := { g with lastSync := none }

def hasBlank (g : Group) : Bool := g.members.any Text.isBlankText

/-- A definition that keeps all rules, but for blank members. -/
structure Formed (g : Group) : Prop where
  named : Text.isBlankText g.id = false
  two_le : 2 ≤ g.members.length
  nodup : g.members.Nodup
  ruled : g.mode = .masterSlave → g.master ≠ none
  inside : ∀ m, g.master = some m → m ∈ g.members
  settled : g.policy = .masterWins → g.master ≠ none

theorem ite_some_eq_none {α : Type} {p : Prop} [Decidable p] {a : α} {o : Option α} :
    (if p then some a else o) = none ↔ ¬ p ∧ o = none := by
  by_cases hp : p
  · simp [hp]
  · simp [hp]

theorem isValid_iff : g.isValid = true ↔ g.Formed ∧ g.hasBlank = false := by
  have hfault : g.isValid = true ↔ g.fault? = none := Option.isNone_iff_eq_none
  simp only [hfault, fault?, ite_some_eq_none, Bool.not_eq_true, Nat.not_lt, not_not, not_and, and_true]
  constructor
  · rintro ⟨hid, htwo, hblank, hnodup, hruled, hinside, hsettled⟩
    refine ⟨⟨hid, htwo, hnodup, hruled, fun m hm => ?_, hsettled⟩, hblank⟩
    simpa [hm, contains] using hinside
  · rintro ⟨h, hblank⟩
    refine ⟨h.named, h.two_le, hblank, h.nodup, h.ruled, ?_, h.settled⟩
    cases hm : g.master with
    | none => rfl
    | some m => simpa [contains] using h.inside m hm

theorem two_le_of_isValid (h : g.isValid = true) : 2 ≤ g.members.length :=
  (isValid_iff.mp h).1.two_le

theorem nodup_of_isValid (h : g.isValid = true) : g.members.Nodup :=
  (isValid_iff.mp h).1.nodup

theorem Formed.fault?_eq (h : g.Formed) :
    g.fault? = if g.hasBlank then some .blankMember else none := by
  cases hblank : g.hasBlank with
  | false =>
    have hvalid := isValid_iff.mpr ⟨h, hblank⟩
    exact Option.isNone_iff_eq_none.mp hvalid
  | true =>
    have htwo : ¬ g.members.length < 2 := Nat.not_lt.mpr h.two_le
    rw [hasBlank] at hblank
    simp [fault?, h.named, htwo, hblank]

theorem Formed.join (h : g.Formed) (hnew : control ∉ g.members) :
    Formed { g with members := g.members ++ [control] } := by
  refine ⟨h.named, ?_, ?_, h.ruled, fun m hm => List.mem_append_left _ (h.inside m hm), h.settled⟩
  · rw [List.length_append]
    exact Nat.le_add_right_of_le h.two_le
  · refine List.nodup_append.mpr ⟨h.nodup, List.nodup_singleton _, ?_⟩
    rintro m hm n hn rfl
    exact hnew (List.mem_singleton.mp hn ▸ hm)

theorem hasBlank_join : hasBlank { g with members := g.members ++ [control] } =
    (g.hasBlank || Text.isBlankText control) := by
  simp [hasBlank]

end Group

end LinkedControls
