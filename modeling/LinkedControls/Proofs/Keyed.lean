import Mathlib.Data.List.Find
import Mathlib.Data.List.Nodup
import Mathlib.Data.List.Perm.Basic

/-!
Lists whose items have keys of their own. What is found by a key does not depend on the order of the
list, and says all about it up to its order.
-/

namespace LinkedControls

variable {α β κ : Type} [DecidableEq κ] {key : α → κ} {items items' : List α} {a : α} {k : κ}

theorem find?_key (h : (items.map key).Nodup) (ha : a ∈ items) :
    items.find? (key · == key a) = some a := by
  cases hf : items.find? (key · == key a) with
  | none => exact absurd (List.find?_eq_none.mp hf a ha) (by simp)
  | some b =>
    have hkey : key b = key a := by simpa using List.find?_some hf
    rw [List.inj_on_of_nodup_map h (List.mem_of_find?_eq_some hf) ha hkey]

theorem find?_key_eq_some_iff (h : (items.map key).Nodup) :
    items.find? (key · == k) = some a ↔ a ∈ items ∧ key a = k := by
  constructor
  · intro hf
    exact ⟨List.mem_of_find?_eq_some hf, by simpa using List.find?_some hf⟩
  · rintro ⟨ha, rfl⟩
    exact find?_key h ha

theorem find?_key_perm (h : (items.map key).Nodup) (hp : items.Perm items') :
    items.find? (key · == k) = items'.find? (key · == k) := by
  refine List.find?_eq_find?_of_perm hp ?_
  rintro a ⟨ha, hka⟩ b ⟨hb, hkb⟩
  have hkey : key a = key b := (beq_iff_eq.mp hka).trans (beq_iff_eq.mp hkb).symm
  exact List.inj_on_of_nodup_map h ha hb hkey

theorem perm_of_find?_key (h : (items.map key).Nodup) (h' : (items'.map key).Nodup)
    (hf : ∀ k, items.find? (key · == k) = items'.find? (key · == k)) : items.Perm items' := by
  rw [List.perm_ext_iff_of_nodup (.of_map key h) (.of_map key h')]
  intro a
  have ha := find?_key_eq_some_iff (k := key a) (a := a) h
  rw [hf, find?_key_eq_some_iff h'] at ha
  simpa using ha.symm

theorem find?_key_without {j : κ} : (items.filter (key · != k)).find? (key · == j) =
    if j = k then none else items.find? (key · == j) := by
  rw [List.find?_filter]
  by_cases hj : j = k
  · subst hj
    simp [List.find?_eq_none]
  · rw [if_neg hj]
    congr 1
    funext a
    by_cases ha : key a = j
    · simp [ha, hj]
    · simp [ha]

theorem filter_key_without {j : κ} (hj : j ≠ k) :
    (items.filter (key · != k)).filter (key · == j) = items.filter (key · == j) := by
  rw [List.filter_filter]
  refine List.filter_congr fun a _ => ?_
  by_cases ha : key a = j
  · simp [ha, hj]
  · simp [ha]

section Pairs

variable {κ : Type} [BEq κ] [LawfulBEq κ] {k : κ}

theorem lookup_without {fields : List (κ × β)} {j : κ} (hj : j ≠ k) :
    (fields.filter (·.1 != k)).lookup j = fields.lookup j := by
  induction fields with
  | nil => rfl
  | cons field fields ih =>
    rw [List.filter_cons, List.lookup_cons]
    split
    · rw [List.lookup_cons, ih]
    · next hfield =>
      have hkey : field.1 = k := by simpa using hfield
      rw [ih, hkey, beq_false_of_ne hj]

theorem lookup_without_self {fields : List (κ × β)} :
    (fields.filter (·.1 != k)).lookup k = none := by
  induction fields with
  | nil => rfl
  | cons field fields ih =>
    rw [List.filter_cons]
    split
    · next hfield => rw [List.lookup_cons, beq_false_of_ne (Ne.symm (bne_iff_ne.mp hfield)), ih]
    · exact ih

theorem lookup_key {fields : List (κ × β)} {b : β} (h : (fields.map (·.1)).Nodup)
    (hb : (k, b) ∈ fields) : fields.lookup k = some b := by
  induction fields with
  | nil => cases hb
  | cons field fields ih =>
    obtain ⟨hnew, hrest⟩ := List.nodup_cons.mp h
    rw [List.lookup_cons]
    rcases List.mem_cons.mp hb with rfl | hb
    · simp
    · have hk : k ∈ fields.map (·.1) := List.mem_map.mpr ⟨(k, b), hb, rfl⟩
      have hne : k ≠ field.1 := by
        rintro rfl
        exact hnew hk
      rw [beq_false_of_ne hne]
      exact ih hrest hb

theorem mem_iff_lookup {fields : List (κ × β)} {b : β} (h : (fields.map (·.1)).Nodup) :
    (k, b) ∈ fields ↔ fields.lookup k = some b := by
  refine ⟨lookup_key h, fun hlookup => ?_⟩
  obtain ⟨before, rest, rfl, -⟩ := List.lookup_eq_some_iff.mp hlookup
  simp

end Pairs

end LinkedControls
