import LinkedControls.Proofs.Keyed
import LinkedControls.Sync.Membership
import LinkedControls.Sync.Window

namespace LinkedControls

/-- A group apart from the means by which its timer is told from others. -/
def LiveGroup.seen (l : LiveGroup) : LiveGroup := { l with timer := none, generation := 0 }

namespace Coordinator

variable {c : Coordinator} {l k : LiveGroup} {id i control : String} {f : LiveGroup → LiveGroup}

theorem id_of_live? (h : c.live? id = some l) : l.id = id := by
  simpa using List.find?_some h

theorem mem_of_live? (h : c.live? id = some l) : l ∈ c.groups :=
  List.mem_of_find?_eq_some h

theorem live?_of_mem (hn : (c.groups.map (·.id)).Nodup) (hl : l ∈ c.groups) :
    c.live? l.id = some l :=
  find?_key hn hl

theorem mem_of_liveOf? (h : c.liveOf? control = some l) : l ∈ c.groups :=
  List.mem_of_find?_eq_some h

theorem mem_of_find?_contains {gs : List LiveGroup}
    (h : gs.find? (·.group.contains control) = some l) : control ∈ l.group.members := by
  simpa [Group.contains] using List.find?_some h

theorem live?_update (hf : ∀ l, l.id = id → (f l).id = id) :
    (c.update id f).live? i = if i = id then (c.live? i).map f else c.live? i := by
  have hpred : (fun l => (if l.id == id then f l else l).id == i) = fun l => l.id == i := by
    funext l
    by_cases hl : l.id = id
    · simp [hl, hf l hl]
    · simp [hl]
  simp only [live?, update, List.find?_map, Function.comp_def, hpred]
  cases h : c.groups.find? (·.id == i) with
  | none => simp
  | some l =>
    have hid : l.id = i := id_of_live? h
    by_cases hi : i = id
    · simp [hid, hi]
    · simp [hid, hi]

theorem live?_update_self (hf : ∀ l, l.id = id → (f l).id = id) (h : c.live? id = some l) :
    (c.update id f).live? id = some (f l) := by
  rw [live?_update hf, if_pos rfl, h]
  rfl

theorem live?_update_of_ne (hf : ∀ l, l.id = id → (f l).id = id) (hi : i ≠ id) :
    (c.update id f).live? i = c.live? i := by
  rw [live?_update hf, if_neg hi]

theorem live?_congr {d : Coordinator} (h : d.groups = c.groups) : d.live? i = c.live? i := by
  unfold live?
  rw [h]

@[simp]
theorem live?_stopTimer (timer : Option Nat) : (c.stopTimer timer).live? i = c.live? i := rfl

@[simp]
theorem live?_replaceConflict (k : Conflict) : (c.replaceConflict k).live? i = c.live? i := rfl

theorem live?_cancel :
    (c.cancel l).live? i = if i = l.id then (c.live? i).map LiveGroup.reset else c.live? i :=
  live?_update fun _ h => h

theorem live?_drop : (c.drop l).live? i = if i = l.id then none else c.live? i :=
  find?_key_without

theorem mem_install {gs : List LiveGroup} (h : k ∈ install l gs) : k = l ∨ k ∈ gs := by
  induction gs with
  | nil => exact .inl (by simpa [install] using h)
  | cons g rest ih =>
    unfold install at h
    split at h
    · rcases List.mem_cons.mp h with rfl | h
      · exact .inl rfl
      · exact .inr (List.mem_cons_of_mem _ h)
    · rcases List.mem_cons.mp h with rfl | h
      · exact .inr List.mem_cons_self
      · exact (ih h).imp_right (List.mem_cons_of_mem _)

theorem find?_install (gs : List LiveGroup) :
    (install l gs).find? (·.id == i) = if i = l.id then some l else gs.find? (·.id == i) := by
  induction gs with
  | nil =>
    by_cases hi : i = l.id
    · simp [install, hi]
    · simp [install, hi, Ne.symm hi]
  | cons g rest ih =>
    unfold install
    by_cases hg : g.id = l.id
    · by_cases hi : i = l.id
      · simp [hg, hi]
      · simp [hg, hi, Ne.symm hi]
    · by_cases hgi : g.id = i
      · have hi : i ≠ l.id := hgi ▸ hg
        simp [hgi, hi]
      · simp [hg, hgi, ih]

end Coordinator

end LinkedControls
