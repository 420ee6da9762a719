import LinkedControls.Proofs.Keyed
import LinkedControls.Repository.Basic

namespace LinkedControls

namespace StoredGroups

variable {gs : List Group} {g : Group} {id : String}

theorem mem_ids_put : id ∈ (put g gs).map (·.id) ↔ id = g.id ∨ id ∈ gs.map (·.id) := by
  induction gs with
  | nil => simp [put]
  | cons h rest ih =>
    unfold put
    by_cases he : h.id = g.id
    · simp [he]
    · simp only [he, if_false, List.map_cons, List.mem_cons, ih]
      exact or_left_comm

theorem nodup_ids_put (h : (gs.map (·.id)).Nodup) : ((put g gs).map (·.id)).Nodup := by
  induction gs with
  | nil => simp [put]
  | cons k rest ih =>
    obtain ⟨hk, hrest⟩ := List.nodup_cons.mp h
    unfold put
    by_cases he : k.id = g.id
    · rw [if_pos he]
      have hg : g.id ∉ rest.map (·.id) := by rwa [← he]
      exact List.nodup_cons.mpr ⟨hg, hrest⟩
    · rw [if_neg he]
      refine List.nodup_cons.mpr ⟨fun hm => ?_, ih hrest⟩
      exact (mem_ids_put.mp hm).elim he hk

theorem find?_put : find? (put g gs) id = if id = g.id then some g else find? gs id := by
  unfold find?
  induction gs with
  | nil =>
    by_cases hid : id = g.id
    · simp [put, hid]
    · simp [put, hid, Ne.symm hid]
  | cons k rest ih =>
    unfold put
    by_cases hk : k.id = g.id
    · by_cases hid : id = g.id
      · simp [hk, hid]
      · simp [hk, hid, Ne.symm hid]
    · by_cases hki : k.id = id
      · have hid : id ≠ g.id := hki ▸ hk
        simp [hki, hid]
      · simp [hk, hki, ih]

theorem sort_perm (gs : List Group) : (sort gs).Perm gs := List.mergeSort_perm gs _

end StoredGroups

namespace Repository

variable {r : Repository} {g : Group} {id i : String}

def Sound (r : Repository) : Prop := (r.groups.map (·.id)).Nodup

theorem sound_empty : Sound .empty := List.nodup_nil

theorem Sound.save (h : r.Sound) (g : Group) : (r.save g).Sound :=
  ((StoredGroups.sort_perm _).map _).nodup_iff.mpr (StoredGroups.nodup_ids_put h)

theorem Sound.delete (h : r.Sound) (id : String) : (r.delete id).2.Sound :=
  h.sublist (List.filter_sublist.map _)

theorem get?_save (h : r.Sound) : (r.save g).get? i = if i = g.id then some g else r.get? i := by
  have hput := StoredGroups.nodup_ids_put (g := g) h
  have hsort := find?_key_perm hput (StoredGroups.sort_perm _).symm (k := i)
  exact hsort.symm.trans StoredGroups.find?_put

theorem get?_delete : (r.delete id).2.get? i = if i = id then none else r.get? i :=
  find?_key_without

end Repository

end LinkedControls
