import LinkedControls.Json.Basic

/-!
What sorting fields by their keys keeps. No field comes from anywhere else, and where no key comes
twice nothing is lost. The values have no part in it. Sorted fields have keys of their own, and of
those with one key the last one is found.
-/

namespace LinkedControls.Json

variable {α : Type} {key : String} {v : α} {field : String × α} {fields : List (String × α)}

theorem mem_of_mem_insertField (h : field ∈ insertField key v fields) :
    field = (key, v) ∨ field ∈ fields := by
  fun_induction insertField key v fields with
  | case1 => exact .inl (List.mem_singleton.mp h)
  | case2 => exact List.mem_cons.mp h
  | case3 => exact (List.mem_cons.mp h).imp_right (List.mem_cons_of_mem _)
  | case4 k' v' rest hlt hne ih =>
    rcases List.mem_cons.mp h with rfl | h
    · exact .inr (by simp)
    · exact (ih h).imp_right (List.mem_cons_of_mem _)

theorem mem_of_mem_foldl {new : List (String × α)}
    (h : field ∈ new.foldl (fun kept (k, v) => insertField k v kept) fields) :
    field ∈ fields ∨ field ∈ new := by
  induction new generalizing fields with
  | nil => exact .inl h
  | cons f new ih =>
    rcases ih h with h | h
    · exact (mem_of_mem_insertField h).symm.imp_right fun h => by simp [h]
    · exact .inr (List.mem_cons_of_mem _ h)

theorem mem_of_mem_sortFields (h : field ∈ sortFields fields) : field ∈ fields :=
  (mem_of_mem_foldl h).resolve_left List.not_mem_nil

theorem insertField_perm (h : key ∉ fields.map (·.1)) :
    (insertField key v fields).Perm ((key, v) :: fields) := by
  fun_induction insertField key v fields with
  | case1 => exact .refl _
  | case2 => exact .refl _
  | case3 => exact absurd List.mem_cons_self h
  | case4 k' v' rest hlt hne ih =>
    have hrest := ih fun hm => h (List.mem_cons_of_mem _ hm)
    exact (hrest.cons (k', v')).trans (.swap _ _ _)

theorem foldl_perm (new fields : List (String × α)) (h : ((new ++ fields).map (·.1)).Nodup) :
    (new.foldl (fun kept (k, v) => insertField k v kept) fields).Perm (new ++ fields) := by
  induction new generalizing fields with
  | nil => exact .refl _
  | cons f new ih =>
    have hf : f.1 ∉ fields.map (·.1) := fun hm => (List.nodup_cons.mp h).1 (by simp_all)
    have hall : (new ++ insertField f.1 f.2 fields).Perm (f :: (new ++ fields)) :=
      ((insertField_perm hf).append_left new).trans List.perm_middle
    exact (ih _ ((hall.map _).nodup_iff.mpr h)).trans hall

theorem sortFields_perm (h : (fields.map (·.1)).Nodup) : (sortFields fields).Perm fields := by
  have hfold := foldl_perm fields [] (by rwa [List.append_nil])
  rwa [List.append_nil] at hfold

theorem map_insertField {β : Type} (f : α → β) (key : String) (v : α) (fields : List (String × α)) :
    (insertField key v fields).map (Prod.map id f) =
      insertField key (f v) (fields.map (Prod.map id f)) := by
  fun_induction insertField key v fields with
  | case1 => rfl
  | case2 k' v' rest hlt => simp [insertField, hlt]
  | case3 v' rest hlt => simp [insertField]
  | case4 k' v' rest hlt hne ih => simp [insertField, hlt, hne, ih]

theorem map_sortFields {β : Type} (f : α → β) (fields : List (String × α)) :
    (sortFields fields).map (Prod.map id f) = sortFields (fields.map (Prod.map id f)) := by
  have hfold : ∀ new kept : List (String × α),
      (new.foldl (fun kept (k, v) => insertField k v kept) kept).map (Prod.map id f) =
        (new.map (Prod.map id f)).foldl (fun kept (k, v) => insertField k v kept)
          (kept.map (Prod.map id f)) := by
    intro new
    induction new with
    | nil => exact fun kept => rfl
    | cons field new ih =>
      intro kept
      rw [List.map_cons, List.foldl_cons, List.foldl_cons, ih, map_insertField]
      rfl
  exact hfold fields []

theorem keys_sortFields {fields' : List (String × α)} (h : fields.map (·.1) = fields'.map (·.1)) :
    (sortFields fields).map (·.1) = (sortFields fields').map (·.1) := by
  have hkeys (fields : List (String × α)) : (sortFields fields).map (·.1) =
      (sortFields ((fields.map (·.1)).map (·, ()))).map (·.1) := by
    have hunit : (fields.map (·.1)).map (·, ()) = fields.map (Prod.map id fun _ => ()) := by
      rw [List.map_map]
      rfl
    rw [hunit, ← map_sortFields, List.map_map]
    rfl
  rw [hkeys, hkeys, h]

theorem lookup_field (k key : String) (v : α) (fields : List (String × α)) :
    ((key, v) :: fields).lookup k = if k = key then some v else fields.lookup k := by
  by_cases hk : k = key
  · simp [hk]
  · rw [List.lookup_cons, beq_false_of_ne hk, if_neg hk]

theorem lookup_insertField (key : String) (v : α) (fields : List (String × α)) (k : String) :
    (insertField key v fields).lookup k = if k = key then some v else fields.lookup k := by
  fun_induction insertField key v fields with
  | case1 => exact lookup_field k key v []
  | case2 => exact lookup_field k key v _
  | case3 => by_cases hk : k = key <;> simp [lookup_field, hk]
  | case4 k' v' rest hlt hne ih =>
    rw [lookup_field, lookup_field, ih]
    by_cases hk : k = k'
    · have hkey : k ≠ key := fun he => hne (he.symm.trans hk)
      rw [if_pos hk, if_neg hkey, if_pos hk]
    · rw [if_neg hk, if_neg hk]

theorem lookup_foldl (new fields : List (String × α)) (k : String) :
    (new.foldl (fun kept (k, v) => insertField k v kept) fields).lookup k =
      (new.reverse ++ fields).lookup k := by
  induction new generalizing fields with
  | nil => rfl
  | cons f new ih =>
    have hrest : ∀ l : List (String × α), (l ++ insertField f.1 f.2 fields).lookup k =
        (l ++ f :: fields).lookup k := by
      intro l
      induction l with
      | nil => rw [List.nil_append, List.nil_append, lookup_insertField, lookup_field]
      | cons g l ihl => rw [List.cons_append, List.cons_append, lookup_field, lookup_field, ihl]
    rw [List.foldl_cons, ih, hrest, List.reverse_cons, List.append_assoc, List.singleton_append]

theorem lookup_sortFields (fields : List (String × α)) (k : String) :
    (sortFields fields).lookup k = fields.reverse.lookup k := by
  rw [sortFields, lookup_foldl, List.append_nil]

theorem lookup_sortFields_cons (key : String) (v : α) (fields : List (String × α)) (k : String) :
    (sortFields ((key, v) :: fields)).lookup k =
      ((sortFields fields).lookup k).or (if k = key then some v else none) := by
  rw [lookup_sortFields, lookup_sortFields, List.reverse_cons, List.lookup_append, lookup_field]
  rfl

theorem sorted_insertField (h : fields.Pairwise fun f g => f.1 < g.1) :
    (insertField key v fields).Pairwise fun f g => f.1 < g.1 := by
  fun_induction insertField key v fields with
  | case1 => exact List.pairwise_singleton _ _
  | case2 k' v' rest hlt =>
    refine h.cons fun f hf => ?_
    rcases List.mem_cons.mp hf with rfl | hf
    · exact hlt
    · exact String.lt_trans hlt (List.rel_of_pairwise_cons h hf)
  | case3 v' rest hlt => exact h.of_cons.cons fun f hf => List.rel_of_pairwise_cons h hf
  | case4 k' v' rest hlt hne ih =>
    have hgt : k' < key :=
      Decidable.byContradiction fun hn =>
        hne (String.le_antisymm (String.not_lt.mp hn) (String.not_lt.mp hlt))
    refine (ih h.of_cons).cons fun f hf => ?_
    rcases mem_of_mem_insertField hf with rfl | hf
    · exact hgt
    · exact List.rel_of_pairwise_cons h hf

theorem sorted_sortFields (fields : List (String × α)) :
    (sortFields fields).Pairwise fun f g => f.1 < g.1 := by
  have hfold (new kept : List (String × α)) (h : kept.Pairwise fun f g => f.1 < g.1) :
      (new.foldl (fun kept (k, v) => insertField k v kept) kept).Pairwise fun f g => f.1 < g.1 := by
    induction new generalizing kept with
    | nil => exact h
    | cons f new ih => exact ih _ (sorted_insertField h)
  exact hfold fields [] .nil

theorem nodup_keys_sortFields (fields : List (String × α)) :
    ((sortFields fields).map (·.1)).Nodup :=
  List.pairwise_map.mpr <| (sorted_sortFields fields).imp fun {f g} (hlt : f.1 < g.1) (he : f.1 = g.1) =>
    String.lt_irrefl _ (he ▸ hlt)

end LinkedControls.Json
