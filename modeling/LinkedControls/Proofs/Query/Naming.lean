import LinkedControls.Proofs.Keyed
import LinkedControls.Proofs.Query.Segments
import LinkedControls.Proofs.Text.Trim
import LinkedControls.Query.Render
import Mathlib.Data.List.Perm.Subperm
import Std.Data.String.ToNat

/-!
The names of placeholders. References to different things have different keys, and each of them gets a
name of its own, even where the keys come out the same once they are sanitized.
-/

namespace LinkedControls

open Text

namespace Reference

variable {r q : Reference}

theorem point_not_mem_control {inner : List Char} (h : ofInner? inner = some r) :
    '.' ∉ r.control.toList := by
  unfold ofInner? at h
  split at h
  next hsplit =>
    simp only [Option.ite_none_left_eq_some, Option.some.injEq] at h
    obtain ⟨-, rfl⟩ := h
    rw [String.toList_ofList]
    exact fun hmem => not_mem_of_splitFirst_eq_none hsplit (mem_of_mem_trim hmem)
  next before after hsplit =>
    simp only [Option.ite_none_left_eq_some, Option.some.injEq] at h
    obtain ⟨-, rfl⟩ := h
    rw [String.toList_ofList]
    exact fun hmem => (of_splitFirst hsplit).2 (mem_of_mem_trim hmem)

theorem splitFirst_key (h : '.' ∉ r.control.toList) :
    splitFirst '.' r.key.toList = r.path.map fun path => (r.control.toList, path.toList) := by
  obtain ⟨control, path⟩ := r
  cases path with
  | none => exact splitFirst_of_not_mem h
  | some path =>
    have hkey : (Reference.key ⟨control, some path⟩).toList =
        control.toList ++ '.' :: path.toList := by
      simp [key, String.toList_append]
    rw [hkey, splitFirst_append h]
    rfl

theorem key_inj (hr : '.' ∉ r.control.toList) (hq : '.' ∉ q.control.toList)
    (h : r.key = q.key) : r = q := by
  have hsplit := splitFirst_key hr
  rw [h, splitFirst_key hq] at hsplit
  obtain ⟨control, path⟩ := r
  obtain ⟨control', path'⟩ := q
  cases path with
  | none =>
    cases path' with
    | none => exact congrArg (Reference.mk · none) h
    | some path' => cases hsplit
  | some path =>
    cases path' with
    | none => cases hsplit
    | some path' =>
      simp only [Option.map_some, Option.some.injEq, Prod.mk.injEq, String.toList_inj] at hsplit
      rw [hsplit.1, hsplit.2]

end Reference

namespace Template

def Segment.reference? : Segment → Option Reference
  | .text _ => none
  | .reference r _ => some r

theorem references_eq (template : List Char) :
    references template = (segments template).filterMap Segment.reference? := by
  rw [references, occurrences]
  generalize segments template = segs
  generalize 0 = offset
  induction segs generalizing offset with
  | nil => rfl
  | cons seg segs ih =>
    cases seg with
    | text s => exact ih _
    | reference r inner => exact congrArg (r :: ·) (ih _)

theorem ofInner?_of_mem_segments {template inner : List Char} {r : Reference}
    (h : .reference r inner ∈ segments template) : Reference.ofInner? inner = some r := by
  induction template using segments.induct with
  | case1 s inner' rest hbraced _ ih =>
    rw [segments_of_braced hbraced] at h
    rcases List.mem_cons.mp h with hhead | hrest
    · unfold Segment.ofInner at hhead
      split at hhead
      next hr =>
        cases hhead
        exact hr
      · cases hhead
    · exact ih hrest
  | case2 =>
    rw [segments_nil] at h
    cases h
  | case3 c rest hbraced ih =>
    rw [segments_of_none hbraced] at h
    rcases List.mem_cons.mp h with hhead | hrest
    · cases hhead
    · exact ih hrest

theorem key_eq_key_iff {template : List Char} {r q : Reference} (hr : r ∈ references template)
    (hq : q ∈ references template) : r.key = q.key ↔ r = q := by
  have hpoint : ∀ r ∈ references template, '.' ∉ r.control.toList := by
    intro r hr
    rw [references_eq] at hr
    obtain ⟨seg, hseg, hr⟩ := List.mem_filterMap.mp hr
    cases seg with
    | text s => cases hr
    | reference r' inner =>
      cases hr
      exact Reference.point_not_mem_control (ofInner?_of_mem_segments hseg)
  exact ⟨Reference.key_inj (hpoint r hr) (hpoint q hq), congrArg Reference.key⟩

def candidates (base : String) (n : Nat) : List String :=
  base :: (List.range n).map fun i => base ++ "_" ++ toString (i + 2)

theorem candidates_nodup (base : String) (n : Nat) : (candidates base n).Nodup := by
  refine List.nodup_cons.mpr ⟨?_, ?_⟩
  · intro h
    obtain ⟨i, -, he⟩ := List.mem_map.mp h
    have hlength := congrArg String.length he
    simp only [String.length_append] at hlength
    have hmark : "_".length = 1 := rfl
    omega
  · refine List.Nodup.map_on (fun i _ j _ h => ?_) List.nodup_range
    have hs : toString (i + 2) = toString (j + 2) := (String.append_right_inj _).mp h
    have hij : i + 2 = j + 2 := Nat.repr_inj.mp hs
    omega

theorem freshName_not_mem (base : String) (taken : List String) :
    freshName base taken ∉ taken := by
  have hfree : ∃ name ∈ candidates base taken.length, name ∉ taken := by
    by_contra hall
    push Not at hall
    -- there is one candidate more than there are names taken
    have hle := ((candidates_nodup base taken.length).subperm hall).length_le
    simp only [candidates, List.length_cons, List.length_map, List.length_range] at hle
    omega
  obtain ⟨name, hname, hfree⟩ := hfree
  have hsome : ((candidates base taken.length).find? fun name => !taken.contains name).isSome :=
    List.find?_isSome.mpr ⟨name, hname, by simpa using hfree⟩
  obtain ⟨found, hfound⟩ := Option.isSome_iff_exists.mp hsome
  have he : freshName base taken = found := congrArg (Option.getD · base) hfound
  simpa [he] using List.find?_some hfound

structure Binds (bound : List Binding) (rs : List Reference) : Prop where
  names : (bound.map (·.name)).Nodup
  references : (bound.map (·.reference)).Nodup
  mem_iff : ∀ r, r ∈ bound.map (·.reference) ↔ r ∈ rs

variable {bound : List Binding} {rs : List Reference} {r q : Reference} {b : Binding}

theorem Binds.bind (h : Binds bound rs) (lead : String) (r : Reference) :
    Binds (Template.bind lead bound r) (rs ++ [r]) := by
  unfold Template.bind
  by_cases hr : r ∈ rs
  · have hany : bound.any (·.reference == r) = true := by
      obtain ⟨b, hb, he⟩ := List.mem_map.mp ((h.mem_iff r).mpr hr)
      exact List.any_eq_true.mpr ⟨b, hb, by simpa using he⟩
    rw [if_pos hany]
    refine ⟨h.names, h.references, fun q => ?_⟩
    rw [h.mem_iff, List.mem_append, List.mem_singleton]
    exact ⟨.inl, fun hq => hq.elim id fun he => he ▸ hr⟩
  · have hnew : r ∉ bound.map (·.reference) := fun hmem => hr ((h.mem_iff r).mp hmem)
    have hany : ¬ bound.any (·.reference == r) = true := by
      intro hany
      obtain ⟨b, hb, he⟩ := List.any_eq_true.mp hany
      exact hnew (List.mem_map.mpr ⟨b, hb, by simpa using he⟩)
    rw [if_neg hany]
    refine ⟨?_, ?_, fun q => ?_⟩
    · rw [List.map_append]
      refine List.nodup_append.mpr ⟨h.names, List.nodup_singleton _, ?_⟩
      intro name hname fresh hfresh he
      rw [List.map_singleton, List.mem_singleton] at hfresh
      rw [he, hfresh] at hname
      exact freshName_not_mem _ _ hname
    · rw [List.map_append]
      refine List.nodup_append.mpr ⟨h.references, List.nodup_singleton _, ?_⟩
      intro q hq r' hr' he
      rw [List.map_singleton, List.mem_singleton] at hr'
      rw [he, hr'] at hq
      exact hnew hq
    · rw [List.map_append, List.mem_append, List.mem_append, h.mem_iff]
      rfl

theorem binds_bindings (template : List Char) (lead : String) :
    Binds (bindings template lead) (references template) := by
  have hfold : ∀ (rs seen : List Reference) (bound : List Binding), Binds bound seen →
      Binds (rs.foldl (Template.bind lead) bound) (seen ++ rs) := by
    intro rs
    induction rs with
    | nil => exact fun seen bound h => by rwa [List.append_nil]
    | cons r rs ih =>
      intro seen bound h
      have hrest := ih (seen ++ [r]) _ (h.bind lead r)
      rwa [List.append_assoc] at hrest
  exact hfold (references template) [] [] ⟨.nil, .nil, fun r => Iff.rfl⟩

def binding? (bound : List Binding) (r : Reference) : Option Binding :=
  bound.find? (·.reference == r)

theorem Binds.binding?_eq_some_iff (h : Binds bound rs) :
    binding? bound r = some b ↔ b ∈ bound ∧ b.reference = r :=
  find?_key_eq_some_iff h.references

theorem Binds.exists_binding (h : Binds bound rs) (hr : r ∈ rs) :
    ∃ b, binding? bound r = some b ∧ b ∈ bound ∧ b.reference = r := by
  obtain ⟨b, hb, he⟩ := List.mem_map.mp ((h.mem_iff r).mpr hr)
  exact ⟨b, h.binding?_eq_some_iff.mpr ⟨hb, he⟩, hb, he⟩

theorem placeholder_of_binding? (h : binding? bound r = some b) :
    placeholder bound r = ':' :: b.name.toList := by
  rw [binding?] at h
  simp only [placeholder, h]

theorem Binds.placeholder_inj (h : Binds bound rs) (hr : r ∈ rs) (hq : q ∈ rs) :
    placeholder bound r = placeholder bound q ↔ r = q := by
  obtain ⟨b, hbr, hb, rfl⟩ := h.exists_binding hr
  obtain ⟨d, hdq, hd, rfl⟩ := h.exists_binding hq
  rw [placeholder_of_binding? hbr, placeholder_of_binding? hdq, List.cons.injEq, String.toList_inj]
  constructor
  · rintro ⟨-, hname⟩
    rw [List.inj_on_of_nodup_map h.names hb hd hname]
  · intro he
    rw [List.inj_on_of_nodup_map h.references hb hd he]
    exact ⟨rfl, rfl⟩

end Template

end LinkedControls
