import Mathlib.Tactic.SplitIfs
import LinkedControls.Files.Tree
import LinkedControls.Proofs.Keyed
import LinkedControls.Proofs.Outcome

namespace LinkedControls.FileTree

variable {t u : FileTree} {l m : Location} {n : FileNode}

theorem node?_remove_of_ne (h : m ≠ l) : (t.remove l).node? m = t.node? m := by
  cases m with
  | nil => rfl
  | cons p rest => exact lookup_without h

theorem node?_remove_self (h : l ≠ []) : (t.remove l).node? l = none := by
  cases l with
  | nil => exact absurd rfl h
  | cons p rest => exact lookup_without_self

theorem node?_put_of_ne (h : m ≠ l) : (t.put l n).node? m = t.node? m := by
  cases m with
  | nil => rfl
  | cons p rest =>
    have hlast : [(l, n)].lookup (p :: rest) = none := by simpa using h
    simp only [put, node?, List.lookup_append, hlast, lookup_without h, Option.or_none]

theorem node?_put_self (h : l ≠ []) : (t.put l n).node? l = some n := by
  cases l with
  | nil => exact absurd rfl h
  | cons p rest => simp [put, node?, List.lookup_append, lookup_without_self]

theorem follow_of_folders (h : ∀ l, t.node? l = some .folder → u.node? l = some .folder)
    {pieces : List String} (ht : t.follow pieces l = .ok m) : u.follow pieces l = .ok m := by
  induction pieces generalizing l with
  | nil => exact ht
  | cons p rest ih =>
    rw [follow] at ht ⊢
    split at ht
    next => cases ht
    next => cases ht
    next hfolder =>
      rw [h l hfolder]
      simp only
      split_ifs at ht ⊢
      all_goals exact ih ht

theorem locate_of_folders (h : ∀ l, t.node? l = some .folder → u.node? l = some .folder)
    {path : String} (ht : t.locate path = .ok m) : u.locate path = .ok m := by
  unfold locate at ht ⊢
  split_ifs at ht ⊢
  all_goals exact follow_of_folders h ht

theorem folders_kept (hl : t.node? l ≠ some .folder)
    (h : ∀ m, m ≠ l → u.node? m = t.node? m) :
    ∀ m, t.node? m = some .folder → u.node? m = some .folder := by
  intro m hm
  have hne : m ≠ l := fun he => hl (he ▸ hm)
  rw [h m hne, hm]

variable {path content : String}

theorem read_eq_ok : t.read path = .ok content ↔
    ∃ l, t.locate path = .ok l ∧ t.node? l = some (.file content) := by
  unfold read at?
  cases t.locate path with
  | error e => simp [bind, Except.bind]
  | ok l =>
    cases hn : t.node? l with
    | none => simp [bind, Except.bind, hn]
    | some n => cases n <;> simp [bind, Except.bind, hn, pure, Except.pure]

theorem ne_nil_of_not_folder (h : t.node? l ≠ some .folder) : l ≠ [] := by
  rintro rfl
  exact h rfl

theorem read_put (hpath : t.locate path = .ok l) (hl : t.node? l ≠ some .folder) :
    (t.put l (.file content)).read path = .ok content := by
  refine read_eq_ok.mpr ⟨l, ?_, node?_put_self (ne_nil_of_not_folder hl)⟩
  exact locate_of_folders (folders_kept hl fun _ => node?_put_of_ne) hpath

theorem write_eq_ok (h : t.write path content = .ok u) :
    ∃ l, t.locate path = .ok l ∧ t.node? l ≠ some .folder ∧ u = t.put l (.file content) := by
  unfold write at h
  obtain ⟨l, hpath, h⟩ := bind_eq_ok h
  split at h
  next => cases h
  next hl =>
    cases h
    exact ⟨l, hpath, fun hfolder => hl hfolder, rfl⟩

theorem read_write (h : t.write path content = .ok u) : u.read path = .ok content := by
  obtain ⟨l, hpath, hl, rfl⟩ := write_eq_ok h
  exact read_put hpath hl

theorem rename_eq_ok {source : String} (h : t.rename source path = .ok u) :
    ∃ content origin goal, t.read source = .ok content ∧ t.locate source = .ok origin ∧
      t.locate path = .ok goal ∧ t.node? goal ≠ some .folder ∧
      u = (t.remove origin).put goal (.file content) := by
  unfold rename at h
  obtain ⟨content, hcontent, h⟩ := bind_eq_ok h
  obtain ⟨origin, horigin, h⟩ := bind_eq_ok h
  obtain ⟨goal, hgoal, h⟩ := bind_eq_ok h
  split at h
  next => cases h
  next hl =>
    cases h
    exact ⟨content, origin, goal, hcontent, horigin, hgoal, fun hfolder => hl hfolder, rfl⟩

theorem read_rename {source : String} (hsource : t.read source = .ok content)
    (h : t.rename source path = .ok u) : u.read path = .ok content := by
  obtain ⟨_, origin, goal, hread, horigin, hgoal, hfolder, rfl⟩ := rename_eq_ok h
  cases hsource.symm.trans hread
  obtain ⟨l, hl, hfile⟩ := read_eq_ok.mp hread
  cases horigin.symm.trans hl
  have hkept : ∀ m, t.node? m = some .folder → (t.remove origin).node? m = some .folder :=
    folders_kept (by simp [hfile]) fun _ => node?_remove_of_ne
  refine read_put (locate_of_folders hkept hgoal) ?_
  by_cases he : goal = origin
  · have hne : origin ≠ [] := ne_nil_of_not_folder (he ▸ hfolder)
    rw [he, node?_remove_self hne]
    simp
  · rwa [node?_remove_of_ne he]

theorem read_replace (h : t.replace path content = (.ok (), u)) : u.read path = .ok content := by
  unfold replace at h
  simp only at h
  split at h
  next => cases h
  next written hwrite =>
    split at h
    next => cases h
    next renamed hrename =>
      cases h
      exact read_rename (read_write hwrite) hrename

end LinkedControls.FileTree
