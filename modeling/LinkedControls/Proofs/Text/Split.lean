import LinkedControls.Text.Split
import LinkedControls.Text.Blank

/-!
Joining pieces with a separator and cutting at it undo each other, and a text without blanks at its
ends is its own trimming.
-/

namespace LinkedControls.Text

variable {separator : Char}

theorem splitOn_ne_nil (separator : Char) (s : List Char) : splitOn separator s ≠ [] := by
  cases s with
  | nil => simp [splitOn]
  | cons c rest =>
    unfold splitOn
    split
    · simp
    · split <;> simp

theorem splitOn_cons_separator (separator : Char) (s : List Char) :
    splitOn separator (separator :: s) = [] :: splitOn separator s := by
  simp [splitOn]

theorem splitOn_cons {c : Char} (hc : c ≠ separator) {s piece : List Char}
    {pieces : List (List Char)} (h : splitOn separator s = piece :: pieces) :
    splitOn separator (c :: s) = (c :: piece) :: pieces := by
  simp [splitOn, hc, h]

theorem splitOn_of_not_mem {s : List Char} (h : separator ∉ s) : splitOn separator s = [s] := by
  induction s with
  | nil => rfl
  | cons c s ih =>
    simp only [List.mem_cons, not_or] at h
    exact splitOn_cons (Ne.symm h.1) (ih h.2)

theorem splitOn_append {a : List Char} (h : separator ∉ a) (b : List Char) :
    splitOn separator (a ++ separator :: b) = a :: splitOn separator b := by
  induction a with
  | nil => exact splitOn_cons_separator separator b
  | cons c a ih =>
    simp only [List.mem_cons, not_or] at h
    exact splitOn_cons (Ne.symm h.1) (ih h.2)

theorem of_mem_splitOn {s piece : List Char} (h : piece ∈ splitOn separator s) :
    separator ∉ piece ∧ piece ⊆ s := by
  induction s generalizing piece with
  | nil =>
    obtain rfl := List.mem_singleton.mp h
    simp
  | cons c s ih =>
    obtain ⟨first, pieces, hs⟩ := List.exists_cons_of_ne_nil (splitOn_ne_nil separator s)
    by_cases hc : c = separator
    · rw [hc, splitOn_cons_separator] at h
      rcases List.mem_cons.mp h with rfl | h
      · simp
      · exact ⟨(ih h).1, List.subset_cons_of_subset _ (ih h).2⟩
    · rw [splitOn_cons hc hs] at h
      rw [hs] at ih
      rcases List.mem_cons.mp h with rfl | h
      · obtain ⟨hfree, hsub⟩ := ih List.mem_cons_self
        exact ⟨by simp [hfree, Ne.symm hc], List.cons_subset_cons _ hsub⟩
      · obtain ⟨hfree, hsub⟩ := ih (List.mem_cons_of_mem _ h)
        exact ⟨hfree, List.subset_cons_of_subset _ hsub⟩

theorem join_cons_cons (lead piece next : List Char) (pieces : List (List Char)) :
    join lead (piece :: next :: pieces) = piece ++ lead ++ join lead (next :: pieces) := rfl

theorem join_ne_nil {piece : List Char} (h : piece ≠ []) (lead : List Char)
    (pieces : List (List Char)) : join lead (piece :: pieces) ≠ [] := by
  cases pieces with
  | nil => exact h
  | cons next pieces => simp [join_cons_cons, h]

theorem mem_join {lead : List Char} {pieces : List (List Char)} {c : Char}
    (h : c ∈ join lead pieces) : c ∈ lead ∨ ∃ piece ∈ pieces, c ∈ piece := by
  induction pieces with
  | nil => cases h
  | cons piece pieces ih =>
    cases pieces with
    | nil => exact .inr ⟨piece, by simp, h⟩
    | cons next pieces =>
      rw [join_cons_cons, List.mem_append, List.mem_append] at h
      rcases h with (h | h) | h
      · exact .inr ⟨piece, by simp, h⟩
      · exact .inl h
      · exact (ih h).imp_right fun ⟨p, hp, hc⟩ => ⟨p, List.mem_cons_of_mem _ hp, hc⟩

theorem splitOn_join {pieces : List (List Char)} (hne : pieces ≠ [])
    (h : ∀ p ∈ pieces, separator ∉ p) : splitOn separator (join [separator] pieces) = pieces := by
  induction pieces with
  | nil => exact absurd rfl hne
  | cons piece pieces ih =>
    obtain ⟨hpiece, hpieces⟩ := List.forall_mem_cons.mp h
    cases pieces with
    | nil => exact splitOn_of_not_mem hpiece
    | cons next pieces =>
      rw [join_cons_cons, List.append_assoc, List.singleton_append, splitOn_append hpiece,
        ih (by simp) hpieces]

theorem join_splitOn (separator : Char) (s : List Char) :
    join [separator] (splitOn separator s) = s := by
  induction s with
  | nil => rfl
  | cons c s ih =>
    obtain ⟨piece, pieces, hs⟩ := List.exists_cons_of_ne_nil (splitOn_ne_nil separator s)
    by_cases hc : c = separator
    · subst hc
      rw [splitOn_cons_separator, hs, join_cons_cons, ← hs, ih]
      rfl
    · rw [splitOn_cons hc hs]
      rw [hs] at ih
      cases pieces with
      | nil => exact congrArg (c :: ·) ih
      | cons next pieces => exact congrArg (c :: ·) ih

theorem splitFirst_append {a : List Char} (h : separator ∉ a) (b : List Char) :
    splitFirst separator (a ++ separator :: b) = some (a, b) := by
  induction a with
  | nil => simp [splitFirst]
  | cons c a ih =>
    simp only [List.mem_cons, not_or] at h
    simp [splitFirst, Ne.symm h.1, ih h.2]

theorem splitFirst_of_not_mem {s : List Char} (h : separator ∉ s) : splitFirst separator s = none := by
  induction s with
  | nil => rfl
  | cons c s ih =>
    simp only [List.mem_cons, not_or] at h
    simp [splitFirst, Ne.symm h.1, ih h.2]

theorem of_splitFirst {s a b : List Char} (h : splitFirst separator s = some (a, b)) :
    s = a ++ separator :: b ∧ separator ∉ a := by
  induction s generalizing a with
  | nil => cases h
  | cons c s ih =>
    unfold splitFirst at h
    split at h
    next hc =>
      cases h
      exact ⟨by rw [hc, List.nil_append], List.not_mem_nil⟩
    next hc =>
      obtain ⟨⟨before, after⟩, hrest, he⟩ := Option.map_eq_some_iff.mp h
      cases he
      obtain ⟨rfl, hfree⟩ := ih hrest
      exact ⟨rfl, by simp [hfree, Ne.symm hc]⟩

theorem not_mem_of_splitFirst_eq_none {s : List Char} (h : splitFirst separator s = none) :
    separator ∉ s := by
  intro hmem
  obtain ⟨a, b, rfl, hfree⟩ := List.eq_append_cons_of_mem hmem
  rw [splitFirst_append hfree] at h
  cases h

theorem afterLead_append (lead s : List Char) : afterLead lead (lead ++ s) = some s := by
  induction lead with
  | nil => rfl
  | cons p lead ih => simp [afterLead, ih]

theorem of_afterLead {lead s rest : List Char} (h : afterLead lead s = some rest) : s = lead ++ rest := by
  induction lead generalizing s with
  | nil => exact Option.some.inj h
  | cons p lead ih =>
    cases s with
    | nil => cases h
    | cons c s =>
      rw [afterLead] at h
      split at h
      next hp => rw [hp, ih h, List.cons_append]
      next => cases h

theorem contains_iff {needle s : List Char} : contains needle s = true ↔ needle <:+: s := by
  induction s with
  | nil => rw [contains, List.isEmpty_iff, List.infix_nil]
  | cons c s ih => rw [contains, Bool.or_eq_true, List.isPrefixOf_iff_prefix, ih, List.infix_cons_iff]

theorem takeWhile_append_of_head {p : Char → Bool} {s t : List Char} (hs : ∀ c ∈ s, p c = true)
    (ht : ∀ c ∈ t.head?, p c = false) : (s ++ t).takeWhile p = s := by
  rw [List.takeWhile_append_of_pos hs]
  cases t with
  | nil => exact List.append_nil s
  | cons c t => rw [List.takeWhile_cons_of_neg (by simp [ht c rfl]), List.append_nil]

theorem dropWhile_append_of_head {p : Char → Bool} {s t : List Char} (hs : ∀ c ∈ s, p c = true)
    (ht : ∀ c ∈ t.head?, p c = false) : (s ++ t).dropWhile p = t := by
  rw [List.dropWhile_append_of_pos hs]
  cases t with
  | nil => rfl
  | cons c t => exact List.dropWhile_cons_of_neg (by simp [ht c rfl])

theorem dropWhile_isBlank_of_forall {s : List Char} (h : ∀ c ∈ s, isBlank c = false) :
    s.dropWhile isBlank = s := by
  cases s with
  | nil => rfl
  | cons c s => simp [h c]

theorem trimStart_cons {c : Char} (h : isBlank c = false) (s : List Char) :
    trimStart (c :: s) = c :: s :=
  List.dropWhile_cons_of_neg (by simp [h])

theorem trimStart_of_forall {s : List Char} (h : ∀ c ∈ s, isBlank c = false) : trimStart s = s :=
  dropWhile_isBlank_of_forall h

theorem trim_of_forall {s : List Char} (h : ∀ c ∈ s, isBlank c = false) : trim s = s := by
  have hreverse : ∀ c ∈ s.reverse, isBlank c = false := fun c hc => h c (List.mem_reverse.mp hc)
  rw [trim, trimStart_of_forall h, trimEnd, dropWhile_isBlank_of_forall hreverse,
    List.reverse_reverse]

end LinkedControls.Text
