import LinkedControls.Pattern.Basic

/-!
Places of one text: which ones lie ahead of a place, and what the operations on ordered sets of
places keep.
-/

namespace LinkedControls

namespace Place

inductive Reads : Place → List Char → Place → Prop
  | nil (a : Place) : Reads a [] a
  | cons {offset : Nat} {before : Option Char} {c : Char} {rest w : List Char} {b : Place} :
      Reads ⟨offset + 1, some c, rest⟩ w b → Reads ⟨offset, before, c :: rest⟩ (c :: w) b

namespace Reads

variable {a b c : Place} {v w : List Char}

theorem trans (h : a.Reads v b) (h' : b.Reads w c) : a.Reads (v ++ w) c := by
  induction h with
  | nil => exact h'
  | cons _ ih => exact .cons (ih h')

theorem rest_eq (h : a.Reads w b) : a.rest = w ++ b.rest := by
  induction h with
  | nil => rfl
  | cons _ ih => exact congrArg _ ih

theorem offset_eq (h : a.Reads w b) : b.offset = a.offset + w.length := by
  induction h with
  | nil => rfl
  | cons _ ih =>
    simp only [List.length_cons] at ih ⊢
    omega

theorem unique (h : a.Reads w b) (h' : a.Reads w c) : b = c := by
  induction h with
  | nil =>
    cases h'
    rfl
  | cons _ ih =>
    cases h' with
    | cons h' => exact ih h'

theorem eq_of_offset (h : a.Reads v b) (h' : a.Reads w c) (ho : b.offset = c.offset) : b = c := by
  have hlength : v.length = w.length := by
    have hb := h.offset_eq
    have hc := h'.offset_eq
    omega
  have hrest : v ++ b.rest = w ++ c.rest := by rw [← h.rest_eq, ← h'.rest_eq]
  obtain rfl := (List.append_inj hrest hlength).1
  exact h.unique h'

end Reads

theorem reads_of_pass {set : CharSet} {a b : Place} (h : a.pass set = some b) :
    ∃ c, set.holds c = true ∧ a.Reads [c] b := by
  obtain ⟨offset, before, rest⟩ := a
  cases rest with
  | nil => simp [pass] at h
  | cons c rest =>
    simp only [pass] at h
    split at h
    next hc =>
      cases h
      exact ⟨c, hc, .cons (.nil _)⟩
    · cases h

theorem offset_of_pass {set : CharSet} {a b : Place} (h : a.pass set = some b) :
    b.offset = a.offset + 1 :=
  have ⟨_, _, hr⟩ := reads_of_pass h
  hr.offset_eq

def Ahead (a b : Place) : Prop := ∃ w, a.Reads w b

namespace Ahead

variable {o a b : Place}

theorem refl (a : Place) : a.Ahead a := ⟨[], .nil a⟩

theorem trans (h : o.Ahead a) (h' : a.Ahead b) : o.Ahead b :=
  have ⟨_, hv⟩ := h
  have ⟨_, hw⟩ := h'
  ⟨_, hv.trans hw⟩

theorem eq_of_offset (h : o.Ahead a) (h' : o.Ahead b) (ho : a.offset = b.offset) : a = b :=
  have ⟨_, hv⟩ := h
  have ⟨_, hw⟩ := h'
  hv.eq_of_offset hw ho

theorem offset_add_length (h : a.Ahead b) : b.offset + b.rest.length = a.offset + a.rest.length := by
  obtain ⟨w, hw⟩ := h
  rw [hw.offset_eq, hw.rest_eq, List.length_append, Nat.add_assoc]

theorem eq_or_shorter (h : a.Ahead b) : b = a ∨ b.rest.length < a.rest.length := by
  obtain ⟨w, hw⟩ := h
  cases hw with
  | nil => exact .inl rfl
  | cons hw =>
    refine .inr ?_
    have hrest := congrArg List.length hw.rest_eq
    rw [List.length_append] at hrest
    simp only [List.length_cons] at hrest ⊢
    omega

theorem of_pass {set : CharSet} (h : a.pass set = some b) : a.Ahead b :=
  have ⟨_, _, hr⟩ := reads_of_pass h
  ⟨_, hr⟩

end Ahead

theorem mem_allFrom {offset : Nat} {before : Option Char} {s : List Char} {a : Place} :
    a ∈ allFrom offset before s ↔ Ahead ⟨offset, before, s⟩ a := by
  induction s generalizing offset before with
  | nil =>
    rw [allFrom, List.mem_singleton]
    constructor
    · rintro rfl
      exact .refl _
    · rintro ⟨_, ⟨⟩⟩
      rfl
  | cons c s ih =>
    rw [allFrom, List.mem_cons, ih]
    constructor
    · rintro (rfl | ⟨w, h⟩)
      · exact .refl _
      · exact ⟨_, .cons h⟩
    · rintro ⟨_, _ | h⟩
      · exact .inl rfl
      · exact .inr ⟨_, h⟩

theorem rest_suffix {s : List Char} {a : Place} (h : a ∈ all s) : a.rest <:+ s :=
  have ⟨w, hw⟩ := mem_allFrom.mp h
  ⟨w, hw.rest_eq.symm⟩

theorem exists_reads (offset : Nat) (before : Option Char) (w rest : List Char) :
    ∃ b, Reads ⟨offset, before, w ++ rest⟩ w b := by
  induction w generalizing offset before with
  | nil => exact ⟨_, .nil _⟩
  | cons c w ih =>
    obtain ⟨b, hb⟩ := ih (offset + 1) (some c)
    exact ⟨b, .cons hb⟩

theorem exists_rest_eq {s r : List Char} (h : r <:+ s) : ∃ a ∈ all s, a.rest = r := by
  obtain ⟨w, rfl⟩ := h
  obtain ⟨a, ha⟩ := exists_reads 0 none w r
  exact ⟨a, mem_allFrom.mpr ⟨w, ha⟩, List.append_cancel_left ha.rest_eq.symm⟩

structure Ordered (o : Place) (ps : List Place) : Prop where
  ahead : ∀ a ∈ ps, o.Ahead a
  sorted : ps.Pairwise fun a b => a.offset < b.offset

namespace Ordered

variable {o p q : Place} {ps qs : List Place}

theorem singleton (h : o.Ahead p) : Ordered o [p] := ⟨by simpa using h, by simp⟩

theorem tail (h : Ordered o (p :: ps)) : Ordered o ps :=
  ⟨fun a ha => h.ahead a (List.mem_cons_of_mem _ ha), (List.pairwise_cons.mp h.sorted).2⟩

theorem head_lt (h : Ordered o (p :: ps)) {a : Place} (ha : a ∈ ps) : p.offset < a.offset :=
  (List.pairwise_cons.mp h.sorted).1 a ha

theorem cons (hp : o.Ahead p) (hlt : ∀ a ∈ ps, p.offset < a.offset) (h : Ordered o ps) :
    Ordered o (p :: ps) :=
  ⟨List.forall_mem_cons.mpr ⟨hp, h.ahead⟩, List.pairwise_cons.mpr ⟨hlt, h.sorted⟩⟩

theorem sublist (h : Ordered o ps) (hs : qs.Sublist ps) : Ordered o qs :=
  ⟨fun a ha => h.ahead a (hs.subset ha), h.sorted.sublist hs⟩

theorem allFrom (offset : Nat) (before : Option Char) (s : List Char) :
    Ordered ⟨offset, before, s⟩ (allFrom offset before s) := by
  refine ⟨fun a => mem_allFrom.mp, ?_⟩
  induction s generalizing offset before with
  | nil => exact List.pairwise_singleton _ _
  | cons c s ih =>
    refine List.pairwise_cons.mpr ⟨fun a ha => ?_, ih _ _⟩
    obtain ⟨w, h⟩ := mem_allFrom.mp ha
    have := h.offset_eq
    simp only at this ⊢
    omega

theorem lt_placesFrom (h : Ordered o ps) {a : Place} (ha : a ∈ ps) :
    a.rest.length < Pattern.placesFrom ps := by
  cases ps with
  | nil => cases ha
  | cons p ps =>
    rw [Pattern.placesFrom]
    rcases List.mem_cons.mp ha with rfl | ha'
    · omega
    · have := h.head_lt ha'
      have := (h.ahead p (by simp)).offset_add_length
      have := (h.ahead a ha).offset_add_length
      omega

end Ordered

theorem mem_merge {o a : Place} {ps qs : List Place} (hp : Ordered o ps) (hq : Ordered o qs) :
    a ∈ merge ps qs ↔ a ∈ ps ∨ a ∈ qs := by
  fun_induction merge ps qs with
  | case1 => simp
  | case2 => simp
  | case3 p ps q qs hlt ih =>
    simp only [List.mem_cons, ih hp.tail hq, or_assoc]
  | case4 p ps q qs _ hlt ih =>
    simp only [List.mem_cons, ih hp hq.tail]
    exact or_left_comm
  | case5 p ps q qs hpq hqp ih =>
    obtain rfl : p = q := (hp.ahead p (by simp)).eq_of_offset (hq.ahead q (by simp)) (by omega)
    simp only [List.mem_cons, ih hp.tail hq.tail]
    exact or_or_distrib_left

theorem Ordered.merge {o : Place} {ps qs : List Place} (hp : Ordered o ps) (hq : Ordered o qs) :
    Ordered o (merge ps qs) := by
  fun_induction Place.merge ps qs with
  | case1 => exact hq
  | case2 => exact hp
  | case3 p ps q qs hlt ih =>
    refine .cons (hp.ahead p (by simp)) (fun a ha => ?_) (ih hp.tail hq)
    rcases (mem_merge hp.tail hq).mp ha with h | h
    · exact hp.head_lt h
    · rcases List.mem_cons.mp h with rfl | h
      · exact hlt
      · exact Nat.lt_trans hlt (hq.head_lt h)
  | case4 p ps q qs _ hlt ih =>
    refine .cons (hq.ahead q (by simp)) (fun a ha => ?_) (ih hp hq.tail)
    rcases (mem_merge hp hq.tail).mp ha with h | h
    · rcases List.mem_cons.mp h with rfl | h
      · exact hlt
      · exact Nat.lt_trans hlt (hp.head_lt h)
    · exact hq.head_lt h
  | case5 p ps q qs hpq hqp ih =>
    refine .cons (hp.ahead p (by simp)) (fun a ha => ?_) (ih hp.tail hq.tail)
    rcases (mem_merge hp.tail hq.tail).mp ha with h | h
    · exact hp.head_lt h
    · exact Nat.lt_of_le_of_lt (by omega) (hq.head_lt h)

theorem remove_sublist (ps qs : List Place) : (remove ps qs).Sublist ps := by
  fun_induction remove ps qs with
  | case1 => exact .refl _
  | case2 => exact .refl _
  | case3 p ps q qs _ ih => exact ih.cons_cons p
  | case4 p ps q qs _ _ ih => exact ih
  | case5 p ps q qs _ _ ih => exact ih.cons p

theorem mem_remove {o a : Place} {ps qs : List Place} (hp : Ordered o ps) (hq : Ordered o qs) :
    a ∈ remove ps qs ↔ a ∈ ps ∧ a ∉ qs := by
  fun_induction remove ps qs with
  | case1 => simp
  | case2 => simp
  | case3 p ps q qs hlt ih =>
    have hnot : p ∉ q :: qs := fun hmem => by
      rcases List.mem_cons.mp hmem with rfl | hmem
      · exact Nat.lt_irrefl _ hlt
      · exact Nat.lt_asymm hlt (hq.head_lt hmem)
    have hhead : a = p ↔ a = p ∧ a ∉ q :: qs := ⟨fun h => ⟨h, h ▸ hnot⟩, And.left⟩
    rw [List.mem_cons, List.mem_cons, or_and_right, ih hp.tail hq, ← hhead]
  | case4 p ps q qs hpq hlt ih =>
    have hnot : ∀ a ∈ p :: ps, a ≠ q := fun a hmem heq => by
      subst heq
      rcases List.mem_cons.mp hmem with rfl | hmem
      · exact Nat.lt_irrefl _ hlt
      · exact Nat.lt_asymm hlt (hp.head_lt hmem)
    rw [ih hp hq.tail]
    exact and_congr_right fun h => by simp [hnot a h]
  | case5 p ps q qs hpq hqp ih =>
    obtain rfl : p = q := (hp.ahead p (by simp)).eq_of_offset (hq.ahead q (by simp)) (by omega)
    have hnot : ∀ a ∈ ps, a ≠ p := fun a hmem heq => Nat.lt_irrefl _ (heq ▸ hp.head_lt hmem)
    rw [ih hp.tail hq.tail]
    constructor
    · rintro ⟨h, h'⟩
      exact ⟨List.mem_cons_of_mem _ h, by simp [hnot a h, h']⟩
    · rintro ⟨h, h'⟩
      obtain ⟨hne, h'⟩ := not_or.mp (mt List.mem_cons.mpr h')
      exact ⟨(List.mem_cons.mp h).resolve_left hne, h'⟩

end Place

end LinkedControls
