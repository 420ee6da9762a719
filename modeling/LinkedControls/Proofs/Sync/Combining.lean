import LinkedControls.Proofs.Decimal.Order
import LinkedControls.Proofs.Value.Agreeing
import LinkedControls.Sync.Merge
import Mathlib.Data.List.Induction
import Mathlib.Data.List.Nodup

/-!
What combinators make of competing values. Each result is told by the values alone: the item lists hold what
competes, each item once, and a bound lies at the end of those that compete. So the order in which the values
arrived matters for the order of items only, and for which of two zeros is taken.
-/

namespace LinkedControls

open Decimal

structure Range.Within (t r : Range Binary64) : Prop where
  lower : ∀ x ∈ r.lower, ∃ y ∈ t.lower, y.lt x = false
  upper : ∀ x ∈ r.upper, ∃ y ∈ t.upper, x.lt y = false

namespace Combinator

variable {α : Type} {x y z : Binary64}

theorem combine_eq_none_iff {f : α → α → α} {l : List α} : combine f l = none ↔ l = [] := by
  cases l <;> simp [combine]

theorem combine_induction {f : α → α → α} {P : List α → α → Prop} (hone : ∀ a, P [a] a)
    (hmore : ∀ l a b, P l a → P (l ++ [b]) (f a b)) {l : List α} {a : α} (h : combine f l = some a) :
    P l a := by
  cases l with
  | nil => cases h
  | cons b rest =>
    cases h
    induction rest using List.reverseRecOn with
    | nil => exact hone b
    | append_singleton rest c ih =>
      rw [List.foldl_append]
      exact hmore _ _ c ih

structure Picks (pick : Binary64 → Binary64 → Binary64) (rank : Binary64 → ℤ) : Prop where
  either : ∀ x y, pick x y = x ∨ pick x y = y
  rank_pick : ∀ x y, x.isFinite = true → y.isFinite = true → rank (pick x y) = rank x ⊔ rank y
  rank_inj : ∀ x y, rank x = rank y → x.toUnits = y.toUnits

theorem picks_max : Picks Binary64.max Binary64.toUnits where
  either x y := by
    unfold Binary64.max
    split_ifs <;> simp
  rank_pick _ _ := Binary64.toUnits_max
  rank_inj _ _ := id

theorem picks_min : Picks Binary64.min fun x => -x.toUnits where
  either x y := by
    unfold Binary64.min
    split_ifs <;> simp
  rank_pick x y hx hy := by rw [Binary64.toUnits_min hx hy, neg_inf]
  rank_inj _ _ := neg_inj.mp

/-- The bound is one of the given ones. It is open if any of them is, and no other one ranks higher. -/
structure Outermost (rank : Binary64 → ℤ) (bs : List (Option Binary64)) (b : Option Binary64) : Prop where
  mem : b ∈ bs
  isOpen : none ∈ bs → b = none
  highest : ∀ x ∈ b, ∀ y, some y ∈ bs → rank y ≤ rank x

variable {pick : Binary64 → Binary64 → Binary64} {rank : Binary64 → ℤ}
  {bs cs : List (Option Binary64)} {b c : Option Binary64}

theorem Outermost.eq_none_iff (h : Outermost rank bs b) : b = none ↔ none ∈ bs :=
  ⟨fun hb => hb ▸ h.mem, h.isOpen⟩

theorem Outermost.exists_bound (h : Outermost rank bs b) (hx : x ∈ b) (hc : c ∈ bs) :
    ∃ y ∈ c, rank y ≤ rank x := by
  cases c with
  | none =>
    rw [h.isOpen hc] at hx
    cases hx
  | some y => exact ⟨y, rfl, h.highest x hx y hc⟩

theorem outermost_singleton (b : Option Binary64) : Outermost rank [b] b := by
  refine ⟨List.mem_singleton_self b, fun h => (List.mem_singleton.mp h).symm, fun x hx y hy => ?_⟩
  obtain rfl : y = x := Option.some.inj ((List.mem_singleton.mp hy).trans hx)
  exact le_rfl

theorem Outermost.joinBound (hp : Picks pick rank) (h : Outermost rank bs b)
    (hfinite : ∀ x, some x ∈ bs ++ [c] → x.isFinite = true) :
    Outermost rank (bs ++ [c]) (joinBound pick b c) := by
  cases b with
  | none => exact ⟨List.mem_append_left _ h.mem, fun _ => rfl, fun _ hx => (Option.not_mem_none _ hx).elim⟩
  | some x =>
    cases c with
    | none => exact ⟨by simp [Combinator.joinBound], fun _ => rfl, fun _ hx => (Option.not_mem_none _ hx).elim⟩
    | some z =>
      have hx := hfinite x (List.mem_append_left _ h.mem)
      have hz := hfinite z (by simp)
      refine ⟨?_, fun hnone => ?_, ?_⟩
      · show some (pick x z) ∈ bs ++ [some z]
        rcases hp.either x z with he | he
        · rw [he]
          exact List.mem_append_left _ h.mem
        · simp [he]
      · cases h.isOpen (by simpa using hnone)
      · rintro _ ⟨⟩ y hy
        rw [hp.rank_pick x z hx hz]
        rcases List.mem_append.mp hy with hy | hy
        · exact le_sup_of_le_left (h.highest x rfl y hy)
        · obtain rfl : y = z := Option.some.inj (List.mem_singleton.mp hy)
          exact le_sup_right

theorem Outermost.same (hp : Picks pick rank) (h : Outermost rank bs b) (h' : Outermost rank cs c)
    (hfinite : ∀ x, some x ∈ bs → x.isFinite = true) (hmem : ∀ a, a ∈ bs ↔ a ∈ cs) :
    sameBound b c = true := by
  have hopen : b = none ↔ c = none := h.eq_none_iff.trans ((hmem none).trans h'.eq_none_iff.symm)
  cases b with
  | none => rw [hopen.mp rfl, sameBound]
  | some x =>
    cases c with
    | none => cases hopen.mpr rfl
    | some y =>
      have hx : some x ∈ cs := (hmem _).mp h.mem
      have hy : some y ∈ bs := (hmem _).mpr h'.mem
      have hunits := hp.rank_inj x y (le_antisymm (h'.highest y rfl x hx) (h.highest x rfl y hy))
      exact (Binary64.eqv_iff (hfinite y hy)).mpr ⟨hfinite x h.mem, hunits⟩

theorem mem_filterMap_iff {vs : List Value} {read : Value → Option α} {form : α → Value} {a : α}
    (hread : ∀ v, read v = some a ↔ v = form a) : a ∈ vs.filterMap read ↔ form a ∈ vs := by
  refine List.mem_filterMap.trans ⟨?_, fun h => ⟨_, h, (hread _).mpr rfl⟩⟩
  rintro ⟨v, hv, ha⟩
  exact (hread v).mp ha ▸ hv

theorem mem_ranges {vs : List Value} {r : Range Binary64} : r ∈ vs.filterMap range? ↔ .numberRange r ∈ vs :=
  mem_filterMap_iff fun v => by cases v <;> simp [range?]

theorem mem_numbers {vs : List Value} : x ∈ vs.filterMap number? ↔ .number x ∈ vs :=
  mem_filterMap_iff fun v => by cases v <;> simp [number?]

variable {f : α → α → α} {g : α → Option Binary64} {l l' : List α} {a a' : α}

theorem outermost_combine (hp : Picks pick rank)
    (hside : ∀ a b, g (f a b) = joinBound pick (g a) (g b))
    (hfinite : ∀ x, some x ∈ l.map g → x.isFinite = true) (h : combine f l = some a) :
    Outermost rank (l.map g) (g a) := by
  refine combine_induction (P := fun l a => (∀ x, some x ∈ l.map g → x.isFinite = true) →
    Outermost rank (l.map g) (g a)) (fun a _ => outermost_singleton _) ?_ h hfinite
  intro l a b ih hall
  rw [List.map_append] at hall ⊢
  rw [hside]
  exact (ih fun x hx => hall x (List.mem_append_left _ hx)).joinBound hp hall

theorem combine_cases (f : α → α → α) (hperm : l.Perm l') :
    (combine f l = none ∧ combine f l' = none) ∨
      ∃ a a', combine f l = some a ∧ combine f l' = some a' := by
  cases h : combine f l with
  | none =>
    have hnil : l' = [] := (combine_eq_none_iff.mp h ▸ hperm).symm.eq_nil
    exact .inl ⟨rfl, combine_eq_none_iff.mpr hnil⟩
  | some a =>
    cases h' : combine f l' with
    | none =>
      have hnil : l = [] := (combine_eq_none_iff.mp h' ▸ hperm).eq_nil
      rw [hnil] at h
      cases h
    | some a' => exact .inr ⟨a, a', rfl, rfl⟩

theorem sameBound_combine (hp : Picks pick rank)
    (hside : ∀ a b, g (f a b) = joinBound pick (g a) (g b)) (hperm : l.Perm l')
    (hfinite : ∀ x, some x ∈ l.map g → x.isFinite = true) (h : combine f l = some a)
    (h' : combine f l' = some a') : sameBound (g a) (g a') = true := by
  have hmem : ∀ b, b ∈ l.map g ↔ b ∈ l'.map g := fun _ => (hperm.map g).mem_iff
  have hends := outermost_combine hp hside hfinite h
  have hends' := outermost_combine hp hside (fun x hx => hfinite x ((hmem _).mpr hx)) h'
  exact hends.same hp hends' hfinite hmem

theorem agrees_combine_numbers (hp : Picks pick rank) {xs ys : List Binary64} (hperm : xs.Perm ys)
    (hfinite : ∀ x ∈ xs, x.isFinite = true) :
    (Value.ofBound .number (combine pick xs)).agrees (Value.ofBound .number (combine pick ys)) = true := by
  rcases combine_cases pick hperm with ⟨h, h'⟩ | ⟨x, y, h, h'⟩
  · rw [h, h']
    rfl
  · rw [h, h']
    exact sameBound_combine (g := some) hp (fun _ _ => rfl) hperm (by simpa using hfinite) h h'

theorem finite_sides {rs : List (Range Binary64)}
    (hfinite : ∀ r ∈ rs, (Value.numberRange r).isFinite = true) :
    (∀ x, some x ∈ rs.map Range.lower → x.isFinite = true) ∧
      ∀ x, some x ∈ rs.map Range.upper → x.isFinite = true := by
  refine ⟨fun x hx => ?_, fun x hx => ?_⟩
  · obtain ⟨r, hr, hside⟩ := List.mem_map.mp hx
    exact (Option.all_eq_true _ _).mp (Bool.and_eq_true_iff.mp (hfinite r hr)).1 x hside
  · obtain ⟨r, hr, hside⟩ := List.mem_map.mp hx
    exact (Option.all_eq_true _ _).mp (Bool.and_eq_true_iff.mp (hfinite r hr)).2 x hside

theorem agrees_combine_ranges {rs ts : List (Range Binary64)} (hperm : rs.Perm ts)
    (hfinite : ∀ r ∈ rs, (Value.numberRange r).isFinite = true) :
    (Value.ofBound .numberRange (combine joinRange rs)).agrees
      (Value.ofBound .numberRange (combine joinRange ts)) = true := by
  obtain ⟨hlower, hupper⟩ := finite_sides hfinite
  rcases combine_cases joinRange hperm with ⟨h, h'⟩ | ⟨r, t, h, h'⟩
  · rw [h, h']
    rfl
  · rw [h, h']
    exact Bool.and_eq_true_iff.mpr
      ⟨sameBound_combine picks_min (fun _ _ => rfl) hperm hlower h h',
        sameBound_combine picks_max (fun _ _ => rfl) hperm hupper h h'⟩

/-- The range lies around the given ones, and each side of it is a side of one of them: an open one if there
is any. -/
structure Spans (r : Range Binary64) (rs : List (Range Binary64)) : Prop where
  within : ∀ t ∈ rs, t.Within r
  lower_open : r.lower = none ↔ ∃ t ∈ rs, t.lower = none
  upper_open : r.upper = none ↔ ∃ t ∈ rs, t.upper = none
  lower_mem : ∃ t ∈ rs, t.lower = r.lower
  upper_mem : ∃ t ∈ rs, t.upper = r.upper

theorem spans_combine {rs : List (Range Binary64)} {r : Range Binary64}
    (hfinite : ∀ t ∈ rs, (Value.numberRange t).isFinite = true) (h : combine joinRange rs = some r) :
    Spans r rs := by
  obtain ⟨hfl, hfu⟩ := finite_sides hfinite
  have hlower := outermost_combine picks_min (g := Range.lower) (fun _ _ => rfl) hfl h
  have hupper := outermost_combine picks_max (g := Range.upper) (fun _ _ => rfl) hfu h
  refine ⟨fun t ht => ⟨fun x hx => ?_, fun x hx => ?_⟩, ?_, ?_, List.mem_map.mp hlower.mem,
    List.mem_map.mp hupper.mem⟩
  · have hxf := hfl x (hx ▸ hlower.mem)
    obtain ⟨y, hy, hle⟩ := hlower.exists_bound hx (List.mem_map_of_mem ht)
    have hyf := hfl y (List.mem_map.mpr ⟨t, ht, hy⟩)
    exact ⟨y, hy, (Binary64.not_lt_iff hyf hxf).mpr (neg_le_neg_iff.mp hle)⟩
  · have hxf := hfu x (hx ▸ hupper.mem)
    obtain ⟨y, hy, hle⟩ := hupper.exists_bound hx (List.mem_map_of_mem ht)
    have hyf := hfu y (List.mem_map.mpr ⟨t, ht, hy⟩)
    exact ⟨y, hy, (Binary64.not_lt_iff hxf hyf).mpr hle⟩
  · rw [hlower.eq_none_iff, List.mem_map]
  · rw [hupper.eq_none_iff, List.mem_map]

section Lists

variable {kept all : List String}

/-- The items are those of the sequence, each at the place among them where it occurs there first. -/
structure FirstOccurrences (kept all : List String) : Prop where
  mem : ∀ s, s ∈ kept ↔ s ∈ all
  ordered : kept.Pairwise fun s t => all.idxOf s < all.idxOf t

theorem FirstOccurrences.nodup (h : FirstOccurrences kept all) : kept.Nodup :=
  h.ordered.imp fun hlt heq => hlt.ne (congrArg (all.idxOf ·) heq)

theorem FirstOccurrences.addItem (h : FirstOccurrences kept all) (item : String) :
    FirstOccurrences (if kept.contains item then kept else kept ++ [item]) (all ++ [item]) := by
  have hsame : ∀ s ∈ kept, (all ++ [item]).idxOf s = all.idxOf s := fun s hs =>
    List.idxOf_append_of_mem ((h.mem s).mp hs)
  have hordered : kept.Pairwise fun s t => (all ++ [item]).idxOf s < (all ++ [item]).idxOf t :=
    h.ordered.imp_of_mem fun hs ht hlt => by rwa [hsame _ hs, hsame _ ht]
  split_ifs with hin
  · have hkept : item ∈ kept := List.contains_iff_mem.mp hin
    refine ⟨fun s => ?_, hordered⟩
    rw [List.mem_append, List.mem_singleton, ← h.mem]
    exact ⟨.inl, fun hs => hs.elim id fun he => he ▸ hkept⟩
  · have hnew : item ∉ all := fun hall => hin (List.contains_iff_mem.mpr ((h.mem item).mpr hall))
    refine ⟨fun s => by rw [List.mem_append, List.mem_append, h.mem],
      List.pairwise_append.mpr ⟨hordered, List.pairwise_singleton _ _, fun s hs t ht => ?_⟩⟩
    obtain rfl := List.mem_singleton.mp ht
    have hs' : s ∈ all := (h.mem s).mp hs
    rw [hsame s hs, List.idxOf_append_of_notMem hnew]
    exact (List.idxOf_lt_length_of_mem hs').trans_le (Nat.le_add_right _ _)

theorem FirstOccurrences.addItems (h : FirstOccurrences kept all) (more : List String) :
    FirstOccurrences (addItems kept more) (all ++ more) := by
  induction more generalizing kept all with
  | nil => rwa [List.append_nil]
  | cons item rest ih =>
    have hrest := ih (h.addItem item)
    rwa [List.append_assoc] at hrest

theorem firstOccurrences_union (values : List Value) :
    FirstOccurrences ((values.map items).foldl Combinator.addItems []) (values.flatMap items) := by
  have hempty : FirstOccurrences [] [] := ⟨fun _ => Iff.rfl, List.Pairwise.nil⟩
  have hone : ∀ lists : List (List String), lists.foldl Combinator.addItems []
      = Combinator.addItems [] lists.flatten := fun lists => by
    unfold Combinator.addItems
    exact List.foldl_flatten.symm
  rw [hone]
  exact hempty.addItems _

theorem mem_flatMap_items {values : List Value} {s : String} :
    s ∈ values.flatMap items ↔ ∃ l, .list l ∈ values ∧ s ∈ l := by
  refine List.mem_flatMap.trans ⟨?_, fun ⟨l, hl, hs⟩ => ⟨.list l, hl, hs⟩⟩
  rintro ⟨v, hv, hs⟩
  cases v with
  | list l => exact ⟨l, hv, hs⟩
  | _ => cases hs

end Lists

theorem apply_perm {vs ws : List Value} (hperm : vs.Perm ws) (hfinite : ∀ v ∈ vs, v.isFinite = true) :
    (∀ f : Combinator, f ≠ .union → (f.apply vs).agrees (f.apply ws) = true) ∧
      (∃ kept kept', Combinator.union.apply vs = .list kept ∧ Combinator.union.apply ws = .list kept' ∧
        kept.Perm kept' ∧ kept.Nodup ∧ (∀ s, s ∈ kept ↔ ∃ l, .list l ∈ vs ∧ s ∈ l) ∧
        FirstOccurrences kept (vs.flatMap items)) ∧
      ((Combinator.widest.apply vs = .null ∧ ∀ r, .numberRange r ∉ vs) ∨
        ∃ r, Combinator.widest.apply vs = .numberRange r ∧ Spans r (vs.filterMap range?)) := by
  have hranges : ∀ r ∈ vs.filterMap range?, (Value.numberRange r).isFinite = true := fun r hr =>
    hfinite _ (mem_ranges.mp hr)
  have hnumbers : ∀ x ∈ vs.filterMap number?, x.isFinite = true := fun x hx =>
    hfinite _ (mem_numbers.mp hx)
  refine ⟨fun f hf => ?_, ?_, ?_⟩
  · cases f with
    | union => exact (hf rfl).elim
    | widest => exact agrees_combine_ranges (hperm.filterMap range?) hranges
    | max => exact agrees_combine_numbers picks_max (hperm.filterMap number?) hnumbers
    | min => exact agrees_combine_numbers picks_min (hperm.filterMap number?) hnumbers
  · have hunion := firstOccurrences_union vs
    have hunion' := firstOccurrences_union ws
    have hmem : ∀ s, s ∈ vs.flatMap items ↔ s ∈ ws.flatMap items := fun _ =>
      (hperm.flatMap_right items).mem_iff
    refine ⟨_, _, rfl, rfl, ?_, hunion.nodup, fun s => (hunion.mem s).trans mem_flatMap_items, hunion⟩
    exact (List.perm_ext_iff_of_nodup hunion.nodup hunion'.nodup).mpr fun s =>
      (hunion.mem s).trans ((hmem s).trans (hunion'.mem s).symm)
  · cases h : combine joinRange (vs.filterMap range?) with
    | none =>
      have hnil := combine_eq_none_iff.mp h
      refine .inl ⟨by simp [apply, h, Value.ofBound], fun r hr => ?_⟩
      exact List.not_mem_nil (hnil ▸ mem_ranges.mpr hr)
    | some r => exact .inr ⟨r, by simp [apply, h, Value.ofBound], spans_combine hranges h⟩

theorem apply_perm_reversed :
    let vs : List Value := [.number .zero, .number (Binary64.neg .zero), .list ["b", "a"], .list ["a", "c"],
      .numberRange ⟨some .one, none⟩, .numberRange ⟨some .zero, some .one⟩]
    vs.Perm vs.reverse ∧ (∀ v ∈ vs, v.isFinite = true) ∧
      Combinator.max.apply vs ≠ Combinator.max.apply vs.reverse ∧
      (Combinator.max.apply vs).agrees (Combinator.max.apply vs.reverse) = true ∧
      Combinator.union.apply vs = .list ["b", "a", "c"] ∧
      Combinator.union.apply vs.reverse = .list ["a", "c", "b"] ∧
      Combinator.widest.apply vs = .numberRange ⟨some .zero, none⟩ := by
  intro vs
  have hperm : vs.Perm vs.reverse := vs.reverse_perm.symm
  have hfinite : ∀ v ∈ vs, v.isFinite = true := by decide +kernel
  refine ⟨hperm, hfinite, by decide +kernel, ?_, by decide +kernel, by decide +kernel, by decide +kernel⟩
  exact (apply_perm hperm hfinite).1 .max (by decide)

end Combinator

end LinkedControls
