import LinkedControls.Filter.Apply
import LinkedControls.Proofs.Decimal.Exact
import Mathlib.Data.List.Nodup
import Mathlib.Order.WithBot

/-!
What a ranking keeps: as many records as it counts, in their order, and each of them ranks before every
record that it drops. Numbers rank before all else, by their values; records that rank alike are ranked by
their places.
-/

namespace LinkedControls

open Decimal

theorem Field.isFinite_of_number? {j : Json} {x : Binary64} (h : Field.number? j = some x) :
    x.isFinite = true := by
  unfold Field.number? at h
  split at h
  · exact (Option.filter_eq_some_iff.mp h).2
  · exact (Option.filter_eq_some_iff.mp h).2
  · cases h

namespace Direction

def Better : Direction → ℚ → ℚ → Prop
  | .top, x, y => y < x
  | .bottom, x, y => x < y

def signed : Direction → ℚ → ℚ
  | .top, x => -x
  | .bottom, x => x

variable {direction : Direction} {x y : ℚ}

theorem signed_lt_iff : direction.signed x < direction.signed y ↔ direction.Better x y := by
  cases direction with
  | top => exact neg_lt_neg_iff
  | bottom => exact Iff.rfl

theorem signed_inj : direction.signed x = direction.signed y ↔ x = y := by
  cases direction with
  | top => exact neg_inj
  | bottom => exact Iff.rfl

end Direction

namespace Ranking

variable {column : String} {direction : Direction}

/-- The number in a field, as the double next to it: a finite one that is given as such, or as a text
without regard to the blanks around it. -/
def fieldNumber? : Json → Option ℚ
  | .number n => n.toBinary64.value?
  | .text s => (Binary64.ofText? (Text.trim s.toList)).bind (·.value?)
  | _ => none

def number? (column : String) (record : Record) : Option ℚ :=
  (record.lookup column).bind fieldNumber?

/-- The order of ranking, between records given by their numbers and places. -/
inductive RanksBefore (direction : Direction) : Option ℚ × ℕ → Option ℚ × ℕ → Prop
  | number {x i j} : RanksBefore direction (some x, i) (none, j)
  | value {x y i j} (h : direction.Better x y) : RanksBefore direction (some x, i) (some y, j)
  | place {a i j} (h : i < j) : RanksBefore direction (a, i) (a, j)

def chosenAt (records : List Record) (chosen : ℕ → Bool) : List Record :=
  (records.zipIdx.filter fun r => chosen r.2).map (·.1)

structure Keeps (column : String) (direction : Direction) (k : ℕ) (records kept : List Record) :
    Prop where
  sublist : kept.Sublist records
  length : kept.length = min k records.length
  ranked : ∃ chosen : ℕ → Bool,
    kept = chosenAt records chosen ∧
      ∀ i j (hi : i < records.length) (hj : j < records.length), chosen i = true → chosen j = false →
        RanksBefore direction (number? column records[i], i) (number? column records[j], j)

def grade (direction : Direction) : Option ℚ → WithTop ℚ
  | some x => (direction.signed x : ℚ)
  | none => ⊤

theorem ranksBefore_iff_grade {a b : Option ℚ × ℕ} :
    RanksBefore direction a b ↔
      grade direction a.1 < grade direction b.1 ∨
        grade direction a.1 = grade direction b.1 ∧ a.2 < b.2 := by
  obtain ⟨a, i⟩ := a
  obtain ⟨b, j⟩ := b
  constructor
  · intro h
    cases h with
    | number => exact .inl (WithTop.coe_lt_top _)
    | value hbetter => exact .inl (WithTop.coe_lt_coe.mpr (Direction.signed_lt_iff.mpr hbetter))
    | place hij => exact .inr ⟨rfl, hij⟩
  · intro h
    cases a with
    | none =>
      cases b with
      | none => exact .place (h.resolve_left (lt_irrefl _)).2
      | some y => simp [grade] at h
    | some x =>
      cases b with
      | none => exact .number
      | some y =>
        simp only [grade, WithTop.coe_lt_coe, WithTop.coe_inj, Direction.signed_lt_iff,
          Direction.signed_inj] at h
        rcases h with hbetter | ⟨rfl, hij⟩
        · exact .value hbetter
        · exact .place hij

instance : DecidableRel (RanksBefore direction) := fun _ _ =>
  decidable_of_iff _ ranksBefore_iff_grade.symm

theorem RanksBefore.asymm {a b : Option ℚ × ℕ} (h : RanksBefore direction a b) :
    ¬ RanksBefore direction b a := by
  rw [ranksBefore_iff_grade] at h ⊢
  rcases h with hbetter | ⟨halike, hplace⟩
  · rintro (hworse | ⟨halike, -⟩)
    · exact hbetter.asymm hworse
    · exact hbetter.ne' halike
  · rintro (hworse | ⟨-, hplace'⟩)
    · exact hworse.ne' halike
    · exact hplace.asymm hplace'

theorem map_value_filter (x? : Option Binary64) :
    (x?.filter (·.isFinite)).map (·.value) = x?.bind (·.value?) := by
  cases x? with
  | none => rfl
  | some x => cases hx : x.isFinite <;> simp [Option.filter_some, Binary64.value?, hx]

theorem map_value_number? (field : Json) :
    (Field.number? field).map (·.value) = fieldNumber? field := by
  cases field with
  | number n => exact map_value_filter (some n.toBinary64)
  | text s => exact map_value_filter _
  | _ => rfl

theorem map_value_key (column : String) (record : Record) :
    (key column record).map (·.value) = number? column record := by
  rw [key, number?, Option.map_bind]
  exact congrArg _ (funext map_value_number?)

theorem isFinite_of_key {record : Record} {x : Binary64} (h : key column record = some x) :
    x.isFinite = true := by
  obtain ⟨j, -, hj⟩ := Option.bind_eq_some_iff.mp h
  exact Field.isFinite_of_number? hj

theorem precedes_key (direction : Direction) (r r' : Record) :
    precedes direction (key column r) (key column r') =
      decide (grade direction (number? column r) ≤ grade direction (number? column r')) := by
  rw [← map_value_key, ← map_value_key]
  cases hr : key column r with
  | none => cases key column r' <;> simp [precedes, grade]
  | some x =>
    cases hr' : key column r' with
    | none => simp [precedes, grade]
    | some y =>
      have hxy := Binary64.lt_eq_decide (isFinite_of_key hr) (isFinite_of_key hr')
      have hyx := Binary64.lt_eq_decide (isFinite_of_key hr') (isFinite_of_key hr)
      simp only [Option.map_some, grade, WithTop.coe_le_coe]
      cases direction with
      | top => simp [precedes, Direction.signed, hxy, ← not_lt]
      | bottom => simp [precedes, Direction.signed, hyx, ← not_lt]

theorem nodup_places {α : Type} (l : List α) : (l.zipIdx.map (·.2)).Nodup := by
  rw [List.zipIdx_map_snd]
  exact List.nodup_range'

theorem place_eq {α : Type} {l : List α} {a : α} {i j : ℕ} (h : ((a, i), j) ∈ l.zipIdx.zipIdx) :
    i = j := by
  rw [List.mk_mem_zipIdx_iff_getElem?, List.getElem?_zipIdx] at h
  obtain ⟨b, -, hb⟩ := Option.map_eq_some_iff.mp h
  cases hb
  exact Nat.zero_add j

theorem pairwise_mergeSort_zipIdx {β : Type} [LinearOrder β] (l : List β) :
    (l.zipIdx.mergeSort fun a b => decide (a.1 ≤ b.1)).Pairwise
      fun a b => a.1 < b.1 ∨ a.1 = b.1 ∧ a.2 < b.2 := by
  set le : β × ℕ → β × ℕ → Bool := fun a b => decide (a.1 ≤ b.1) with hle
  -- the places are given once more, for the sorting that breaks ties by them
  set ranked := l.zipIdx.zipIdx.mergeSort (List.zipIdxLE le)
  have hsorted : ranked.Pairwise fun a b => List.zipIdxLE le a b := by
    refine List.pairwise_mergeSort (List.zipIdxLE_trans ?_) (List.zipIdxLE_total ?_) _
    · intro a b c hab hbc
      simp only [hle, decide_eq_true_iff] at hab hbc ⊢
      exact hab.trans hbc
    · intro a b
      simpa [hle] using le_total a.1 b.1
  have hplaces : ranked.Pairwise fun a b => a.2 ≠ b.2 := by
    refine List.pairwise_map.mp ?_
    exact ((List.mergeSort_perm _ _).map _).nodup_iff.mpr (nodup_places _)
  rw [← List.mergeSort_zipIdx, List.pairwise_map]
  refine (hsorted.and hplaces).imp_of_mem ?_
  rintro ⟨⟨a, i⟩, i'⟩ ⟨⟨b, j⟩, j'⟩ ha hb ⟨hab, hne⟩
  obtain rfl := place_eq (List.mem_mergeSort.mp ha)
  obtain rfl := place_eq (List.mem_mergeSort.mp hb)
  have hcases : a ≤ b ∧ (a < b ∨ i ≤ j) := by simpa [List.zipIdxLE, hle] using hab
  rcases hcases.1.lt_or_eq with hlt | heq
  · exact .inl hlt
  · have hij : i ≤ j := hcases.2.resolve_left (heq.not_lt)
    exact .inr ⟨heq, lt_of_le_of_ne hij hne⟩

variable {records : List Record} {k : ℕ}

def ranking (records : List Record) (column : String) (direction : Direction) :
    List (WithTop ℚ × ℕ) :=
  (records.map fun r => grade direction (number? column r)).zipIdx.mergeSort
    fun a b => decide (a.1 ≤ b.1)

theorem best_eq :
    best records column direction k = ((ranking records column direction).take k).map (·.2) := by
  set ranked := records.zipIdx.mergeSort fun a b =>
    precedes direction (key column a.1) (key column b.1)
  have hkeys : (records.map (key column)).zipIdx.mergeSort (fun a b => precedes direction a.1 b.1) =
      ranked.map (Prod.map (key column) id) := by
    rw [List.zipIdx_map]
    exact (List.map_mergeSort (f := Prod.map (key column) id) fun _ _ _ _ => rfl).symm
  have hgrades : ranking records column direction =
      ranked.map (Prod.map (fun r => grade direction (number? column r)) id) := by
    rw [ranking, List.zipIdx_map]
    exact (List.map_mergeSort fun a _ b _ => precedes_key direction a.1 b.1).symm
  simp only [best, hkeys, hgrades, ← List.map_take, List.map_map]
  rfl

theorem mem_ranking_iff {g : WithTop ℚ} {i : ℕ} :
    (g, i) ∈ ranking records column direction ↔
      ∃ h : i < records.length, grade direction (number? column records[i]) = g := by
  rw [ranking, List.mem_mergeSort, List.mk_mem_zipIdx_iff_getElem?, List.getElem?_map,
    Option.map_eq_some_iff]
  simp [List.getElem?_eq_some_iff]

theorem mem_best_iff {i : ℕ} :
    i ∈ best records column direction k ↔ ∃ g, (g, i) ∈ (ranking records column direction).take k := by
  rw [best_eq, List.mem_map]
  simp

theorem nodup_best : (best records column direction k).Nodup := by
  have hplaces : ((ranking records column direction).map (·.2)).Nodup :=
    ((List.mergeSort_perm _ _).map _).nodup_iff.mpr (nodup_places _)
  rw [best_eq]
  exact hplaces.sublist ((List.take_sublist _ _).map _)

theorem lt_length_of_mem_best {i : ℕ} (h : i ∈ best records column direction k) :
    i < records.length := by
  obtain ⟨g, hg⟩ := mem_best_iff.mp h
  exact (mem_ranking_iff.mp (List.mem_of_mem_take hg)).1

theorem length_best (h : k ≤ records.length) : (best records column direction k).length = k := by
  simp [best_eq, ranking, h]

theorem ranksBefore_of_best {i j : ℕ} (hi : i < records.length) (hj : j < records.length)
    (hbest : i ∈ best records column direction k) (hrest : j ∉ best records column direction k) :
    RanksBefore direction (number? column records[i], i) (number? column records[j], j) := by
  obtain ⟨g, hkept⟩ := mem_best_iff.mp hbest
  obtain ⟨_, rfl⟩ := mem_ranking_iff.mp (List.mem_of_mem_take hkept)
  have hranked : (_, j) ∈ ranking records column direction := mem_ranking_iff.mpr ⟨hj, rfl⟩
  rw [← List.take_append_drop k (ranking ..), List.mem_append] at hranked
  have hdropped := hranked.resolve_left fun hkept => hrest (mem_best_iff.mpr ⟨_, hkept⟩)
  exact ranksBefore_iff_grade.mpr
    ((pairwise_mergeSort_zipIdx _).rel_of_mem_take_of_mem_drop hkept hdropped)

theorem chosenAt_sublist (records : List Record) (chosen : ℕ → Bool) :
    (chosenAt records chosen).Sublist records := by
  have h := (List.filter_sublist (l := records.zipIdx) (p := fun r => chosen r.2)).map Prod.fst
  rwa [List.zipIdx_map_fst] at h

theorem chosenAt_true (records : List Record) : chosenAt records (fun _ => true) = records := by
  rw [chosenAt, List.filter_true, List.zipIdx_map_fst]

theorem chosenAt_congr {chosen chosen' : ℕ → Bool}
    (h : ∀ i < records.length, chosen i = chosen' i) :
    chosenAt records chosen = chosenAt records chosen' := by
  refine congrArg (List.map _) (List.filter_congr fun r hr => h r.2 ?_)
  simpa using List.snd_lt_of_mem_zipIdx hr

theorem length_chosenAt (records : List Record) (chosen : ℕ → Bool) :
    (chosenAt records chosen).length = ((List.range records.length).filter chosen).length := by
  rw [List.range_eq_range', ← List.zipIdx_map_snd, List.filter_map, chosenAt, List.length_map,
    List.length_map]
  rfl

theorem length_chosenAt_contains {places : List ℕ} (hnodup : places.Nodup)
    (hlt : ∀ i ∈ places, i < records.length) :
    (chosenAt records places.contains).length = places.length := by
  have hplaces : ((List.range records.length).filter places.contains).Perm places := by
    refine (List.perm_ext_iff_of_nodup (List.nodup_range.filter _) hnodup).mpr fun i => ?_
    rw [List.mem_filter, List.mem_range, List.contains_iff_mem]
    exact and_iff_right_of_imp (hlt i)
  rw [length_chosenAt, hplaces.length_eq]

theorem select_of_lt (h : k < records.length) :
    select records column direction k = chosenAt records (best records column direction k).contains := by
  rw [select, if_neg (Nat.not_le.mpr h), chosenAt, ← List.filterMap_eq_map, ← List.filterMap_eq_filter,
    List.filterMap_filterMap]
  refine List.filterMap_congr fun entry _ => ?_
  by_cases hchosen : entry.2 ∈ best records column direction k <;> simp [hchosen, Option.guard]

theorem keeps_chosenAt (chosen : ℕ → Bool)
    (hlength : (chosenAt records chosen).length = min k records.length)
    (h : ∀ i (hi : i < records.length) j (hj : j < records.length), chosen i = true → chosen j = false →
      RanksBefore direction (number? column records[i], i) (number? column records[j], j)) :
    Keeps column direction k records (chosenAt records chosen) :=
  ⟨chosenAt_sublist _ _, hlength, chosen, rfl, fun i j hi hj => h i hi j hj⟩

theorem keeps_select (records : List Record) (column : String) (direction : Direction) (k : ℕ) :
    Keeps column direction k records (select records column direction k) := by
  rcases Nat.lt_or_ge k records.length with hlt | hge
  · rw [select_of_lt hlt]
    refine keeps_chosenAt _ ?_ fun i hi j hj hchosen hdropped => ?_
    · rw [length_chosenAt_contains nodup_best fun i => lt_length_of_mem_best, length_best hlt.le,
        Nat.min_eq_left hlt.le]
    · exact ranksBefore_of_best hi hj (by simpa using hchosen) (by simpa using hdropped)
  · rw [select, if_pos hge]
    refine ⟨.refl _, (Nat.min_eq_right hge).symm, _, (chosenAt_true _).symm, ?_⟩
    intro i j hi hj hchosen hdropped
    cases hdropped

theorem exists_mem_not_mem {l l' : List ℕ} (hnodup : l.Nodup) (hlength : l'.length ≤ l.length)
    (hdiffer : ¬ l.Perm l') : ∃ i ∈ l, i ∉ l' := by
  by_contra! hsub
  exact hdiffer ((List.subperm_of_subset hnodup hsub).perm_of_length_le hlength)

theorem Keeps.unique {kept kept' : List Record} (h : Keeps column direction k records kept)
    (h' : Keeps column direction k records kept') : kept = kept' := by
  obtain ⟨-, hlength, chosen, rfl, hbefore⟩ := h
  obtain ⟨-, hlength', chosen', rfl, hbefore'⟩ := h'
  rw [length_chosenAt] at hlength hlength'
  set places := (List.range records.length).filter chosen
  set places' := (List.range records.length).filter chosen'
  have hnodup : places.Nodup := List.nodup_range.filter _
  have hnodup' : places'.Nodup := List.nodup_range.filter _
  have hmem {c : ℕ → Bool} {i : ℕ} : i ∈ (List.range records.length).filter c ↔
      i < records.length ∧ c i = true := by rw [List.mem_filter, List.mem_range]
  have hsame : places.Perm places' := by
    by_contra hdiffer
    have hlength : places.length = places'.length := hlength.trans hlength'.symm
    obtain ⟨i, hi, hi'⟩ := exists_mem_not_mem hnodup hlength.ge hdiffer
    obtain ⟨j, hj, hj'⟩ := exists_mem_not_mem hnodup' hlength.le (hdiffer ·.symm)
    obtain ⟨hilt, hichosen⟩ := hmem.mp hi
    obtain ⟨hjlt, hjchosen⟩ := hmem.mp hj
    -- each of the two records would rank before the other one
    refine (hbefore i j hilt hjlt hichosen ?_).asymm (hbefore' j i hjlt hilt hjchosen ?_)
    · exact Bool.eq_false_of_not_eq_true fun hchosen => hj' (hmem.mpr ⟨hjlt, hchosen⟩)
    · exact Bool.eq_false_of_not_eq_true fun hchosen => hi' (hmem.mpr ⟨hilt, hchosen⟩)
  refine chosenAt_congr fun i hi => Bool.eq_iff_iff.mpr (and_congr_right_iff.mp ?_ hi)
  exact hmem.symm.trans (hsame.mem_iff.trans hmem)

theorem keeps_iff {kept : List Record} :
    Keeps column direction k records kept ↔ kept = select records column direction k := by
  constructor
  · exact fun h => h.unique (keeps_select ..)
  · rintro rfl
    exact keeps_select ..

theorem keepCount_false (n : Binary64) (size size' : ℕ) :
    keepCount n false size = keepCount n false size' := by
  simp only [keepCount, Bool.false_eq_true, if_false]

theorem rank_keeps_best (records : List Record) (column : String) (direction : Direction) :
    (∀ k kept, Keeps column direction k records kept ↔ kept = select records column direction k) ∧
    ∀ (control : String) (kind : Kind) (n : Binary64) (percentile : Bool),
      (∀ kept, Keeps column direction (keepCount n percentile records.length) records kept ↔
        kept = Predicate.rank records ⟨control, kind, column, .topN n direction percentile⟩) ∧
      (keepCount n false records.length : ℕ∞) = (sizeLimit : ℕ∞) ⊓ n.wholePart :=
  ⟨fun _ _ => keeps_iff, fun _ _ n _ =>
    ⟨fun _ => keeps_iff, Binary64.floorNat_max_zero sizeLimit n⟩⟩

def mixedTotals : List Record :=
  [[("total", .ofNat 40)], [("total", .null)], [("total", .text " 4e1 ")], [("total", .text "inf")],
    [("total", .number (.double (.ofNat 125)))], [("name", .text "unsold")]]

theorem rank_keeps_best_mixedTotals :
    mixedTotals.map (number? "total") = [some 40, none, some 40, none, some 125, none] ∧
    select mixedTotals "total" .top 2 = [mixedTotals[0], mixedTotals[4]] ∧
    select mixedTotals "total" .bottom 2 = [mixedTotals[0], mixedTotals[2]] ∧
    select mixedTotals "total" .top 4 = [mixedTotals[0], mixedTotals[1], mixedTotals[2], mixedTotals[4]] := by
  have hlargest : Keeps "total" .top 2 mixedTotals [mixedTotals[0], mixedTotals[4]] :=
    keeps_chosenAt [0, 4].contains rfl (by decide +kernel)
  have hsmallest : Keeps "total" .bottom 2 mixedTotals [mixedTotals[0], mixedTotals[2]] :=
    keeps_chosenAt [0, 2].contains rfl (by decide +kernel)
  have hfour : Keeps "total" .top 4 mixedTotals
      [mixedTotals[0], mixedTotals[1], mixedTotals[2], mixedTotals[4]] :=
    keeps_chosenAt [0, 1, 2, 4].contains rfl (by decide +kernel)
  refine ⟨by decide +kernel, ?_, ?_, ?_⟩
  · exact (((rank_keeps_best mixedTotals "total" .top).1 _ _).mp hlargest).symm
  · exact (((rank_keeps_best mixedTotals "total" .bottom).1 _ _).mp hsmallest).symm
  · exact (((rank_keeps_best mixedTotals "total" .top).1 _ _).mp hfour).symm

end Ranking

end LinkedControls
