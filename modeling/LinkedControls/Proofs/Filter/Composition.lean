import LinkedControls.Proofs.Filter.Ranking
import Mathlib.Data.Bool.AllAny

/-!
Filters one after the other. Tests of single records may be done in any order and at any time before the
rankings, and what is left is a part of the records in their order. Rankings that count records keep what
they have kept.
-/

namespace LinkedControls

open Decimal Ranking

namespace Predicate

variable {p : Predicate} {records kept : List Record}

theorem isRanking_iff :
    p.isRanking = true ↔ ∃ n direction percentile, p.condition = .topN n direction percentile := by
  unfold isRanking
  cases p.condition <;> simp

theorem accepts_of_isRanking (h : p.isRanking = true) (record : Record) : p.accepts record = true := by
  obtain ⟨n, direction, percentile, hp⟩ := isRanking_iff.mp h
  simp only [accepts, hp, Condition.accepts]

theorem hidesAll_of_isRanking (h : p.isRanking = true) : p.hidesAll = false := by
  obtain ⟨n, direction, percentile, hp⟩ := isRanking_iff.mp h
  simp only [hidesAll, hp]

theorem rank_sublist (p : Predicate) (records : List Record) : (rank records p).Sublist records := by
  unfold rank
  split
  · exact (keeps_select ..).sublist
  · exact .refl _

theorem foldl_rank_sublist (rankings : List Predicate) (records : List Record) :
    (rankings.foldl rank records).Sublist records := by
  induction rankings generalizing records with
  | nil => exact .refl _
  | cons p rankings ih => exact (ih (rank records p)).trans (p.rank_sublist records)

/-- The predicate is not a ranking that keeps a share of the records. -/
def Counts (p : Predicate) : Prop := ∀ n direction, p.condition ≠ .topN n direction true

theorem Counts.rank_of_sublist (h : p.Counts) (hkept : kept.Sublist (rank records p)) :
    rank kept p = kept := by
  cases hp : p.condition with
  | topN n direction percentile =>
    cases percentile with
    | true => exact absurd hp (h n direction)
    | false =>
      simp only [rank, hp] at hkept ⊢
      have hlength := hkept.length_le.trans ((keeps_select ..).length.trans_le (Nat.min_le_left _ _))
      rw [select, if_pos (keepCount_false n _ kept.length ▸ hlength)]
  | _ => simp only [rank, hp]

theorem foldl_rank_of_sublist {rankings : List Predicate} (h : ∀ p ∈ rankings, p.Counts)
    (hkept : kept.Sublist (rankings.foldl rank records)) : rankings.foldl rank kept = kept := by
  induction rankings generalizing records with
  | nil => rfl
  | cons p rankings ih =>
    obtain ⟨hp, hrankings⟩ := List.forall_mem_cons.mp h
    have hfirst := hkept.trans (foldl_rank_sublist rankings (rank records p))
    rw [List.foldl_cons, hp.rank_of_sublist hfirst]
    exact ih hrankings hkept

end Predicate

variable {records kept : List Record} {ps qs : List Predicate}

def accepted (ps : List Predicate) (records : List Record) : List Record :=
  records.filter fun record => ps.all (·.accepts record)

theorem accepted_append : accepted (ps ++ qs) records = accepted qs (accepted ps records) := by
  simp only [accepted, List.all_append, List.filter_filter, Bool.and_comm]

theorem accepted_of_sublist (h : kept.Sublist (accepted ps records)) : accepted ps kept = kept :=
  List.filter_eq_self.mpr fun _ hrecord => (List.mem_filter.mp (h.subset hrecord)).2

theorem applyFilters_eq (records : List Record) (ps : List Predicate) :
    applyFilters records ps = if ps.any (·.hidesAll) then []
      else (ps.filter (·.isRanking)).foldl Predicate.rank (accepted ps records) := by
  unfold applyFilters accepted
  refine if_congr Iff.rfl rfl (congrArg (List.foldl Predicate.rank · _) ?_)
  refine List.filter_congr fun record _ => ?_
  rw [List.all_map, List.all_filter]
  refine List.all_congr rfl fun p => ?_
  cases h : p.isRanking with
  | true => simp [Predicate.accepts_of_isRanking h]
  | false => rfl

theorem applyFilters_singleton {p : Predicate} (h : p.isRanking = true) (records : List Record) :
    applyFilters records [p] = Predicate.rank records p := by
  have haccepted : accepted [p] records = records :=
    List.filter_eq_self.mpr fun record _ => by simp [Predicate.accepts_of_isRanking h]
  have hhidden : [p].any (·.hidesAll) = false := by simp [Predicate.hidesAll_of_isRanking h]
  rw [applyFilters_eq, haccepted, hhidden, if_neg Bool.false_ne_true, List.filter_cons_of_pos h]
  rfl

theorem applyFilters_of_test {p : Predicate} (hranking : p.isRanking = false)
    (hhidden : p.hidesAll = false) (records : List Record) :
    applyFilters records [p] = records.filter p.accepts := by
  have hall : [p].any (·.hidesAll) = false := by simp [hhidden]
  rw [applyFilters_eq, hall, if_neg Bool.false_ne_true, List.filter_cons_of_neg (by simp [hranking]),
    List.filter_nil, List.foldl_nil, accepted]
  simp only [List.all_cons, List.all_nil, Bool.and_true]

theorem mem_applyFilters_singleton {p : Predicate} (hranking : p.isRanking = false)
    (hhidden : p.hidesAll = false) {record : Record} :
    record ∈ applyFilters records [p] ↔ record ∈ records ∧ p.accepts record = true := by
  rw [applyFilters_of_test hranking hhidden, List.mem_filter]

theorem applyFilters_sublist (records : List Record) (ps : List Predicate) :
    (applyFilters records ps).Sublist records := by
  rw [applyFilters_eq]
  split
  · exact List.nil_sublist _
  · exact (Predicate.foldl_rank_sublist ..).trans List.filter_sublist

theorem applyFilters_append (h : ∀ p ∈ ps, p.isRanking = false) (records : List Record)
    (qs : List Predicate) :
    applyFilters records (ps ++ qs) = applyFilters (applyFilters records ps) qs := by
  have hnone : ps.filter (·.isRanking) = [] := List.filter_eq_nil_iff.mpr fun p hp => by simp [h p hp]
  cases hhidden : ps.any (·.hidesAll) with
  | true =>
    have hempty : applyFilters records ps = [] := by rw [applyFilters_eq, hhidden, if_pos rfl]
    rw [hempty, List.sublist_nil.mp (applyFilters_sublist [] qs), applyFilters_eq, List.any_append,
      hhidden, Bool.true_or, if_pos rfl]
  | false =>
    rw [applyFilters_eq records ps, applyFilters_eq, applyFilters_eq, List.any_append, hhidden,
      List.filter_append, hnone, accepted_append]
    rfl

theorem applyFilters_perm (h : ps.Perm qs) (hrankings : ps.filter (·.isRanking) = qs.filter (·.isRanking))
    (records : List Record) : applyFilters records ps = applyFilters records qs := by
  have haccepted : accepted ps records = accepted qs records :=
    List.filter_congr fun record _ => h.all_eq
  rw [applyFilters_eq, applyFilters_eq, h.any_eq, hrankings, haccepted]

theorem applyFilters_composes (records : List Record) :
    (∀ ps qs : List Predicate, (∀ p ∈ ps, p.isRanking = false) →
      applyFilters records (ps ++ qs) = applyFilters (applyFilters records ps) qs) ∧
    (∀ ps qs : List Predicate, ps.Perm qs → ps.filter (·.isRanking) = qs.filter (·.isRanking) →
      applyFilters records ps = applyFilters records qs) ∧
    ∀ ps : List Predicate, (applyFilters records ps).Sublist records :=
  ⟨fun _ qs h => applyFilters_append h records qs,
    fun _ _ h hrankings => applyFilters_perm h hrankings records, applyFilters_sublist records⟩

def orders : List Record :=
  [[("region", .text "US"), ("amount", .ofNat 120)], [("region", .text "EU"), ("amount", .ofNat 80)],
    [("region", .text "US"), ("amount", .text "n/a")]]

def inRegion : Predicate := ⟨"region", .text, "region", .text ⟨.equals, false⟩ "US" true⟩

def topAmounts (n : ℕ) : Predicate := ⟨"top", .number, "amount", .topN (.ofNat n) .top false⟩

theorem applyFilters_composes_orders :
    (∀ p ∈ [inRegion], p.isRanking = false) ∧
    applyFilters orders ([inRegion] ++ [topAmounts 1]) =
      applyFilters (applyFilters orders [inRegion]) [topAmounts 1] ∧
    [topAmounts 1, inRegion].Perm [inRegion, topAmounts 1] ∧
    [topAmounts 1, inRegion].filter (·.isRanking) = [inRegion, topAmounts 1].filter (·.isRanking) ∧
    applyFilters orders [topAmounts 1, inRegion] = applyFilters orders [inRegion, topAmounts 1] ∧
    (applyFilters orders [topAmounts 1]).Sublist orders :=
  have h := applyFilters_composes orders
  have htests : ∀ p ∈ [inRegion], p.isRanking = false := by decide
  ⟨htests, h.1 _ _ htests, .swap _ _ _, rfl, h.2.1 _ _ (.swap _ _ _) rfl, h.2.2 _⟩

theorem applyFilters_idempotent (records : List Record)
    (h : ∀ p ∈ ps, ∀ n direction, p.condition ≠ .topN n direction true) :
    applyFilters (applyFilters records ps) ps = applyFilters records ps := by
  cases hhidden : ps.any (·.hidesAll) with
  | true => rw [applyFilters_eq, applyFilters_eq, hhidden, if_pos rfl, if_pos rfl]
  | false =>
    have hpass (records : List Record) : applyFilters records ps =
        (ps.filter (·.isRanking)).foldl Predicate.rank (accepted ps records) := by
      rw [applyFilters_eq, hhidden, if_neg Bool.false_ne_true]
    rw [hpass (applyFilters records ps), hpass records,
      accepted_of_sublist (Predicate.foldl_rank_sublist ..)]
    exact Predicate.foldl_rank_of_sublist (fun p hp => h p (List.mem_of_mem_filter hp)) (.refl _)

theorem applyFilters_idempotent_orders :
    (∀ p ∈ [topAmounts 2, inRegion, topAmounts 1], ∀ n direction,
      p.condition ≠ .topN n direction true) ∧
    applyFilters (applyFilters orders [topAmounts 2, inRegion, topAmounts 1])
        [topAmounts 2, inRegion, topAmounts 1] =
      applyFilters orders [topAmounts 2, inRegion, topAmounts 1] := by
  have h : ∀ p ∈ [topAmounts 2, inRegion, topAmounts 1], ∀ n direction,
      p.condition ≠ .topN n direction true := by simp [topAmounts, inRegion]
  exact ⟨h, applyFilters_idempotent orders h⟩

end LinkedControls
