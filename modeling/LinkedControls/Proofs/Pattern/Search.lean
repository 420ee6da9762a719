import LinkedControls.Proofs.Pattern.Places

/-!
What a pattern matches, as a relation between places, and that the search by sets of places finds
exactly that.
-/

namespace LinkedControls

namespace Pattern

open Place (Ordered Ahead)

inductive Times (r : Place → Place → Prop) : Nat → Place → Place → Prop
  | zero (a : Place) : Times r 0 a a
  | succ {n : Nat} {a b c : Place} : r a b → Times r n b c → Times r (n + 1) a c

namespace Times

variable {r : Place → Place → Prop} {a b c : Place} {m n : Nat}

theorem zero_iff : Times r 0 a b ↔ b = a := by
  constructor
  · rintro ⟨⟩
    rfl
  · rintro rfl
    exact .zero _

theorem succ_iff : Times r (n + 1) a c ↔ ∃ b, r a b ∧ Times r n b c := by
  constructor
  · rintro (_ | ⟨h, h'⟩)
    exact ⟨_, h, h'⟩
  · rintro ⟨b, h, h'⟩
    exact .succ h h'

theorem add_iff : Times r (m + n) a c ↔ ∃ b, Times r m a b ∧ Times r n b c := by
  induction m generalizing a with
  | zero => simp [zero_iff]
  | succ m ih =>
    rw [Nat.succ_add, succ_iff]
    constructor
    · rintro ⟨a', h, h'⟩
      obtain ⟨b, hm, hn⟩ := ih.mp h'
      exact ⟨b, .succ h hm, hn⟩
    · rintro ⟨b, _ | ⟨h, hm⟩, hn⟩
      exact ⟨_, h, ih.mpr ⟨b, hm, hn⟩⟩

theorem ahead (hr : ∀ a b, r a b → a.Ahead b) (h : Times r n a b) : a.Ahead b := by
  induction h with
  | zero => exact .refl _
  | succ h _ ih => exact (hr _ _ h).trans ih

-- steps that stay where they are can be left out, and the text bounds the number of the others
theorem bounded (hr : ∀ a b, r a b → a.Ahead b) (h : Times r n a b) :
    ∃ k ≤ n, k ≤ a.rest.length ∧ Times r k a b := by
  induction h with
  | zero => exact ⟨0, Nat.le_refl _, Nat.zero_le _, .zero _⟩
  | succ h _ ih =>
    obtain ⟨k, hn, hlength, hk⟩ := ih
    rcases (hr _ _ h).eq_or_shorter with rfl | hlt
    · exact ⟨k, by omega, hlength, hk⟩
    · exact ⟨k + 1, by omega, by omega, .succ h hk⟩

end Times

def Leads : Pattern → Place → Place → Prop
  | .empty, a, b => b = a
  | .one set, a, b => a.pass set = some b
  | .assertion h, a, b => h.holds a = true ∧ b = a
  | .sequence p q, a, c => ∃ b, p.Leads a b ∧ q.Leads b c
  | .choice p q, a, b => p.Leads a b ∨ q.Leads a b
  | .repetition p least most, a, b =>
      ∃ n, least ≤ n ∧ (∀ m, most = some m → n ≤ max least m) ∧ Times p.Leads n a b

theorem Leads.ahead {p : Pattern} {a b : Place} (h : p.Leads a b) : a.Ahead b := by
  induction p generalizing a b with
  | empty => exact h ▸ .refl _
  | one set => exact .of_pass h
  | assertion => exact h.2 ▸ .refl _
  | sequence p q ihp ihq =>
    obtain ⟨c, hp, hq⟩ := h
    exact (ihp hp).trans (ihq hq)
  | choice p q ihp ihq => exact h.elim ihp ihq
  | repetition p least most ih =>
    obtain ⟨n, -, -, h⟩ := h
    exact h.ahead fun a b => ih

structure Follows (o : Place) (step : List Place → List Place) (r : Place → Place → Prop) :
    Prop where
  ordered : ∀ {ps}, Ordered o ps → Ordered o (step ps)
  mem_iff : ∀ {ps b}, Ordered o ps → (b ∈ step ps ↔ ∃ a ∈ ps, r a b)

namespace Follows

variable {o b : Place} {step : List Place → List Place} {r : Place → Place → Prop}
  {ps front seen : List Place}

theorem iterate (h : Follows o step r) (n : Nat) : Follows o (iterate step n) (Times r n) where
  ordered {ps} hps := by
    induction n generalizing ps with
    | zero => exact hps
    | succ n ih =>
      cases ps with
      | nil => exact hps
      | cons => exact ih (h.ordered hps)
  mem_iff {ps b} hps := by
    induction n generalizing ps with
    | zero => simp [Pattern.iterate, Times.zero_iff]
    | succ n ih =>
      cases ps with
      | nil => simp [Pattern.iterate]
      | cons p ps =>
        refine (ih (h.ordered hps)).trans ?_
        simp only [h.mem_iff hps, Times.succ_iff]
        constructor
        · rintro ⟨c, ⟨a, ha, hac⟩, hc⟩
          exact ⟨a, ha, c, hac, hc⟩
        · rintro ⟨a, ha, c, hac, hc⟩
          exact ⟨c, ⟨a, ha, hac⟩, hc⟩

theorem closed_mem (hclosed : ∀ a ∈ seen, ∀ b, r a b → b ∈ seen) {k : Nat} {a : Place}
    (ha : a ∈ seen) (h : Times r k a b) : b ∈ seen := by
  induction h with
  | zero => exact ha
  | succ h _ ih => exact ih (hclosed _ ha _ h)

-- what the search keeps from round to round is `hinner`: only places in front have steps that lead
-- out of the places seen
theorem spread (h : Follows o step r) (n : Nat) (hfront : Ordered o front) (hseen : Ordered o seen)
    (hsub : front ⊆ seen) (hinner : ∀ a ∈ seen, a ∉ front → ∀ b, r a b → b ∈ seen) :
    Ordered o (spread step n front seen) ∧
      ∀ b, b ∈ spread step n front seen ↔ ∃ a ∈ seen, ∃ k ≤ n, Times r k a b := by
  induction n generalizing front seen with
  | zero =>
    refine ⟨hseen, fun b => ⟨fun hb => ⟨b, hb, 0, Nat.le_refl _, .zero _⟩, ?_⟩⟩
    rintro ⟨a, ha, k, hk, hab⟩
    obtain rfl := Nat.le_zero.mp hk
    exact Times.zero_iff.mp hab ▸ ha
  | succ n ih =>
    have hstep := h.ordered hfront
    have hfresh {b} : b ∈ Place.remove (step front) seen ↔ (∃ a ∈ front, r a b) ∧ b ∉ seen := by
      rw [Place.mem_remove hstep hseen, h.mem_iff hfront]
    -- every step from a place seen ends at a place seen or at a fresh one
    have hnext : ∀ a ∈ seen, ∀ b, r a b → b ∉ seen → b ∈ Place.remove (step front) seen :=
      fun a ha b hab hb =>
        hfresh.mpr ⟨⟨a, Decidable.byContradiction fun h => hb (hinner a ha h b hab), hab⟩, hb⟩
    rw [Pattern.spread]
    split
    next hnone =>
      have hclosed : ∀ a ∈ seen, ∀ b, r a b → b ∈ seen := fun a ha b hab =>
        Decidable.byContradiction fun hb => by simpa [hnone] using hnext a ha b hab hb
      refine ⟨hseen, fun b => ⟨fun hb => ⟨b, hb, 0, Nat.zero_le _, .zero _⟩, ?_⟩⟩
      rintro ⟨a, ha, k, -, hab⟩
      exact closed_mem hclosed ha hab
    next =>
      generalize hf : Place.remove (step front) seen = fresh at hfresh hnext
      have hfo : Ordered o fresh := hf ▸ hstep.sublist (Place.remove_sublist _ _)
      have hmerge {b} := Place.mem_merge (a := b) hseen hfo
      obtain ⟨hord, hmem⟩ := ih hfo (hseen.merge hfo) (fun b hb => hmerge.mpr (.inr hb))
        fun a ha hnot b hab => hmerge.mpr <| Decidable.or_iff_not_imp_left.mpr
          (hnext a ((hmerge.mp ha).resolve_right hnot) b hab)
      refine ⟨hord, fun b => (hmem b).trans ⟨?_, ?_⟩⟩
      · rintro ⟨a, ha, k, hk, hab⟩
        rcases hmerge.mp ha with ha | ha
        · exact ⟨a, ha, k, by omega, hab⟩
        · obtain ⟨⟨c, hc, hca⟩, -⟩ := hfresh.mp ha
          exact ⟨c, hsub hc, k + 1, by omega, .succ hca hab⟩
      · rintro ⟨a, ha, k, hk, hab⟩
        cases hab with
        | zero => exact ⟨_, hmerge.mpr (.inl ha), 0, Nat.zero_le _, .zero _⟩
        | @succ k _ c _ hac hcb =>
          have hc := Decidable.or_iff_not_imp_left.mpr (hnext _ ha c hac)
          exact ⟨c, hmerge.mpr hc, k, by omega, hcb⟩

theorem repeated (h : Follows o step r) (hr : ∀ a b, r a b → a.Ahead b) (least : Nat)
    (most : Option Nat) :
    Follows o
      (fun ps =>
        let ps := Pattern.iterate step least ps
        let rounds := match most with
          | some m => min (m - least) (placesFrom ps)
          | none => placesFrom ps
        Pattern.spread step rounds ps ps)
      (fun a b => ∃ n, least ≤ n ∧ (∀ m, most = some m → n ≤ max least m) ∧ Times r n a b) := by
  have hleast := h.iterate least
  have hspread {ps} (hps : Ordered o ps) (n) :=
    h.spread n (hleast.ordered hps) (hleast.ordered hps) (List.Subset.refl _)
      fun a ha hnot => absurd ha hnot
  refine ⟨fun hps => (hspread hps _).1, fun {ps c} hps => ?_⟩
  refine ((hspread hps _).2 c).trans ?_
  simp only [hleast.mem_iff hps]
  constructor
  · rintro ⟨b, ⟨a, ha, hab⟩, k, hk, hbc⟩
    refine ⟨a, ha, least + k, Nat.le_add_right _ _, fun m hm => ?_, Times.add_iff.mpr ⟨b, hab, hbc⟩⟩
    simp only [hm] at hk
    omega
  · rintro ⟨a, ha, n, hn, hmost, hac⟩
    obtain ⟨k, rfl⟩ := Nat.exists_eq_add_of_le hn
    obtain ⟨b, hab, hbc⟩ := Times.add_iff.mp hac
    -- the places left bound the rounds that the search needs
    obtain ⟨j, hjk, hlength, hbc⟩ := hbc.bounded hr
    have hb := (hleast.ordered hps).lt_placesFrom ((hleast.mem_iff hps).mpr ⟨a, ha, hab⟩)
    refine ⟨b, ⟨a, ha, hab⟩, j, ?_, hbc⟩
    split
    next m =>
      have := hmost m rfl
      omega
    next => omega

end Follows

theorem follows_advance (o : Place) (p : Pattern) : Follows o p.advance p.Leads := by
  induction p with
  | empty => exact ⟨fun h => h, fun _ => by simp [advance, Leads]⟩
  | one set =>
    refine ⟨fun {ps} h => ⟨fun b hb => ?_, ?_⟩, fun _ => by simp [advance, Leads]⟩
    · obtain ⟨a, ha, hab⟩ := List.mem_filterMap.mp hb
      exact (h.ahead a ha).trans (.of_pass hab)
    · refine h.sorted.filterMap _ fun a a' hlt b hb b' hb' => ?_
      have := Place.offset_of_pass hb
      have := Place.offset_of_pass hb'
      omega
  | assertion =>
    refine ⟨fun h => h.sublist List.filter_sublist, fun _ => ?_⟩
    simp only [advance, Leads, List.mem_filter]
    constructor
    · rintro ⟨h, h'⟩
      exact ⟨_, h, h', rfl⟩
    · rintro ⟨_, h, h', rfl⟩
      exact ⟨h, h'⟩
  | sequence p q ihp ihq =>
    refine ⟨fun h => ihq.ordered (ihp.ordered h), fun h => ?_⟩
    simp only [advance, Leads, ihq.mem_iff (ihp.ordered h), ihp.mem_iff h]
    constructor
    · rintro ⟨b, ⟨a, ha, hab⟩, hbc⟩
      exact ⟨a, ha, b, hab, hbc⟩
    · rintro ⟨a, ha, b, hab, hbc⟩
      exact ⟨b, ⟨a, ha, hab⟩, hbc⟩
  | choice p q ihp ihq =>
    refine ⟨fun h => (ihp.ordered h).merge (ihq.ordered h), fun h => ?_⟩
    simp only [advance, Leads, Place.mem_merge (ihp.ordered h) (ihq.ordered h), ihp.mem_iff h,
      ihq.mem_iff h, and_or_left, exists_or]
  | repetition p least most ih => exact ih.repeated (fun _ _ => Leads.ahead) least most

theorem matchesAt_iff {p : Pattern} {a : Place} : p.matchesAt a = true ↔ ∃ b, p.Leads a b := by
  simp [matchesAt, List.eq_nil_iff_forall_not_mem,
    (follows_advance a p).mem_iff (.singleton (.refl a))]

def OccursIn (p : Pattern) (s : List Char) : Prop := ∃ a ∈ Place.all s, ∃ b, p.Leads a b

theorem isIn_iff {p : Pattern} {s : List Char} : p.isIn s = true ↔ p.OccursIn s := by
  have hmem b := (follows_advance _ p).mem_iff (b := b) (Ordered.allFrom 0 none s)
  rw [isIn, OccursIn, Bool.not_eq_true', List.isEmpty_eq_false_iff_exists_mem]
  constructor
  · rintro ⟨b, hb⟩
    obtain ⟨a, ha, hab⟩ := (hmem b).mp hb
    exact ⟨a, ha, b, hab⟩
  · rintro ⟨a, ha, b, hab⟩
    exact ⟨b, (hmem b).mpr ⟨a, ha, hab⟩⟩

end Pattern

end LinkedControls
