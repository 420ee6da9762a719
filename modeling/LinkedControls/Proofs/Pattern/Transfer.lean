import LinkedControls.Proofs.Pattern.Search

/-!
Matches carried from one text over to another, and what the text of a match is made of.
-/

namespace LinkedControls

namespace Pattern

def sets : Pattern → List CharSet
  | .empty => []
  | .one set => [set]
  | .assertion _ => []
  | .sequence p q => p.sets ++ q.sets
  | .choice p q => p.sets ++ q.sets
  | .repetition p _ _ => p.sets

def assertions : Pattern → List Assertion
  | .empty => []
  | .one _ => []
  | .assertion a => [a]
  | .sequence p q => p.assertions ++ q.assertions
  | .choice p q => p.assertions ++ q.assertions
  | .repetition p _ _ => p.assertions

def needs (f : CharSet → Bool) : Pattern → Bool
  | .empty => false
  | .one set => f set
  | .assertion _ => false
  | .sequence p q => p.needs f || q.needs f
  | .choice p q => p.needs f && q.needs f
  | .repetition p least _ => p.needs f && 1 ≤ least

variable {p : Pattern} {a b a' : Place}

theorem Times.transfer {r : Place → Place → Prop} {T : Place → Place → Prop} {n : Nat}
    (hr : ∀ {a b a'}, r a b → T a a' → ∃ b', r a' b' ∧ T b b') (h : Times r n a b) (ha : T a a') :
    ∃ b', Times r n a' b' ∧ T b b' := by
  induction h generalizing a' with
  | zero => exact ⟨a', .zero _, ha⟩
  | succ h _ ih =>
    obtain ⟨b', hab, hb⟩ := hr h ha
    obtain ⟨c', hbc, hc⟩ := ih hb
    exact ⟨c', .succ hab hbc, hc⟩

theorem Leads.transfer {T : Place → Place → Prop}
    (hpass : ∀ set ∈ p.sets, ∀ a b a', a.pass set = some b → T a a' →
      ∃ b', a'.pass set = some b' ∧ T b b')
    (hassert : ∀ h ∈ p.assertions, ∀ a a', T a a' → h.holds a = h.holds a')
    (h : p.Leads a b) (ha : T a a') : ∃ b', p.Leads a' b' ∧ T b b' := by
  induction p generalizing a b a' with
  | empty => exact ⟨a', rfl, h ▸ ha⟩
  | one set => exact hpass set (by simp [sets]) a b a' h ha
  | assertion t =>
    obtain ⟨ht, rfl⟩ := h
    exact ⟨a', ⟨hassert t (by simp [assertions]) _ _ ha ▸ ht, rfl⟩, ha⟩
  | sequence p q ihp ihq =>
    simp only [sets, assertions, List.mem_append] at hpass hassert
    obtain ⟨c, hp, hq⟩ := h
    obtain ⟨c', hp', hc⟩ := ihp (fun s h => hpass s (.inl h)) (fun t h => hassert t (.inl h)) hp ha
    obtain ⟨b', hq', hb⟩ := ihq (fun s h => hpass s (.inr h)) (fun t h => hassert t (.inr h)) hq hc
    exact ⟨b', ⟨c', hp', hq'⟩, hb⟩
  | choice p q ihp ihq =>
    simp only [sets, assertions, List.mem_append] at hpass hassert
    rcases h with h | h
    · obtain ⟨b', h', hb⟩ := ihp (fun s h => hpass s (.inl h)) (fun t h => hassert t (.inl h)) h ha
      exact ⟨b', .inl h', hb⟩
    · obtain ⟨b', h', hb⟩ := ihq (fun s h => hpass s (.inr h)) (fun t h => hassert t (.inr h)) h ha
      exact ⟨b', .inr h', hb⟩
  | repetition p least most ih =>
    obtain ⟨n, hn, hmost, h⟩ := h
    obtain ⟨b', h', hb⟩ := h.transfer (ih hpass hassert) ha
    exact ⟨b', ⟨n, hn, hmost, h'⟩, hb⟩

theorem Times.stays {r : Place → Place → Prop} {I : Place → Prop} {n : Nat}
    (hr : ∀ {a b}, r a b → I a → I b) (h : Times r n a b) (ha : I a) : I b := by
  induction h with
  | zero => exact ha
  | succ h _ ih => exact ih (hr h ha)

-- from places where only sets without `f` hold, nothing leads that needs one with `f`
theorem Leads.stays {I : Place → Prop} {f : CharSet → Bool}
    (hpass : ∀ set ∈ p.sets, ∀ a b, a.pass set = some b → I a → I b ∧ f set = false)
    (h : p.Leads a b) (ha : I a) : I b ∧ p.needs f = false := by
  induction p generalizing a b with
  | empty => exact ⟨h ▸ ha, rfl⟩
  | one set => exact hpass set (by simp [sets]) a b h ha
  | assertion => exact ⟨h.2 ▸ ha, rfl⟩
  | sequence p q ihp ihq =>
    simp only [sets, List.mem_append] at hpass
    obtain ⟨c, hp, hq⟩ := h
    obtain ⟨hc, hfp⟩ := ihp (fun s h => hpass s (.inl h)) hp ha
    obtain ⟨hb, hfq⟩ := ihq (fun s h => hpass s (.inr h)) hq hc
    exact ⟨hb, by simp [needs, hfp, hfq]⟩
  | choice p q ihp ihq =>
    simp only [sets, List.mem_append] at hpass
    rcases h with h | h
    · obtain ⟨hb, hf⟩ := ihp (fun s h => hpass s (.inl h)) h ha
      exact ⟨hb, by simp [needs, hf]⟩
    · obtain ⟨hb, hf⟩ := ihq (fun s h => hpass s (.inr h)) h ha
      exact ⟨hb, by simp [needs, hf]⟩
  | repetition p least most ih =>
    obtain ⟨n, hn, -, h⟩ := h
    refine ⟨h.stays (fun h ha => (ih hpass h ha).1) ha, ?_⟩
    cases h with
    | zero => simp [needs, Nat.le_zero.mp hn]
    | succ h _ => simp [needs, (ih hpass h ha).2]

theorem Leads.exists_of_needs {f : CharSet → Bool} {s : List Char} (h : p.Leads a b)
    (hneeds : p.needs f = true) (ha : a.rest <:+ s) :
    ∃ set, f set = true ∧ ∃ c ∈ s, set.holds c = true := by
  refine Classical.byContradiction fun hnone => ?_
  have hstays := h.stays (I := fun a => a.rest <:+ s) (f := f) (fun set _ a b hpass ha => ?_) ha
  · rw [hneeds] at hstays
    cases hstays.2
  · obtain ⟨c, hholds, hreads⟩ := Place.reads_of_pass hpass
    have hrest : a.rest = c :: b.rest := hreads.rest_eq
    rw [hrest] at ha
    refine ⟨(List.suffix_cons c b.rest).trans ha, Bool.eq_false_iff.mpr fun hf => ?_⟩
    exact hnone ⟨set, hf, c, ha.subset List.mem_cons_self, hholds⟩

theorem isIn_eq_false_of_needs {f : CharSet → Bool} {s : List Char} (hneeds : p.needs f = true)
    (h : ∀ set, f set = true → ∀ c ∈ s, set.holds c = false) : p.isIn s = false := by
  rw [Bool.eq_false_iff, Ne, isIn_iff]
  rintro ⟨a, ha, b, hab⟩
  obtain ⟨set, hset, c, hc, hholds⟩ := hab.exists_of_needs hneeds (Place.rest_suffix ha)
  rw [h set hset c hc] at hholds
  cases hholds

theorem matchesAt_congr {T : Place → Place → Prop}
    (hpass : ∀ set ∈ p.sets, ∀ a b a', a.pass set = some b → T a a' →
      ∃ b', a'.pass set = some b' ∧ T b b')
    (hpass' : ∀ set ∈ p.sets, ∀ a b' a', a'.pass set = some b' → T a a' →
      ∃ b, a.pass set = some b ∧ T b b')
    (hassert : ∀ h ∈ p.assertions, ∀ a a', T a a' → h.holds a = h.holds a') (ha : T a a') :
    p.matchesAt a = p.matchesAt a' := by
  rw [Bool.eq_iff_iff, matchesAt_iff, matchesAt_iff]
  constructor
  · rintro ⟨b, h⟩
    obtain ⟨b', h', -⟩ := h.transfer hpass hassert ha
    exact ⟨b', h'⟩
  · rintro ⟨b', h'⟩
    obtain ⟨b, h, -⟩ := h'.transfer (T := fun a' a => T a a')
      (fun s hs a' b' a h hT => hpass' s hs a b' a' h hT)
      (fun t ht a' a hT => (hassert t ht a a' hT).symm) ha
    exact ⟨b, h⟩

theorem pass_append {set : CharSet} {v : List Char} (h : a.pass set = some b)
    (ha : a'.rest = a.rest ++ v) : ∃ b', a'.pass set = some b' ∧ b'.rest = b.rest ++ v := by
  obtain ⟨offset, before, rest⟩ := a
  obtain ⟨offset', before', rest'⟩ := a'
  obtain rfl := ha
  cases rest with
  | nil => simp [Place.pass] at h
  | cons c rest =>
    simp only [Place.pass, List.cons_append] at h ⊢
    split at h
    next hc =>
      cases h
      exact ⟨_, if_pos hc, rfl⟩
    · cases h

theorem OccursIn.of_infix {s t : List Char} (hassert : p.assertions = []) (h : p.OccursIn s)
    (hs : s <:+: t) : p.OccursIn t := by
  obtain ⟨u, v, rfl⟩ := hs
  obtain ⟨a, ha, b, hab⟩ := h
  obtain ⟨w, hw⟩ := Place.rest_suffix ha
  obtain ⟨a', ha', hrest⟩ := Place.exists_rest_eq (s := u ++ s ++ v) (r := a.rest ++ v)
    ⟨u ++ w, by simp [← hw]⟩
  obtain ⟨b', hb', -⟩ := hab.transfer (T := fun a a' => a'.rest = a.rest ++ v)
    (fun _ _ _ _ _ => pass_append) (by simp [hassert]) hrest
  exact ⟨a', ha', b', hb'⟩

end Pattern

end LinkedControls
