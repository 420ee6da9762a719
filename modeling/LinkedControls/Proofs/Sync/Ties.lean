import LinkedControls.Proofs.Sync.Debounce
import Mathlib.Data.List.Find

/-!
What is tied to a group: its rules, its conflicts and its combinator. None of them outlives the group,
and no rule outlives the membership of its ends.
-/

namespace LinkedControls

/-- A group that something names, and the members that it has to have for that. -/
structure Tie where
  group : String
  members : List String

namespace Rule

def tie (r : Rule) : Tie := ⟨r.group, [r.source, r.target]⟩

theorem isFor_eq_true {r : Rule} {group source target : String} :
    r.isFor group source target = true ↔
      r.group = group ∧ r.source = source ∧ r.target = target := by
  simp [isFor, and_assoc]

theorem touches_eq_false {r : Rule} {group control : String} (h : r.touches group control = false)
    (hgroup : r.group = group) : control ∉ r.tie.members := by
  simp only [touches, hgroup, beq_self_eq_true, Bool.true_and, Bool.or_eq_false_iff,
    beq_eq_false_iff_ne] at h
  simp [tie, Ne.symm h.1, Ne.symm h.2]

end Rule

def Conflict.tie (k : Conflict) : Tie := ⟨k.group, []⟩

namespace Coordinator

variable {c d : Coordinator} {l : LiveGroup} {g : Group} {id control keep : String} {t : Tie}
  {op : Operation}

def ties (c : Coordinator) : List Tie :=
  c.rules.map Rule.tie ++ (c.conflicts.map Conflict.tie ++ c.combinators.map fun e => ⟨e.1, []⟩)

theorem mem_ties : t ∈ c.ties ↔ (∃ r ∈ c.rules, r.tie = t) ∨ (∃ k ∈ c.conflicts, k.tie = t) ∨
    ∃ e ∈ c.combinators, (⟨e.1, []⟩ : Tie) = t := by
  simp only [ties, List.mem_append, List.mem_map]

def Holds (c : Coordinator) (t : Tie) : Prop :=
  ∃ members, c.membersOf? t.group = some members ∧ ∀ m ∈ t.members, m ∈ members

theorem holds_congr (h : d.membersOf? t.group = c.membersOf? t.group) : d.Holds t ↔ c.Holds t := by
  rw [Holds, h, Holds]

structure Rooted (c : Coordinator) : Prop where
  holds : ∀ t ∈ c.ties, c.Holds t
  distinct : ∀ r ∈ c.rules, r.source ≠ r.target
  single : c.rules.Pairwise fun r s => s.isFor r.group r.source r.target = false

namespace Rooted

theorem start (settings : SyncSettings) (store : Store) (nextConflict : Nat) :
    Rooted (.start settings store nextConflict) :=
  ⟨fun _ ht => absurd ht List.not_mem_nil, fun _ hr => absurd hr List.not_mem_nil, .nil⟩

theorem loosen (h : Rooted c) (hties : ∀ t ∈ d.ties, t ∈ c.ties ∧ (c.Holds t → d.Holds t))
    (hrules : d.rules.Sublist c.rules) : Rooted d :=
  ⟨fun t ht => (hties t ht).2 (h.holds t (hties t ht).1), fun r hr => h.distinct r (hrules.subset hr),
    h.single.sublist hrules⟩

theorem of_roster (h : Rooted c) (hroster : d.roster = c.roster) (hties : ∀ t ∈ d.ties, t ∈ c.ties)
    (hrules : d.rules.Sublist c.rules) : Rooted d := by
  refine h.loosen (fun t ht => ⟨hties t ht, ?_⟩) hrules
  exact (holds_congr (membersOf?_of_roster hroster _)).mpr

theorem of_eq (h : Rooted c) (hroster : d.roster = c.roster) (hrules : d.rules = c.rules)
    (hconflicts : d.conflicts = c.conflicts) (hcombinators : d.combinators = c.combinators) :
    Rooted d := by
  refine h.of_roster hroster (fun t ht => ?_) (hrules ▸ .refl _)
  rwa [ties, hrules, hconflicts, hcombinators] at ht

theorem membersOf?_eq_none (h : Rooted c) (hnone : c.live? id = none) :
    ∀ t ∈ c.ties, t.group ≠ id := by
  rintro t ht rfl
  obtain ⟨members, hm, -⟩ := h.holds t ht
  rw [membersOf?, hnone] at hm
  cases hm

end Rooted

theorem membersOf?_drop : (c.drop l).membersOf? id =
    if id = l.id then none else c.membersOf? id := by
  rw [membersOf?, live?_drop, membersOf?]
  split <;> rfl

theorem rooted_drop (h : Rooted c) : Rooted (c.drop l) := by
  refine h.loosen (fun t ht => ?_) List.filter_sublist
  have hmem : t ∈ c.ties ∧ t.group ≠ l.id := by
    simp only [mem_ties, drop, stopTimer, List.mem_filter, bne_iff_ne] at ht ⊢
    rcases ht with ⟨r, ⟨hr, hne⟩, rfl⟩ | ⟨k, ⟨hk, hne⟩, rfl⟩ | ⟨e, ⟨he, hne⟩, rfl⟩
    · exact ⟨.inl ⟨r, hr, rfl⟩, hne⟩
    · exact ⟨.inr (.inl ⟨k, hk, rfl⟩), hne⟩
    · exact ⟨.inr (.inr ⟨e, he, rfl⟩), hne⟩
  exact ⟨hmem.1, (holds_congr (membersOf?_drop.trans (if_neg hmem.2))).mpr⟩

theorem rooted_expel (h : Rooted c) (hl : c.live? l.id = some l) :
    Rooted (c.expel control l).1 := by
  rcases expel_cases c control l with ⟨hv, he, -⟩ | ⟨-, he⟩
  · have hrules : (c.expel control l).1.rules = c.rules.filter fun r => !r.touches l.id control := by
      rw [he]
    have hrest : (c.expel control l).1.conflicts = c.conflicts ∧
        (c.expel control l).1.combinators = c.combinators := by
      rw [he]
      exact ⟨rfl, rfl⟩
    refine h.loosen (fun t ht => ?_) (hrules ▸ List.filter_sublist)
    have hmem : t ∈ c.ties ∧ (t.group = l.id → control ∉ t.members) := by
      rw [mem_ties, hrules, hrest.1, hrest.2] at ht
      rw [mem_ties]
      rcases ht with ⟨r, hr, rfl⟩ | ⟨k, hk, rfl⟩ | ⟨e, he, rfl⟩
      · obtain ⟨hr, htouches⟩ := List.mem_filter.mp hr
        exact ⟨.inl ⟨r, hr, rfl⟩, Rule.touches_eq_false (by simpa using htouches)⟩
      · exact ⟨.inr (.inl ⟨k, hk, rfl⟩), fun _ => List.not_mem_nil⟩
      · exact ⟨.inr (.inr ⟨e, he, rfl⟩), fun _ => List.not_mem_nil⟩
    refine ⟨hmem.1, ?_⟩
    rintro ⟨members, hmembers, hall⟩
    by_cases hid : t.group = l.id
    · have hlost := hmem.2 hid
      rw [hid, membersOf?, hl] at hmembers
      obtain rfl := Option.some.inj hmembers
      refine ⟨(l.group.without control).members, ?_, fun m hm => ?_⟩
      · rw [hid, membersOf?, live?_expel hl, if_pos rfl, if_pos hv]
        rfl
      · exact mem_members_without.mpr ⟨hall m hm, fun he => hlost (he ▸ hm)⟩
    · refine ⟨members, ?_, hall⟩
      rw [membersOf?, live?_expel hl, if_neg hid]
      exact hmembers
  · rw [he]
    exact rooted_drop h

theorem rooted_detachAll (h : Rooted c) (hwk : WellKept c.roster) (controls : List String)
    (keep : String) : Rooted (c.detachAll controls keep).1 :=
  detachAll_of_expel hwk h (fun _ _ _ hdwk hd hl _ _ => rooted_expel hd (live?_of_wellKept hdwk hl))
    controls

theorem live?_detachAll_eq_none (hwk : WellKept c.roster) {controls : List String}
    (hnone : c.live? id = none) : (c.detachAll controls keep).1.live? id = none := by
  cases hl : (c.detachAll controls keep).1.live? id with
  | none => rfl
  | some l =>
    have hentry : l.entry ∈ (c.detachAll controls keep).1.roster :=
      List.mem_map_of_mem (mem_of_live? hl)
    obtain ⟨⟨b, hb, hid, -⟩, -⟩ := mem_roster_detachAll hwk hentry
    obtain ⟨k, hk, rfl⟩ := List.mem_map.mp hb
    have hkid : k.id = id := hid.trans (id_of_live? hl)
    have hno := List.find?_eq_none.mp hnone k hk
    simp [hkid] at hno

theorem membersOf?_takeIn : (c.takeIn g).membersOf? id =
    if id = g.id then some g.members else c.membersOf? id := by
  rw [membersOf?, live?_takeIn, membersOf?]
  split <;> rfl

theorem rooted_takeIn (h : Rooted c) (hnone : c.live? g.id = none) : Rooted (c.takeIn g) := by
  refine h.loosen (fun t ht => ⟨ht, ?_⟩) (.refl _)
  have hne := h.membersOf?_eq_none hnone t ht
  exact (holds_congr (membersOf?_takeIn.trans (if_neg hne))).mpr

theorem membersOf?_redefine (hl : c.live? g.id = some l) : (c.redefine g).membersOf? id =
    if id = g.id then some g.members else c.membersOf? id := by
  by_cases hid : id = g.id
  · subst hid
    rw [membersOf?, live?_redefine hl, if_pos rfl]
    rfl
  · rw [if_neg hid, membersOf?, live?_redefine_of_ne hid, membersOf?]

theorem rooted_redefine (h : Rooted c) (hl : c.live? g.id = some l) : Rooted (c.redefine g) := by
  refine h.loosen (fun t ht => ?_) List.filter_sublist
  have hmem : t ∈ c.ties ∧ (t.group = g.id → ∀ m ∈ t.members, m ∈ g.members) := by
    rw [mem_ties] at ht ⊢
    rcases ht with ⟨r, hr, rfl⟩ | ⟨k, hk, rfl⟩ | ⟨e, he, rfl⟩
    · obtain ⟨hr, hends⟩ := List.mem_filter.mp hr
      refine ⟨.inl ⟨r, hr, rfl⟩, fun hid => ?_⟩
      have hid : r.group = g.id := hid
      simpa [hid, Group.contains, Rule.tie] using hends
    · exact ⟨.inr (.inl ⟨k, hk, rfl⟩), fun _ m hm => absurd hm List.not_mem_nil⟩
    · exact ⟨.inr (.inr ⟨e, he, rfl⟩), fun _ m hm => absurd hm List.not_mem_nil⟩
  refine ⟨hmem.1, ?_⟩
  rintro ⟨members, hmembers, hall⟩
  rw [Holds, membersOf?_redefine hl]
  by_cases hid : t.group = g.id
  · rw [if_pos hid]
    exact ⟨g.members, rfl, hmem.2 hid⟩
  · rw [if_neg hid]
    exact ⟨members, hmembers, hall⟩

theorem rooted_enrol (h : Rooted c) (hl : c.live? l.id = some l) : Rooted (c.enrol l control) := by
  refine h.loosen (fun t ht => ⟨ht, ?_⟩) (.refl _)
  rintro ⟨members, hmembers, hall⟩
  rw [Holds, membersOf?, live?_enrol hl]
  by_cases hid : t.group = l.id
  · rw [hid, membersOf?, hl] at hmembers
    obtain rfl := Option.some.inj hmembers
    rw [if_pos hid]
    exact ⟨_, rfl, fun m hm => List.mem_append_left _ (hall m hm)⟩
  · rw [if_neg hid]
    exact ⟨members, hmembers, hall⟩

theorem rooted_createGroup {o : Outcome Group} (h : Rooted c) (hwk : WellKept c.roster)
    (ho : c.createGroup g = .ok o) : Rooted o.next := by
  obtain ⟨-, hnone, hnext⟩ := createGroup_eq_ok ho
  rw [hnext]
  exact rooted_takeIn (rooted_detachAll h hwk g.members g.id) (live?_detachAll_eq_none hwk hnone)

theorem rooted_updateGroup {o : Outcome Group} (h : Rooted c) (hwk : WellKept c.roster)
    (ho : c.updateGroup g = .ok o) : Rooted o.next := by
  obtain ⟨-, l, hl, hnext⟩ := updateGroup_eq_ok ho
  have hcancel : Rooted (c.cancel l) := h.of_eq roster_cancel rfl rfl rfl
  have hwk' : WellKept (c.cancel l).roster := by rwa [roster_cancel]
  have hself : (c.cancel l).live? g.id = some l.reset := by
    rw [live?_cancel, if_pos (id_of_live? hl).symm, hl]
    rfl
  rw [hnext]
  exact rooted_redefine (rooted_detachAll hcancel hwk' g.members g.id)
    ((live?_detachAll_keep hwk' g.members).trans hself)

theorem rooted_addMember {o : Outcome Group} (h : Rooted c) (hwk : WellKept c.roster)
    (ho : c.addMember id control = .ok o) : Rooted o.next := by
  obtain ⟨l, hl, ⟨-, hnext⟩ | ⟨-, hnext⟩⟩ := addMember_eq_ok ho
  · rwa [hnext]
  · obtain rfl := id_of_live? hl
    have hkeep : (c.detach control l.id).1.live? l.id = c.live? l.id :=
      live?_detachAll_keep hwk [control]
    rw [hnext]
    exact rooted_enrol (rooted_detachAll h hwk [control] l.id) (hkeep.trans hl)

theorem rooted_setEnabled {enabled : Bool} {o : Outcome Group} (h : Rooted c)
    (ho : c.setEnabled id enabled = .ok o) : Rooted o.next := by
  obtain ⟨l, hl, hnext⟩ := setEnabled_eq_ok ho
  obtain rfl := id_of_live? hl
  obtain ⟨hd, hmembers⟩ : Rooted (if enabled then c else c.cancel l) ∧
      (if enabled then c else c.cancel l).membersOf? l.id = some l.group.members := by
    have hself : c.membersOf? l.id = some l.group.members := by rw [membersOf?, hl, Option.map_some]
    split
    · exact ⟨h, hself⟩
    · exact ⟨h.of_eq roster_cancel rfl rfl rfl, (membersOf?_of_roster roster_cancel _).trans hself⟩
  rw [hnext]
  refine hd.loosen (fun t ht => ⟨ht, (holds_congr ?_).mpr⟩) (.refl _)
  refine membersOf?_update (f := fun k => { k with group := { l.group with enabled := enabled } })
    (fun _ _ => rfl) (fun k hk => ?_) _
  exact Option.some.inj (hmembers.symm.trans (congrArg (Option.map _) hk))

theorem rooted_loadGroups (hempty : c.groups = []) (h : Rooted c) (stored : List Group) :
    Rooted (c.loadGroups stored).2 := by
  have hnone : c.ties = [] := by
    refine List.eq_nil_iff_forall_not_mem.mpr fun t ht => ?_
    obtain ⟨members, hm, -⟩ := h.holds t ht
    rw [membersOf?, live?, hempty] at hm
    cases hm
  have hties : (c.loadGroups stored).2.rules = c.rules ∧ (c.loadGroups stored).2.ties = c.ties := by
    refine loadGroups_induction (P := fun d => d.rules = c.rules ∧ d.ties = c.ties) ⟨rfl, rfl⟩ ?_ stored
    exact fun d g hd _ _ => hd
  refine h.loosen (fun t ht => ?_) (hties.1 ▸ .refl _)
  rw [hties.2, hnone] at ht
  cases ht

theorem rooted_addRule {r : Rule} {a : Rule × Coordinator} (h : Rooted c)
    (ha : c.addRule r = .ok a) : Rooted a.2 := by
  obtain ⟨l, hl, hs, ht, hne, hd⟩ := addRule_eq_ok ha
  rw [hd]
  have hothers : (c.rules.filter fun s =>
      !s.isFor r.group r.source r.target && s.id != r.id).Sublist c.rules := List.filter_sublist
  refine ⟨fun t ht' => ?_, fun s hs' => ?_, ?_⟩
  · have hmem : t ∈ c.ties ∨ t = r.tie := by
      rw [mem_ties] at ht'
      rcases ht' with ⟨s, hs', rfl⟩ | hrest
      · rcases List.mem_append.mp hs' with hs' | hs'
        · exact .inl (mem_ties.mpr (.inl ⟨s, hothers.subset hs', rfl⟩))
        · exact .inr (congrArg Rule.tie (List.mem_singleton.mp hs'))
      · exact .inl (mem_ties.mpr (.inr hrest))
    rcases hmem with hmem | rfl
    · exact h.holds t hmem
    · refine ⟨l.group.members, ?_, ?_⟩
      · change (c.live? r.group).map _ = _
        rw [hl]
        rfl
      · simpa [Rule.tie] using ⟨hs, ht⟩
  · rcases List.mem_append.mp hs' with hs' | hs'
    · exact h.distinct s (hothers.subset hs')
    · exact List.mem_singleton.mp hs' ▸ hne
  · refine List.pairwise_append.mpr ⟨h.single.sublist hothers, List.pairwise_singleton _ _, ?_⟩
    intro s hs' r' hr'
    obtain rfl := List.mem_singleton.mp hr'
    have hfor := (List.mem_filter.mp hs').2
    rw [Bool.and_eq_true, Bool.not_eq_true'] at hfor
    refine Bool.eq_false_iff.mpr fun hsame => Bool.eq_false_iff.mp hfor.1 ?_
    obtain ⟨hg, hsource, htarget⟩ := Rule.isFor_eq_true.mp hsame
    exact Rule.isFor_eq_true.mpr ⟨hg.symm, hsource.symm, htarget.symm⟩

theorem rooted_removeRule {a : Rule × Coordinator} (h : Rooted c)
    (ha : c.removeRule id = .ok a) : Rooted a.2 := by
  rw [(removeRule_eq_ok ha).2.2]
  refine h.of_roster rfl (fun t ht => ?_) List.filter_sublist
  rw [mem_ties] at ht ⊢
  refine ht.imp_left ?_
  rintro ⟨r, hr, rfl⟩
  exact ⟨r, (List.mem_filter.mp hr).1, rfl⟩

theorem rooted_setCombinator {f : Combinator} (h : Rooted c) (hd : c.setCombinator id f = .ok d) :
    Rooted d := by
  obtain ⟨l, hl, rfl⟩ := setCombinator_eq_ok hd
  refine ⟨fun t ht => ?_, h.distinct, h.single⟩
  have hmem : t ∈ c.ties ∨ t = ⟨id, []⟩ := by
    rw [mem_ties] at ht
    rcases ht with hr | hk | ⟨e, he, rfl⟩
    · exact .inl (mem_ties.mpr (.inl hr))
    · exact .inl (mem_ties.mpr (.inr (.inl hk)))
    · rcases List.mem_cons.mp he with rfl | he
      · exact .inr rfl
      · exact .inl (mem_ties.mpr (.inr (.inr ⟨e, (List.mem_filter.mp he).1, rfl⟩)))
  rcases hmem with hmem | rfl
  · exact h.holds t hmem
  · refine ⟨l.group.members, ?_, fun m hm => absurd hm List.not_mem_nil⟩
    change (c.live? id).map _ = _
    rw [hl]
    rfl

theorem combinators_closeWindow (c : Coordinator) (id : String) (now : Int) :
    (c.closeWindow id now).1.combinators = c.combinators := by
  refine closeWindow_induction (P := fun d => d.combinators = c.combinators) rfl rfl ?_ fun _ _ _ hd => hd
  intro l last
  obtain ⟨ks, he, -⟩ := settle_snd (c.clearWindow id) l last now
  rw [he]
  rfl

theorem rooted_closeWindow (h : Rooted c) (now : Int) : Rooted (c.closeWindow id now).1 := by
  cases hl : c.live? id with
  | none => rwa [closeWindow_of_unknown hl]
  | some l =>
    obtain ⟨-, hrules, ks, hconflicts, hks⟩ := closeWindow_spares c id now
    refine ⟨fun t ht => ?_, hrules ▸ h.distinct, hrules ▸ h.single⟩
    rw [holds_congr (membersOf?_of_roster (roster_closeWindow now) _)]
    have hmem : t ∈ c.ties ∨ t = ⟨id, []⟩ := by
      rw [mem_ties, hrules, hconflicts, combinators_closeWindow] at ht
      rcases ht with hr | ⟨k, hk, rfl⟩ | he
      · exact .inl (mem_ties.mpr (.inl hr))
      · rcases List.mem_append.mp hk with hk | hk
        · exact .inl (mem_ties.mpr (.inr (.inl ⟨k, hk, rfl⟩)))
        · exact .inr (congrArg (Tie.mk · []) (hks k hk))
      · exact .inl (mem_ties.mpr (.inr (.inr he)))
    rcases hmem with hmem | rfl
    · exact h.holds t hmem
    · refine ⟨l.group.members, ?_, fun m hm => absurd hm List.not_mem_nil⟩
      change (c.live? id).map _ = _
      rw [hl]
      rfl

theorem rooted_replaceConflict (h : Rooted c) {k k' : Conflict} (hk : k ∈ c.conflicts)
    (hgroup : k'.group = k.group) : Rooted (c.replaceConflict k') := by
  refine h.of_roster rfl (fun t ht => ?_) (.refl _)
  rw [mem_ties] at ht ⊢
  refine ht.imp_right (.imp_left ?_)
  rintro ⟨j, hj, rfl⟩
  obtain ⟨i, hi, rfl⟩ := List.mem_map.mp hj
  split
  · exact ⟨k, hk, congrArg (Tie.mk · []) hgroup.symm⟩
  · exact ⟨i, hi, rfl⟩

theorem rooted_resolveConflict {v : Value} {resolver : String} {now : Int}
    {r : Conflict × Coordinator} (h : Rooted c)
    (hr : c.resolveConflict id v resolver now = .ok r) : Rooted r.2 := by
  obtain ⟨k, hk, hcases⟩ := resolveConflict_eq_ok hr
  have hreplaced : Rooted (c.replaceConflict (k.resolve v resolver now)) :=
    rooted_replaceConflict h (List.mem_of_find?_eq_some hk) (k.group_resolve v resolver now)
  rcases hcases with ⟨-, he⟩ | ⟨-, -, he⟩ | ⟨-, l, -, -, he⟩
  · rwa [he]
  · rwa [he]
  · rw [he]
    exact hreplaced.of_eq (roster_rephase.trans (roster_send _ now)) rfl rfl rfl

theorem rooted_ignoreConflict {now : Int} {a : Conflict × Coordinator} (h : Rooted c)
    (ha : c.ignoreConflict id now = .ok a) : Rooted a.2 := by
  obtain ⟨k, hk, hd⟩ := ignoreConflict_eq_ok ha
  rw [hd]
  refine rooted_replaceConflict h (List.mem_of_find?_eq_some hk) ?_
  unfold Conflict.ignore
  split <;> rfl

theorem rooted_handleChange {v : Value} {origin : Origin} {now : Int} {r : Change × Coordinator}
    (h : Rooted c) (hr : c.handleChange control v origin now = .ok r) : Rooted r.2 := by
  have hroster := roster_handleChange hr
  obtain ⟨store, -, ⟨he, -⟩ | ⟨-, l, -, -, he⟩⟩ := handleChange_eq_ok hr
  · exact h.of_eq hroster (by rw [he]) (by rw [he]) (by rw [he])
  · exact h.of_eq hroster (by rw [he]; rfl) (by rw [he]; rfl) (by rw [he]; rfl)

theorem rooted_flush {now : Int} {o : Outcome Unit} (h : Rooted c) (ho : c.flush id now = .ok o) :
    Rooted o.next := by
  obtain ⟨l, -, ⟨-, he⟩ | ⟨-, he⟩⟩ := flush_eq_ok ho
  · exact he ▸ h.of_eq roster_disarm rfl rfl rfl
  · have hdisarm : Rooted (c.disarm l) := h.of_eq roster_disarm rfl rfl rfl
    exact he ▸ rooted_closeWindow hdisarm now

theorem rooted_fire (h : Rooted c) (timer : Timer) (now : Int) : Rooted (c.fire timer now).1 := by
  rcases fire_cases c timer now with ⟨he, -⟩ | ⟨l, -, -, -, he⟩
  · exact he ▸ h.of_eq rfl rfl rfl rfl
  · have hstopped : Rooted ((c.stopTimer (some timer.serial)).update timer.group fun k =>
        { k with timer := none }) :=
      h.of_eq (roster_of_definitions (definitions_update (c := c.stopTimer (some timer.serial))
        fun _ _ => rfl)) rfl rfl rfl
    exact he ▸ rooted_closeWindow hstopped now

theorem rooted_shutdown (h : Rooted c) : Rooted c.shutdown :=
  shutdown_induction (P := Rooted) h fun _ _ _ hd => hd.of_eq roster_cancel rfl rfl rfl

theorem rooted_perform (h : Rooted c) (hwk : WellKept c.roster)
    (hload : c.mayPerform op = true) (now : Int) : Rooted (c.perform now op) := by
  cases op with
  | createGroup g => exact after_induction h fun _ ho => rooted_createGroup h hwk ho
  | updateGroup g => exact after_induction h fun _ ho => rooted_updateGroup h hwk ho
  | deleteGroup id =>
    refine after_induction h fun o ho => ?_
    obtain ⟨l, -, hnext⟩ := deleteGroup_eq_ok ho
    exact hnext ▸ rooted_drop h
  | addMember id control => exact after_induction h fun _ ho => rooted_addMember h hwk ho
  | removeMember id control =>
    refine after_induction h fun o ho => ?_
    obtain ⟨l, hl, -, hnext⟩ := removeMember_eq_ok ho
    exact hnext ▸ rooted_expel h (live?_of_wellKept hwk (mem_of_live? hl))
  | setEnabled id enabled => exact after_induction h fun _ ho => rooted_setEnabled h ho
  | loadGroups stored => exact rooted_loadGroups (groups_of_mayPerform hload rfl) h stored
  | addRule r => exact after_induction h fun _ ha => rooted_addRule h ha
  | removeRule id => exact after_induction h fun _ ha => rooted_removeRule h ha
  | setCombinator id f => exact after_induction h fun _ hd => rooted_setCombinator h hd
  | change control v origin => exact after_induction h fun _ hr => rooted_handleChange h hr
  | flush id => exact after_induction h fun _ ho => rooted_flush h ho
  | resolve id v resolver => exact after_induction h fun _ hr => rooted_resolveConflict h hr
  | ignore id => exact after_induction h fun _ ha => rooted_ignoreConflict h ha
  | shutdown => exact rooted_shutdown h
  | expire timer =>
    simp only [perform]
    split
    · exact rooted_fire h timer now
    · exact h
  | act a => exact after_induction h fun _ _ => h.of_eq rfl rfl rfl rfl

theorem rooted_performAll (hreach : Reachable c) (hc : Clockwork c) (h : Rooted c)
    {run : List (Int × Operation)} (hload : c.loadsFirst run = true) :
    Clockwork (c.performAll run) ∧ Rooted (c.performAll run) := by
  induction run generalizing c with
  | nil => exact ⟨hc, h⟩
  | cons step rest ih =>
    obtain ⟨now, op⟩ := step
    simp only [loadsFirst, Bool.and_eq_true] at hload
    have hc' := (logged_perform hreach.wellKept hc now hload.1).clockwork
    exact ih (hreach.step now op) hc' (rooted_perform h hreach.wellKept hload.1 now) hload.2

theorem find?_governs_perm (h : Rooted c) {order : List Rule} (hp : order.Perm c.rules)
    (group source target : String) : order.find? (·.governs group source target) =
      c.rules.find? (·.governs group source target) := by
  refine (List.find?_eq_find?_of_perm hp.symm ?_).symm
  rintro r ⟨hr, hgoverns⟩ s ⟨hs, hgoverns'⟩
  simp only [Rule.governs, Bool.and_eq_true, Rule.isFor_eq_true] at hgoverns hgoverns'
  obtain ⟨-, rfl, rfl, rfl⟩ := hgoverns
  obtain ⟨-, hfor⟩ := hgoverns'
  by_contra hne
  have hsymm : Std.Symm fun r s : Rule => s.isFor r.group r.source r.target = false := by
    refine ⟨fun r s hrs => Bool.eq_false_iff.mpr fun hsr => Bool.eq_false_iff.mp hrs ?_⟩
    obtain ⟨hg, hs, ht⟩ := Rule.isFor_eq_true.mp hsr
    exact Rule.isFor_eq_true.mpr ⟨hg.symm, hs.symm, ht.symm⟩
  have hapart := h.single.forall hr hs hne
  exact Bool.eq_false_iff.mp hapart (Rule.isFor_eq_true.mpr hfor)

theorem deliverAll_congr {rules rules' : List Rule} {p : Parcel}
    (h : ∀ target, p.outgoing g rules target = p.outgoing g rules' target) (s : Store)
    (targets : List String) : deliverAll g rules p s targets = deliverAll g rules' p s targets := by
  induction targets generalizing s with
  | nil => rfl
  | cons target rest ih =>
    have hfirst : deliver g rules p s target = deliver g rules' p s target := by
      rw [deliver, h, deliver]
    simp only [deliverAll, hfirst, ih]

theorem propagate_congr {rules rules' : List Rule} {p : Parcel}
    (h : ∀ source target, rules.find? (·.governs g.id source target) =
      rules'.find? (·.governs g.id source target)) (s : Store) :
    propagate s g rules p = propagate s g rules' p := by
  unfold propagate
  split
  · rfl
  · refine deliverAll_congr (fun target => ?_) s _
    rw [Parcel.outgoing, h, Parcel.outgoing]

structure Forgot (c : Coordinator) (id : String) : Prop where
  group : c.live? id = none
  rules : ∀ r ∈ c.rules, r.group ≠ id
  conflicts : ∀ k ∈ c.conflicts, k.group ≠ id
  combinators : ∀ e ∈ c.combinators, e.1 ≠ id
  timers : ∀ t ∈ c.timers, t.group ≠ id

theorem Rooted.forgot (h : Rooted c) (hc : Clockwork c) (hnone : c.live? id = none) :
    c.Forgot id := by
  have hties := h.membersOf?_eq_none hnone
  refine ⟨hnone, fun r hr => ?_, fun k hk => ?_, fun e he => ?_, ?_⟩
  · exact hties _ (mem_ties.mpr (.inl ⟨r, hr, rfl⟩))
  · exact hties _ (mem_ties.mpr (.inr (.inl ⟨k, hk, rfl⟩)))
  · exact hties _ (mem_ties.mpr (.inr (.inr ⟨e, he, rfl⟩)))
  · rintro t ht rfl
    obtain ⟨l, hl⟩ := hc.owned t ht
    rw [hnone] at hl
    cases hl

theorem live?_deleteGroup (c : Coordinator) (now : Int) (id : String) :
    (c.perform now (.deleteGroup id)).live? id = none := by
  simp only [perform]
  cases hl : c.live? id with
  | none => simp only [deleteGroup, need, hl, bind, Except.bind, after]
  | some l =>
    rw [deleteGroup_of_live? hl, after, live?_drop, if_pos (id_of_live? hl).symm]

theorem nothing_dangles {settings : SyncSettings} {store : Store} {nextConflict : Nat}
    {run : List (Int × Operation)} (hload : (start settings store nextConflict).loadsFirst run = true)
    (hc : c = (start settings store nextConflict).performAll run) :
    (∀ r ∈ c.rules, ∃ l ∈ c.groups, l.id = r.group ∧ r.source ∈ l.group.members ∧
        r.target ∈ l.group.members ∧ r.source ≠ r.target) ∧
      (c.rules.Pairwise fun r s =>
        ¬ (r.group = s.group ∧ r.source = s.source ∧ r.target = s.target)) ∧
      (∀ k ∈ c.conflicts, ∃ l ∈ c.groups, l.id = k.group) ∧
      (∀ e ∈ c.combinators, ∃ l ∈ c.groups, l.id = e.1) ∧
      (∀ order : List Rule, order.Perm c.rules →
        (∀ group source target, order.find? (·.governs group source target) =
          c.rules.find? (·.governs group source target)) ∧
        ∀ s g p, propagate s g order p = propagate s g c.rules p) ∧
      (∀ id, c.live? id = none → c.Forgot id) ∧
      ∀ now id, (c.perform now (.deleteGroup id)).Forgot id := by
  have hstart := Reachable.start settings store nextConflict
  obtain ⟨hclock, hrooted⟩ := rooted_performAll hstart (clockwork_start settings store nextConflict)
    (.start settings store nextConflict) hload
  have hreach := hstart.performAll run
  rw [← hc] at hclock hrooted hreach
  have found {t : Tie} (ht : t ∈ c.ties) :
      ∃ l ∈ c.groups, l.id = t.group ∧ ∀ m ∈ t.members, m ∈ l.group.members := by
    obtain ⟨members, hmembers, hall⟩ := hrooted.holds t ht
    obtain ⟨l, hl, rfl⟩ := Option.map_eq_some_iff.mp hmembers
    exact ⟨l, mem_of_live? hl, id_of_live? hl, hall⟩
  refine ⟨fun r hr => ?_, hrooted.single.imp fun hrs => ?_, fun k hk => ?_, fun e he => ?_,
    fun order hp => ?_, fun id hnone => hrooted.forgot hclock hnone, fun now id => ?_⟩
  · obtain ⟨l, hl, hid, hall⟩ := found (mem_ties.mpr (.inl ⟨r, hr, rfl⟩))
    have hends : r.source ∈ l.group.members ∧ r.target ∈ l.group.members := by
      simpa [Rule.tie] using hall
    exact ⟨l, hl, hid, hends.1, hends.2, hrooted.distinct r hr⟩
  · rintro ⟨hg, hs, ht⟩
    exact Bool.eq_false_iff.mp hrs (Rule.isFor_eq_true.mpr ⟨hg.symm, hs.symm, ht.symm⟩)
  · obtain ⟨l, hl, hid, -⟩ := found (mem_ties.mpr (.inr (.inl ⟨k, hk, rfl⟩)))
    exact ⟨l, hl, hid⟩
  · obtain ⟨l, hl, hid, -⟩ := found (mem_ties.mpr (.inr (.inr ⟨e, he, rfl⟩)))
    exact ⟨l, hl, hid⟩
  · have hfind := find?_governs_perm hrooted hp
    exact ⟨hfind, fun s g p => propagate_congr (hfind g.id) s⟩
  · have hmay : c.mayPerform (.deleteGroup id) = true := rfl
    have hrooted' := rooted_perform hrooted hreach.wellKept hmay now
    have hclock' := (logged_perform hreach.wellKept hclock now hmay).clockwork
    exact hrooted'.forgot hclock' (live?_deleteGroup c now id)

def departures : List (Int × Operation) := [
  (0, .createGroup ⟨"g", "g", ["a", "b", "c"], .bidirectional, none, .merge, true, none⟩),
  (1, .addRule ⟨"r", "g", "a", "b", .identity, true⟩),
  (2, .addRule ⟨"s", "g", "a", "c", .identity, true⟩),
  (3, .addRule ⟨"t", "g", "a", "b", .identity, true⟩),
  (4, .setCombinator "g" .union),
  (5, .createGroup ⟨"h", "h", ["c", "d"], .broadcast, none, .latestWins, true, none⟩)]

theorem nothing_dangles_departures :
    (start .default .empty 0).loadsFirst departures = true ∧
      ((start .default .empty 0).performAll departures).rules.map (·.id) = ["t"] ∧
      (((start .default .empty 0).performAll departures).perform 6 (.deleteGroup "g")).Forgot "g" := by
  have hload : (start .default .empty 0).loadsFirst departures = true := by decide
  obtain ⟨-, -, -, -, -, -, hdelete⟩ := nothing_dangles hload rfl
  exact ⟨hload, by decide, hdelete 6 "g"⟩

end Coordinator

end LinkedControls
