import LinkedControls.Proofs.Sync.Validity

/-!
What loading stored groups does to the groups in memory. A stored group is taken in when its members
are free, whatever its id is, so it can take the place of a group with other members.
-/

namespace LinkedControls

def lastNamed (id : String) (gs : List Group) : Option Group := gs.reverse.find? (·.id == id)

theorem lastNamed_cons (id : String) (g : Group) (gs : List Group) :
    lastNamed id (g :: gs) = (lastNamed id gs).or (if g.id = id then some g else none) := by
  simp only [lastNamed, List.reverse_cons, List.find?_append, List.find?_singleton, beq_iff_eq]

theorem lastNamed_eq_none {id : String} {gs : List Group} :
    lastNamed id gs = none ↔ ∀ g ∈ gs, g.id ≠ id := by
  simp [lastNamed]

namespace Coordinator

variable {c : Coordinator} {l : LiveGroup} {g : Group} {id : String}

def admits (c : Coordinator) (g : Group) : Bool := g.isValid && !g.members.any c.owns

def admitted (c : Coordinator) : List Group → List Group
  | [] => []
  | g :: rest => if c.admits g then g :: (c.takeIn g).admitted rest else c.admitted rest

theorem loadGroups_eq_admitted (c : Coordinator) (stored : List Group) :
    c.loadGroups stored = ((c.admitted stored).length, (c.admitted stored).foldl takeIn c) := by
  induction stored generalizing c with
  | nil => rfl
  | cons g rest ih =>
    rw [loadGroups_cons, admitted]
    change (if c.admits g then _ else _) = _
    split
    · rw [ih]
      rfl
    · exact ih c

theorem foldl_takeIn_eq (c : Coordinator) (gs : List Group) :
    gs.foldl takeIn c = { c with groups := (gs.foldl takeIn c).groups } := by
  induction gs generalizing c with
  | nil => rfl
  | cons g rest ih =>
    rw [List.foldl_cons, ih]
    rfl

theorem live?_foldl_takeIn (c : Coordinator) (gs : List Group) (id : String) :
    (gs.foldl takeIn c).live? id =
      ((lastNamed id gs).map (LiveGroup.fresh · c.settings.historyLimit)).or (c.live? id) := by
  induction gs generalizing c with
  | nil => rfl
  | cons g rest ih =>
    have hlimit : (c.takeIn g).settings = c.settings := rfl
    rw [List.foldl_cons, ih, hlimit, lastNamed_cons, live?_takeIn]
    cases lastNamed id rest with
    | some k => rfl
    | none =>
      by_cases hid : id = g.id
      · simp [hid]
      · simp [hid, Ne.symm hid]

theorem length_install (gs : List LiveGroup) : (install l gs).length =
    gs.length + if (gs.find? (·.id == l.id)).isSome then 0 else 1 := by
  induction gs with
  | nil => rfl
  | cons k rest ih =>
    unfold install
    by_cases hk : k.id = l.id
    · simp [hk]
    · simp only [beq_false_of_ne hk, List.find?_cons, List.length_cons, Bool.false_eq_true, if_false, ih]
      omega

theorem length_takeIn (c : Coordinator) (g : Group) : (c.takeIn g).groups.length =
    c.groups.length + if (c.live? g.id).isSome then 0 else 1 :=
  length_install (l := .fresh g c.settings.historyLimit) c.groups

theorem length_foldl_takeIn (c : Coordinator) (gs : List Group) :
    (gs.foldl takeIn c).groups.length ≤ gs.length + c.groups.length ∧
      (gs.length + c.groups.length = (gs.foldl takeIn c).groups.length ↔
        (gs.map (·.id)).Nodup ∧ ∀ g ∈ gs, c.live? g.id = none) := by
  induction gs generalizing c with
  | nil => simp
  | cons g rest ih =>
    obtain ⟨hle, hiff⟩ := ih (c.takeIn g)
    have hlen := length_takeIn c g
    have hrest : (∀ k ∈ rest, (c.takeIn g).live? k.id = none) ↔
        g.id ∉ rest.map (·.id) ∧ ∀ k ∈ rest, c.live? k.id = none := by
      simp only [live?_takeIn, List.mem_map, not_exists, not_and, ← forall₂_and]
      refine forall₂_congr fun k _ => ?_
      by_cases hid : k.id = g.id
      · simp [hid]
      · simp [hid]
    rw [List.foldl_cons, List.length_cons, List.map_cons, List.nodup_cons, List.forall_mem_cons]
    cases hg : c.live? g.id with
    | some l =>
      simp only [hg, Option.isSome_some, if_true] at hlen
      refine ⟨by omega, iff_of_false (by omega) ?_⟩
      rintro ⟨-, hnone, -⟩
      cases hnone
    | none =>
      simp only [hg, Option.isSome_none, Bool.false_eq_true, if_false] at hlen
      refine ⟨by omega, ?_⟩
      calc rest.length + 1 + c.groups.length = (rest.foldl takeIn (c.takeIn g)).groups.length
          ↔ rest.length + (c.takeIn g).groups.length =
              (rest.foldl takeIn (c.takeIn g)).groups.length := by rw [hlen]; omega
        _ ↔ (rest.map (·.id)).Nodup ∧ g.id ∉ rest.map (·.id) ∧ ∀ k ∈ rest, c.live? k.id = none := by
              rw [hiff, hrest]
        _ ↔ _ := by tauto

theorem owns_takeIn_of_new {control : String} (hnew : c.live? g.id = none)
    (howns : c.owns control = true) : (c.takeIn g).owns control = true := by
  obtain ⟨l, hl⟩ := Option.isSome_iff_exists.mp howns
  have hids : ∀ k ∈ c.groups, k.id ≠ g.id := by simpa [live?] using hnew
  have hgroups : (c.takeIn g).groups = c.groups ++ [.fresh g c.settings.historyLimit] :=
    install_of_new hids
  refine owns_of_mem (l := l) ?_ (mem_of_find?_contains hl)
  rw [hgroups]
  exact List.mem_append_left _ (mem_of_liveOf? hl)

theorem admits_of_takeIn {k : Group} (hnew : c.live? g.id = none)
    (hk : (c.takeIn g).admits k = true) : c.admits k = true := by
  simp only [admits, Bool.and_eq_true, Bool.not_eq_true', List.any_eq_false] at hk ⊢
  exact ⟨hk.1, fun m hm howns => hk.2 m hm (owns_takeIn_of_new hnew howns)⟩

def Unclaimed (c : Coordinator) (stored : List Group) : Prop :=
  ((stored.filter c.admits).map (·.id)).Nodup ∧ ∀ g ∈ stored.filter c.admits, c.live? g.id = none

theorem admitted_sublist {stored : List Group} (h : c.Unclaimed stored) :
    (c.admitted stored).Sublist (stored.filter c.admits) := by
  induction stored generalizing c with
  | nil => exact .refl []
  | cons g rest ih =>
    rw [admitted]
    cases hg : c.admits g with
    | false =>
      have hfilter : (g :: rest).filter c.admits = rest.filter c.admits := by simp [hg]
      rw [hfilter]
      exact ih (by rwa [Unclaimed, hfilter] at h)
    | true =>
      have hfilter : (g :: rest).filter c.admits = g :: rest.filter c.admits := by simp [hg]
      obtain ⟨hn, hnew⟩ := h
      rw [hfilter, List.map_cons, List.nodup_cons] at hn
      rw [hfilter, List.forall_mem_cons] at hnew
      -- a group that is taken in under a new id frees no member, so that fewer may follow it
      have hfewer : (rest.filter (c.takeIn g).admits).Sublist (rest.filter c.admits) :=
        List.monotone_filter_right rest fun k hk => admits_of_takeIn hnew.1 hk
      have hrest : (c.takeIn g).Unclaimed rest := by
        refine ⟨hn.2.sublist (hfewer.map _), fun k hk => ?_⟩
        have hk := hfewer.subset hk
        have hne : k.id ≠ g.id := fun he => hn.1 (he ▸ List.mem_map_of_mem hk)
        rw [live?_takeIn, if_neg hne]
        exact hnew.2 k hk
      rw [hfilter, if_pos rfl]
      exact ((ih hrest).trans hfewer).cons_cons g

theorem mem_loadGroups_iff (h : Reachable c) (hl : l ∈ c.groups) (stored : List Group) :
    l ∈ (c.loadGroups stored).2.groups ↔ ∀ g, lastNamed l.id (c.admitted stored) = some g →
      LiveGroup.fresh g c.settings.historyLimit = l := by
  have hnext : Reachable (c.loadGroups stored).2 := h.step 0 (.loadGroups stored)
  have hmem : l ∈ (c.loadGroups stored).2.groups ↔ (c.loadGroups stored).2.live? l.id = some l :=
    ⟨live?_of_wellKept hnext.wellKept, mem_of_live?⟩
  rw [hmem, loadGroups_eq_admitted, live?_foldl_takeIn, live?_of_wellKept h.wellKept hl]
  cases lastNamed l.id (c.admitted stored) with
  | none => simp
  | some g => simp

theorem lastNamed_of_new (h : Reachable c) (hl : l ∈ c.groups) {gs : List Group}
    (hnew : ∀ g ∈ gs, c.live? g.id = none) : lastNamed l.id gs = none := by
  refine lastNamed_eq_none.mpr fun g hg he => ?_
  have hlive := live?_of_wellKept h.wellKept hl
  rw [← he, hnew g hg] at hlive
  cases hlive

theorem load_spares_iff (h : Reachable c) (stored : List Group) :
    (c.loadGroups stored).2 = { c with groups := (c.loadGroups stored).2.groups } ∧
      (∀ l ∈ c.groups, l ∈ (c.loadGroups stored).2.groups ↔
        ∀ g, lastNamed l.id (c.admitted stored) = some g →
          LiveGroup.fresh g c.settings.historyLimit = l) ∧
      ((∀ l ∈ c.groups, l ∈ (c.loadGroups stored).2.groups) ∧
          (c.loadGroups stored).1 + c.groups.length = (c.loadGroups stored).2.groups.length ↔
        ((c.admitted stored).map (·.id)).Nodup ∧ ∀ g ∈ c.admitted stored, c.live? g.id = none) ∧
      (c.Unclaimed stored → (∀ l ∈ c.groups, l ∈ (c.loadGroups stored).2.groups) ∧
        (c.loadGroups stored).1 + c.groups.length = (c.loadGroups stored).2.groups.length) := by
  have hmem (l : LiveGroup) (hl : l ∈ c.groups) := mem_loadGroups_iff h hl stored
  rw [loadGroups_eq_admitted] at hmem ⊢
  obtain ⟨-, hcount⟩ := length_foldl_takeIn c (c.admitted stored)
  have hspared (hnew : ∀ g ∈ c.admitted stored, c.live? g.id = none) :
      ∀ l ∈ c.groups, l ∈ ((c.admitted stored).foldl takeIn c).groups := by
    refine fun l hl => (hmem l hl).mpr fun g hg => ?_
    rw [lastNamed_of_new h hl hnew] at hg
    cases hg
  have hiff : (∀ l ∈ c.groups, l ∈ ((c.admitted stored).foldl takeIn c).groups) ∧
        (c.admitted stored).length + c.groups.length =
          ((c.admitted stored).foldl takeIn c).groups.length ↔
      ((c.admitted stored).map (·.id)).Nodup ∧ ∀ g ∈ c.admitted stored, c.live? g.id = none :=
    ⟨fun hall => hcount.mp hall.2, fun hnew => ⟨hspared hnew.2, hcount.mpr hnew⟩⟩
  refine ⟨foldl_takeIn_eq c _, hmem, hiff, fun hunclaimed => hiff.mpr ?_⟩
  have hsub := admitted_sublist hunclaimed
  exact ⟨hunclaimed.1.sublist (hsub.map _), fun g hg => hunclaimed.2 g (hsub.subset hg)⟩

def openPair : Coordinator :=
  (start .default .empty 0).performAll [
    (0, .act (.register "a" .text (.text ""))),
    (0, .act (.register "b" .text (.text ""))),
    (0, .createGroup ⟨"g", "g", ["a", "b"], .bidirectional, none, .latestWins, true, none⟩),
    (1, .change "a" (.text "x") .user)]

def openPairGroup : LiveGroup :=
  ⟨⟨"g", "g", ["a", "b"], .bidirectional, none, .latestWins, true, none⟩, .empty 100,
    .pendingPropagation, [⟨"a", .text "x", 1, .user⟩], some 0, 1⟩

def staleStored : List Group := [
  ⟨"h", "h", ["e", "f"], .broadcast, none, .latestWins, true, none⟩,
  ⟨"g", "g", ["c", "d"], .bidirectional, none, .latestWins, true, none⟩]

theorem load_spares_iff_stale :
    Reachable openPair ∧ openPairGroup ∉ (openPair.loadGroups staleStored).2.groups ∧
      openPairGroup ∈ (openPair.loadGroups (staleStored.take 1)).2.groups ∧
      (openPair.loadGroups (staleStored.take 1)).2.groups.length = 2 := by
  have h : Reachable openPair := (Reachable.start _ _ _).performAll _
  have hmem : openPairGroup ∈ openPair.groups := by decide
  obtain ⟨-, hlost, -, -⟩ := load_spares_iff h staleStored
  obtain ⟨-, -, -, hkept⟩ := load_spares_iff h (staleStored.take 1)
  have hunclaimed : openPair.Unclaimed (staleStored.take 1) := ⟨by decide, by decide⟩
  refine ⟨h, fun hin => ?_, (hkept hunclaimed).1 _ hmem, ?_⟩
  · have hfresh := (hlost _ hmem).mp hin ⟨"g", "g", ["c", "d"], .bidirectional, none, .latestWins, true,
      none⟩ (by decide)
    revert hfresh
    decide
  · rw [← (hkept hunclaimed).2]
    decide

theorem stale_displaces :
    Reachable openPair ∧ openPair.groups = [openPairGroup] ∧
      (openPair.loadGroups (staleStored.drop 1)).1 = 1 ∧
      (openPair.loadGroups (staleStored.drop 1)).2.groups =
        [.fresh ⟨"g", "g", ["c", "d"], .bidirectional, none, .latestWins, true, none⟩ 100] ∧
      (openPair.loadGroups (staleStored.drop 1)).2.timers.map (·.group) = ["g"] :=
  ⟨(Reachable.start _ _ _).performAll _, by decide⟩

end Coordinator

end LinkedControls
