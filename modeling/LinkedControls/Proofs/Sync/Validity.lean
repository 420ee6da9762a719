import LinkedControls.Proofs.Sync.Turn

/-!
Which of a coordinator's groups are valid. The operations keep all rules for definitions, but that a
control of blank id can be added to a group; such a group is not loaded again.
-/

namespace LinkedControls.Coordinator

variable {c d : Coordinator} {l : LiveGroup} {g : Group} {id control keep : String} {op : Operation}

section Keeping

variable {P : Group → Prop}

theorem forall_definitions : (∀ g ∈ c.definitions, P g) ↔ ∀ l ∈ c.groups, P l.group.undated :=
  List.forall_mem_map

theorem keeps_update {f : LiveGroup → LiveGroup} (h : ∀ g ∈ c.definitions, P g)
    (hf : ∀ l ∈ c.groups, l.id = id → P (f l).group.undated) :
    ∀ g ∈ (c.update id f).definitions, P g := by
  rw [forall_definitions] at h ⊢
  intro k hk
  obtain ⟨l, hl, rfl⟩ := List.mem_map.mp hk
  by_cases hid : l.id = id
  · simpa [hid] using hf l hl hid
  · simpa [hid] using h l hl

theorem keeps_drop (h : ∀ g ∈ c.definitions, P g) : ∀ g ∈ (c.drop l).definitions, P g :=
  fun g hg => h g ((List.filter_sublist.map _).subset hg)

theorem keeps_takeIn (h : ∀ g ∈ c.definitions, P g) (hg : P g.undated) :
    ∀ k ∈ (c.takeIn g).definitions, P k := by
  rw [forall_definitions] at h ⊢
  intro k hk
  rcases mem_install hk with rfl | hk
  · exact hg
  · exact h k hk

variable (hvalid : ∀ g : Group, g.isValid = true → P g)

include hvalid

theorem keeps_expel (h : ∀ g ∈ c.definitions, P g) :
    ∀ g ∈ (c.expel control l).1.definitions, P g := by
  rcases expel_cases c control l with ⟨hv, he, -⟩ | ⟨-, he⟩
  · rw [he]
    have hcancel : ∀ g ∈ (c.cancel l).definitions, P g := by rwa [definitions_cancel]
    exact keeps_update hcancel fun _ _ _ => hvalid _ hv
  · rw [he]
    exact keeps_drop h

theorem keeps_detachAll (hwk : WellKept c.roster) (h : ∀ g ∈ c.definitions, P g)
    (controls : List String) (keep : String) :
    ∀ g ∈ (c.detachAll controls keep).1.definitions, P g :=
  detachAll_of_expel (P := fun d => ∀ g ∈ d.definitions, P g) hwk h
    (fun _ _ _ _ hd _ _ _ => keeps_expel hvalid hd) controls

theorem keeps_updateGroup {o : Outcome Group} (hwk : WellKept c.roster)
    (h : ∀ g ∈ c.definitions, P g) (ho : c.updateGroup g = .ok o) :
    ∀ g ∈ o.next.definitions, P g := by
  obtain ⟨hg, l, -, hnext⟩ := updateGroup_eq_ok ho
  have hcancel : ∀ g ∈ (c.cancel l).definitions, P g := by rwa [definitions_cancel]
  have hdetached := keeps_detachAll hvalid (by rwa [roster_cancel]) hcancel g.members g.id
  rw [hnext]
  exact keeps_update (c := { (Coordinator.detachAll _ _ _).1 with rules := _ }) hdetached
    fun _ _ _ => hvalid _ hg

theorem keeps_perform (henabled : ∀ g enabled, P g → P { g with enabled := enabled })
    (hjoin : ∀ id control l, op = .addMember id control → c.live? id = some l →
      control ∉ l.group.members → P l.group.undated →
        P { l.group.undated with members := l.group.members ++ [control] })
    (hwk : WellKept c.roster) (h : ∀ g ∈ c.definitions, P g) (now : Int) :
    ∀ g ∈ (c.perform now op).definitions, P g := by
  have keep {ε α : Type} {next : α → Coordinator} {r : Except ε α}
      (hok : ∀ a, r = .ok a → ∀ g ∈ (next a).definitions, P g) :
      ∀ g ∈ (c.after next r).definitions, P g :=
    after_induction (P := fun d => ∀ g ∈ d.definitions, P g) h hok
  have same {d : Coordinator} (hd : d.definitions = c.definitions) : ∀ g ∈ d.definitions, P g :=
    hd ▸ h
  have hlive {id : String} {l : LiveGroup} (hl : c.live? id = some l) : P l.group.undated :=
    forall_definitions.mp h l (mem_of_live? hl)
  cases op with
  | createGroup g =>
    refine keep fun o ho => ?_
    obtain ⟨hg, -, hnext⟩ := createGroup_eq_ok ho
    rw [hnext]
    exact keeps_takeIn (keeps_detachAll hvalid hwk h g.members g.id) (hvalid _ hg)
  | updateGroup g => exact keep fun _ ho => keeps_updateGroup hvalid hwk h ho
  | deleteGroup id =>
    refine keep fun o ho => ?_
    obtain ⟨l, -, hnext⟩ := deleteGroup_eq_ok ho
    exact hnext ▸ keeps_drop h
  | addMember id control =>
    refine keep fun o ho => ?_
    obtain ⟨l, hl, ⟨-, hnext⟩ | ⟨hnew, hnext⟩⟩ := addMember_eq_ok ho
    · exact same (congrArg definitions hnext)
    · have hdetached : ∀ g ∈ (c.detach control id).1.definitions, P g :=
        keeps_detachAll hvalid hwk h [control] id
      have hcancel : ∀ g ∈ ((c.detach control id).1.cancel l).definitions, P g := by
        rwa [definitions_cancel]
      rw [hnext]
      exact keeps_update hcancel fun _ _ _ => hjoin id control l rfl hl hnew (hlive hl)
  | removeMember id control =>
    refine keep fun o ho => ?_
    obtain ⟨l, -, -, hnext⟩ := removeMember_eq_ok ho
    exact hnext ▸ keeps_expel hvalid h
  | setEnabled id enabled =>
    refine keep fun o ho => ?_
    obtain ⟨l, hl, hnext⟩ := setEnabled_eq_ok ho
    have hcancel : ∀ g ∈ (if enabled then c else c.cancel l).definitions, P g := by
      split
      · exact h
      · exact same definitions_cancel
    rw [hnext]
    exact keeps_update hcancel fun _ _ _ => henabled _ enabled (hlive hl)
  | loadGroups stored =>
    refine loadGroups_induction (P := fun d => ∀ g ∈ d.definitions, P g) h ?_ stored
    exact fun d g hd hg _ => keeps_takeIn hd (hvalid _ hg)
  | addRule r =>
    refine keep fun a ha => ?_
    obtain ⟨_, _, _, _, _, hd⟩ := addRule_eq_ok ha
    exact hd ▸ h
  | removeRule id => exact keep fun a ha => (removeRule_eq_ok ha).2.2 ▸ h
  | setCombinator id f =>
    refine keep fun d hd => ?_
    obtain ⟨_, _, rfl⟩ := setCombinator_eq_ok hd
    exact h
  | change control v origin => exact keep fun _ hr => same (definitions_handleChange hr)
  | flush id => exact keep fun _ ho => same (definitions_flush ho)
  | resolve id v resolver => exact keep fun _ hr => same (definitions_resolveConflict hr)
  | ignore id =>
    refine keep fun a ha => ?_
    obtain ⟨_, _, hd⟩ := ignoreConflict_eq_ok ha
    exact hd ▸ h
  | shutdown => exact same definitions_shutdown
  | expire t =>
    simp only [perform]
    split
    · exact same (definitions_fire t now)
    · exact h
  | act a => exact keep fun _ _ => h

end Keeping

theorem Reachable.formed (h : Reachable c) : ∀ g ∈ c.definitions, g.Formed := by
  induction h with
  | start settings store nextConflict => exact fun _ hg => absurd hg List.not_mem_nil
  | @step c now op hc ih =>
    refine keeps_perform (fun g hg => (Group.isValid_iff.mp hg).1) ?_ ?_ hc.wellKept ih now
    · exact fun g _ h => ⟨h.named, h.two_le, h.nodup, h.ruled, h.inside, h.settled⟩
    · exact fun _ _ _ _ _ hnew h => h.join hnew

theorem formed_of_reachable (h : Reachable c) (hl : l ∈ c.groups) : l.group.Formed := by
  have hu := forall_definitions.mp h.formed l hl
  exact ⟨hu.named, hu.two_le, hu.nodup, hu.ruled, hu.inside, hu.settled⟩

theorem isValid_iff_of_reachable (h : Reachable c) (hl : l ∈ c.groups) :
    l.group.isValid = true ↔ l.group.hasBlank = false := by
  rw [Group.isValid_iff, and_iff_right (formed_of_reachable h hl)]

theorem live?_addMember (hwk : WellKept c.roster) (hl : c.live? id = some l)
    (hnew : control ∉ l.group.members) (now : Int) :
    (c.perform now (.addMember id control)).live? id =
      some { l.reset with group := { l.group with members := l.group.members ++ [control] } } := by
  obtain rfl := id_of_live? hl
  have hkeep : (c.detach control l.id).1.live? l.id = c.live? l.id :=
    live?_detachAll_keep hwk [control]
  rw [perform, addMember_of_not_mem hl hnew, after, live?_enrol (hkeep.trans hl), if_pos rfl]

def AllValid (c : Coordinator) : Prop := ∀ l ∈ c.groups, l.group.validate = .ok ()

theorem allValid_iff : c.AllValid ↔ ∀ l ∈ c.groups, l.group.isValid = true :=
  forall₂_congr fun _ _ => ⟨validate_eq_ok, validate_of_isValid⟩

theorem allValid_start (settings : SyncSettings) (store : Store) (nextConflict : Nat) :
    AllValid (.start settings store nextConflict) :=
  fun _ hl => absurd hl List.not_mem_nil

def addsBlank (c : Coordinator) : Operation → Bool
  | .addMember id control => Text.isBlankText control && (c.live? id).isSome
  | _ => false

theorem allValid_perform_iff (h : Reachable c) (hall : c.AllValid) (now : Int) (op : Operation) :
    (c.perform now op).AllValid ↔ c.addsBlank op = false := by
  rw [allValid_iff] at hall ⊢
  constructor
  · intro hnext
    cases op with
    | addMember id control =>
      by_contra hadds
      have hadds : Text.isBlankText control = true ∧ ∃ l, c.live? id = some l := by
        simpa [addsBlank, Option.ne_none_iff_exists'] using hadds
      obtain ⟨hblank, l, hl⟩ := hadds
      have hnone := (isValid_iff_of_reachable h (mem_of_live? hl)).mp (hall l (mem_of_live? hl))
      have hnew : control ∉ l.group.members := by
        intro hm
        exact Bool.eq_false_iff.mp hnone (List.any_eq_true.mpr ⟨control, hm, hblank⟩)
      have hlive := live?_addMember h.wellKept hl hnew now
      have hvalid := hnext _ (mem_of_live? hlive)
      have hjoined := (Group.isValid_iff.mp hvalid).2
      rw [Group.hasBlank_join, hblank, Bool.or_true] at hjoined
      cases hjoined
    | _ => rfl
  · intro hadds
    refine forall_definitions.mp (keeps_perform (P := fun g => g.isValid = true) (fun _ hg => hg)
      (fun _ _ hg => hg) ?_ h.wellKept (forall_definitions.mpr hall) now)
    rintro id control l rfl hl hnew hg
    obtain ⟨hformed, hnone⟩ := Group.isValid_iff.mp hg
    have hblank : Text.isBlankText control = false := by simpa [addsBlank, hl] using hadds
    refine Group.isValid_iff.mpr ⟨hformed.join hnew, ?_⟩
    exact Group.hasBlank_join.trans (by rw [hnone, hblank, Bool.or_false])

def neverAddsBlank (c : Coordinator) : List (Int × Operation) → Bool
  | [] => true
  | (now, op) :: rest => !c.addsBlank op && (c.perform now op).neverAddsBlank rest

theorem allValid_throughout_iff (h : Reachable c) (hall : c.AllValid)
    (run : List (Int × Operation)) :
    (∀ n, (c.performAll (run.take n)).AllValid) ↔ c.neverAddsBlank run = true := by
  induction run generalizing c with
  | nil => exact ⟨fun _ => rfl, fun _ n => by rwa [List.take_nil]⟩
  | cons step rest ih =>
    obtain ⟨now, op⟩ := step
    have hstep := allValid_perform_iff h hall now op
    rw [neverAddsBlank, Bool.and_eq_true, Bool.not_eq_true', ← hstep]
    constructor
    · intro hrun
      have hfirst : (c.perform now op).AllValid := hrun 1
      exact ⟨hfirst, (ih (h.step now op) hfirst).mp fun n => hrun (n + 1)⟩
    · rintro ⟨hfirst, hrest⟩ n
      cases n with
      | zero => exact hall
      | succ n => exact (ih (h.step now op) hfirst).mpr hrest n

theorem install_of_new {gs : List LiveGroup} (h : ∀ k ∈ gs, k.id ≠ l.id) :
    install l gs = gs ++ [l] := by
  induction gs with
  | nil => rfl
  | cons k rest ih =>
    have hk : (k.id == l.id) = false := beq_false_of_ne (h k List.mem_cons_self)
    rw [install, hk, ih fun j hj => h j (List.mem_cons_of_mem _ hj)]
    rfl

def Apart (gs : List Group) : Prop :=
  gs.Pairwise fun g h => g.id ≠ h.id ∧ ∀ m ∈ g.members, m ∉ h.members

theorem Apart.perm {gs hs : List Group} (h : Apart gs) (hp : gs.Perm hs) : Apart hs := by
  refine (hp.pairwise_iff ?_).mp h
  exact fun {g k} hgk => ⟨Ne.symm hgk.1, fun m hm hm' => hgk.2 m hm' hm⟩

theorem loadGroups_of_apart {stored : List Group} (h : Apart (c.groups.map (·.group) ++ stored)) :
    (c.loadGroups stored).1 = (stored.filter (·.isValid)).length ∧
      (c.loadGroups stored).2.groups.map (·.group) =
        c.groups.map (·.group) ++ stored.filter (·.isValid) := by
  induction stored generalizing c with
  | nil => exact ⟨rfl, (List.append_nil _).symm⟩
  | cons g rest ih =>
    rw [loadGroups_cons]
    cases hg : g.isValid with
    | false =>
      have hrest : Apart (c.groups.map (·.group) ++ rest) :=
        h.sublist ((List.sublist_cons_self g rest).append_left _)
      simpa [hg] using ih hrest
    | true =>
      have hnew {l : LiveGroup} (hl : l ∈ c.groups) :
          l.id ≠ g.id ∧ ∀ m ∈ l.group.members, m ∉ g.members :=
        (List.pairwise_append.mp h).2.2 _ (List.mem_map_of_mem hl) g List.mem_cons_self
      have howns : g.members.any c.owns = false := by
        refine List.any_eq_false.mpr fun m hm hm' => ?_
        obtain ⟨l, hl⟩ := Option.isSome_iff_exists.mp hm'
        exact (hnew (mem_of_liveOf? hl)).2 m (mem_of_find?_contains hl) hm
      have htaken : (c.takeIn g).groups.map (·.group) = c.groups.map (·.group) ++ [g] := by
        rw [takeIn, install_of_new (l := .fresh g _) fun _ hk => (hnew hk).1,
          List.map_append]
        rfl
      have hrest : Apart ((c.takeIn g).groups.map (·.group) ++ rest) := by
        rwa [htaken, List.append_assoc]
      obtain ⟨hcount, hgroups⟩ := ih hrest
      simp [hg, howns, hcount, hgroups, htaken]

theorem apart_of_wellKept (h : WellKept c.roster) : Apart (c.groups.map (·.group)) :=
  List.pairwise_map.mpr (List.pairwise_map.mp h.apart)

theorem valid_but_for_blank_members (h : Reachable c) :
    (∀ l ∈ c.groups, l.group.fault? = if l.group.hasBlank then some .blankMember else none) ∧
      (∀ settings store nextConflict stored, stored.Perm (c.groups.map (·.group)) →
        ((start settings store nextConflict).loadGroups stored).2.groups.map (·.group) =
            stored.filter (fun g => !g.hasBlank) ∧
          ((start settings store nextConflict).loadGroups stored).1 =
            (stored.filter fun g => !g.hasBlank).length) ∧
      (c.AllValid → ∀ run, (∀ n, (c.performAll (run.take n)).AllValid) ↔
        c.neverAddsBlank run = true) := by
  refine ⟨fun l hl => (formed_of_reachable h hl).fault?_eq, ?_,
    fun hall run => allValid_throughout_iff h hall run⟩
  intro settings store nextConflict stored hp
  have happart : Apart stored := (apart_of_wellKept h.wellKept).perm hp.symm
  obtain ⟨hcount, hgroups⟩ := loadGroups_of_apart (c := start settings store nextConflict) happart
  have hfilter : stored.filter (·.isValid) = stored.filter fun g => !g.hasBlank := by
    refine List.filter_congr fun g hg => ?_
    obtain ⟨l, hl, rfl⟩ := List.mem_map.mp (hp.subset hg)
    rw [Bool.eq_iff_iff, isValid_iff_of_reachable h hl, Bool.not_eq_true']
  rw [← hfilter]
  exact ⟨hgroups, hcount⟩

def emptyJoin : List (Int × Operation) := [
  (0, .createGroup ⟨"g", "g", ["a", "b"], .bidirectional, none, .latestWins, true, none⟩),
  (0, .createGroup ⟨"h", "h", ["x", "y"], .masterSlave, some "x", .latestWins, true, none⟩),
  (0, .addMember "g" "")]

theorem valid_but_for_blank_members_emptyJoin :
    Reachable ((start .default .empty 0).performAll emptyJoin) ∧
      ((start .default .empty 0).performAll emptyJoin).groups.map (·.group.fault?) =
        [some .blankMember, none] ∧
      ((start .default .empty 0).loadGroups
        (((start .default .empty 0).performAll emptyJoin).groups.map (·.group))).1 = 1 ∧
      ∀ n, ((start .default .empty 0).performAll ((emptyJoin.take 2).take n)).AllValid := by
  have hstart := Reachable.start .default .empty 0
  have h := hstart.performAll emptyJoin
  obtain ⟨hfault, hload, -⟩ := valid_but_for_blank_members h
  obtain ⟨-, -, hvalid⟩ := valid_but_for_blank_members hstart
  refine ⟨h, ?_, ?_, (hvalid (allValid_start _ _ _) _).mpr (by decide)⟩
  · rw [List.map_congr_left hfault]
    decide
  · rw [(hload .default .empty 0 _ (.refl _)).2]
    decide

theorem emptyJoin_not_allValid :
    Reachable ((start .default .empty 0).performAll emptyJoin) ∧
      ¬ ((start .default .empty 0).performAll emptyJoin).AllValid := by
  refine ⟨(Reachable.start .default .empty 0).performAll emptyJoin, fun hall => ?_⟩
  have hvalid := allValid_iff.mp hall
  revert hvalid
  decide

end LinkedControls.Coordinator
