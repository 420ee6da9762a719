import LinkedControls.Proofs.Sync.Effect
import LinkedControls.Proofs.Sync.Formation
import LinkedControls.Proofs.Sync.Operation
import Mathlib.Data.List.Pairwise

/-!
Who is in which group. A coordinator's roster lists the ids of its groups with their members. All that
operations do to it is to take out a group or a member, to put in a group, and to replace the members
of one; in every state that a coordinator reaches, nobody is on the roster twice.
-/

namespace LinkedControls

structure WellKept (roster : List (String × List String)) : Prop where
  apart : roster.Pairwise fun a b => a.1 ≠ b.1 ∧ ∀ m ∈ a.2, m ∉ b.2
  nodup : ∀ a ∈ roster, a.2.Nodup
  two_le : ∀ a ∈ roster, 2 ≤ a.2.length

namespace WellKept

variable {roster : List (String × List String)}

theorem nil : WellKept [] := ⟨.nil, by simp, by simp⟩

theorem sublist {fewer : List (String × List String)} (h : WellKept roster)
    (hs : fewer.Sublist roster) : WellKept fewer :=
  ⟨h.apart.sublist hs, fun a ha => h.nodup a (hs.subset ha), fun a ha => h.two_le a (hs.subset ha)⟩

theorem replace (h : WellKept roster) {id : String} {members : List String}
    (hn : members.Nodup) (htwo : 2 ≤ members.length)
    (hfree : ∀ a ∈ roster, a.1 ≠ id → ∀ m ∈ members, m ∉ a.2) :
    WellKept (roster.map fun a => if a.1 = id then (id, members) else a) := by
  refine ⟨?_, ?_, ?_⟩
  · rw [List.pairwise_map]
    refine h.apart.imp_of_mem ?_
    intro a b ha hb hab
    by_cases hai : a.1 = id <;> by_cases hbi : b.1 = id
    · exact absurd (hai.trans hbi.symm) hab.1
    · simp only [hai, hbi, if_true, if_false]
      exact ⟨Ne.symm hbi, hfree b hb hbi⟩
    · simp only [hai, hbi, if_true, if_false]
      exact ⟨hai, fun m hm hmem => hfree a ha hai m hmem hm⟩
    · simpa only [hai, hbi, if_false] using hab
  · intro b hb
    obtain ⟨a, ha, rfl⟩ := List.mem_map.mp hb
    by_cases hai : a.1 = id
    · simpa only [hai, if_true] using hn
    · simpa only [hai, if_false] using h.nodup a ha
  · intro b hb
    obtain ⟨a, ha, rfl⟩ := List.mem_map.mp hb
    by_cases hai : a.1 = id
    · simpa only [hai, if_true] using htwo
    · simpa only [hai, if_false] using h.two_le a ha

end WellKept

namespace LiveGroup

def entry (l : LiveGroup) : String × List String := (l.id, l.group.members)

end LiveGroup

namespace Coordinator

variable {c d : Coordinator} {l k : LiveGroup} {id control keep : String}

def roster (c : Coordinator) : List (String × List String) := c.groups.map LiveGroup.entry

theorem ids_nodup (h : WellKept c.roster) : (c.groups.map (·.id)).Nodup := by
  have hp := h.apart
  rw [roster, List.pairwise_map] at hp
  rw [List.Nodup, List.pairwise_map]
  exact hp.imp fun h => h.1

theorem groups_nodup (h : WellKept c.roster) : c.groups.Nodup :=
  (List.pairwise_map.mp (ids_nodup h)).imp fun hne he => hne (congrArg LiveGroup.id he)

theorem live?_of_wellKept (h : WellKept c.roster) (hl : l ∈ c.groups) : c.live? l.id = some l :=
  live?_of_mem (ids_nodup h) hl

theorem nodup_of_live? (h : WellKept c.roster) (hl : c.live? id = some l) : l.group.members.Nodup :=
  h.nodup _ (List.mem_map_of_mem (mem_of_live? hl))

theorem eq_of_common_member (h : WellKept c.roster) (hl : l ∈ c.groups) (hk : k ∈ c.groups)
    (hml : control ∈ l.group.members) (hmk : control ∈ k.group.members) : l = k := by
  have hp := h.apart
  rw [roster, List.pairwise_map] at hp
  have hsymm : Std.Symm fun a b : LiveGroup =>
      a.entry.1 ≠ b.entry.1 ∧ ∀ m ∈ a.entry.2, m ∉ b.entry.2 :=
    ⟨fun a b hab => ⟨Ne.symm hab.1, fun m hb ha => hab.2 m ha hb⟩⟩
  by_cases he : l = k
  · exact he
  · exact absurd hmk ((hp.forall hl hk he).2 control hml)

def definitions (c : Coordinator) : List Group := c.groups.map (·.group.undated)

theorem roster_eq (c : Coordinator) :
    c.roster = c.definitions.map fun g => (g.id, g.members) := by
  rw [roster, definitions, List.map_map]
  rfl

theorem roster_of_definitions (h : d.definitions = c.definitions) : d.roster = c.roster := by
  rw [roster_eq, h, ← roster_eq]

theorem definitions_congr (h : d.groups = c.groups) : d.definitions = c.definitions := by
  rw [definitions, definitions, h]

theorem roster_congr (h : d.groups = c.groups) : d.roster = c.roster :=
  roster_of_definitions (definitions_congr h)

theorem definitions_update {f : LiveGroup → LiveGroup}
    (hf : ∀ l, l.id = id → (f l).group.undated = l.group.undated) :
    (c.update id f).definitions = c.definitions := by
  simp only [definitions, update, List.map_map]
  refine List.map_congr_left ?_
  intro l _
  by_cases hl : l.id = id
  · simp [hl, hf l hl]
  · simp [hl]

@[simp]
theorem definitions_cancel : (c.cancel l).definitions = c.definitions :=
  definitions_update (c := c.stopTimer l.timer) fun _ _ => rfl

theorem definitions_schedule (now : Int) : (c.schedule l now).definitions = c.definitions :=
  definitions_update (c := c.stopTimer l.timer) fun _ _ => rfl

@[simp]
theorem definitions_send (p : Parcel) (now : Int) : (c.send l p now).definitions = c.definitions :=
  definitions_update (c := { c with store := _ }) fun _ _ => rfl

@[simp]
theorem definitions_clearWindow : (c.clearWindow id).definitions = c.definitions :=
  definitions_update fun _ _ => rfl

@[simp]
theorem definitions_settle (last : Competing) (now : Int) :
    (c.settle l last now).2.definitions = c.definitions := by
  unfold settle
  split <;> rfl

@[simp]
theorem definitions_closeWindow (now : Int) :
    (c.closeWindow id now).1.definitions = c.definitions := by
  refine closeWindow_induction (P := fun d => d.definitions = c.definitions) rfl ?_ ?_ ?_
  · exact definitions_clearWindow
  · intro l last
    rw [definitions_settle, definitions_clearWindow]
  · intro d l p hd
    rw [definitions_send, hd]

@[simp]
theorem definitions_disarm : (c.disarm l).definitions = c.definitions :=
  definitions_update (c := c.stopTimer l.timer) fun _ _ => rfl

theorem definitions_fire (t : Timer) (now : Int) : (c.fire t now).1.definitions = c.definitions := by
  rcases fire_cases c t now with ⟨h, _⟩ | ⟨l, _, _, _, h⟩
  · rw [h]
    rfl
  · rw [h, definitions_closeWindow]
    exact definitions_update (c := c.stopTimer (some t.serial)) fun _ _ => rfl

theorem definitions_note (w : Competing) (now : Int) :
    (c.note l w now).definitions = c.definitions := by
  rw [note, definitions_schedule]
  exact definitions_update fun _ _ => rfl

@[simp]
theorem definitions_rephase : (c.rephase l).definitions = c.definitions :=
  definitions_update fun _ _ => rfl

theorem definitions_shutdown : c.shutdown.definitions = c.definitions := by
  refine shutdown_induction (P := fun d => d.definitions = c.definitions) rfl ?_
  intro d l _ hd
  rw [definitions_cancel, hd]

theorem definitions_handleChange {v : Value} {origin : Origin} {now : Int}
    {r : Change × Coordinator} (hr : c.handleChange control v origin now = .ok r) :
    r.2.definitions = c.definitions := by
  obtain ⟨store, _, ⟨he, _⟩ | ⟨_, l, _, _, he⟩⟩ := handleChange_eq_ok hr
  · rw [he]
    rfl
  · rw [he, definitions_note]
    rfl

theorem definitions_flush {now : Int} {o : Outcome Unit} (ho : c.flush id now = .ok o) :
    o.next.definitions = c.definitions := by
  obtain ⟨l, _, ⟨_, he⟩ | ⟨_, he⟩⟩ := flush_eq_ok ho
  · rw [he, definitions_disarm]
  · rw [he, definitions_closeWindow, definitions_disarm]

theorem definitions_resolveConflict {v : Value} {resolver : String} {now : Int}
    {r : Conflict × Coordinator} (hr : c.resolveConflict id v resolver now = .ok r) :
    r.2.definitions = c.definitions := by
  obtain ⟨k, _, ⟨_, he⟩ | ⟨_, _, he⟩ | ⟨_, l, _, _, he⟩⟩ := resolveConflict_eq_ok hr
  · rw [he]
  · rw [he]
    rfl
  · rw [he, definitions_rephase, definitions_send]
    rfl

@[simp]
theorem roster_cancel : (c.cancel l).roster = c.roster := roster_of_definitions definitions_cancel

@[simp]
theorem roster_send (p : Parcel) (now : Int) : (c.send l p now).roster = c.roster :=
  roster_of_definitions (definitions_send p now)

@[simp]
theorem roster_closeWindow (now : Int) : (c.closeWindow id now).1.roster = c.roster :=
  roster_of_definitions (definitions_closeWindow now)

@[simp]
theorem roster_disarm : (c.disarm l).roster = c.roster := roster_of_definitions definitions_disarm

theorem roster_fire (t : Timer) (now : Int) : (c.fire t now).1.roster = c.roster :=
  roster_of_definitions (definitions_fire t now)

theorem roster_note (w : Competing) (now : Int) : (c.note l w now).roster = c.roster :=
  roster_of_definitions (definitions_note w now)

@[simp]
theorem roster_rephase : (c.rephase l).roster = c.roster := roster_of_definitions definitions_rephase

theorem roster_shutdown : c.shutdown.roster = c.roster := roster_of_definitions definitions_shutdown

theorem roster_handleChange {v : Value} {origin : Origin} {now : Int} {r : Change × Coordinator}
    (hr : c.handleChange control v origin now = .ok r) : r.2.roster = c.roster :=
  roster_of_definitions (definitions_handleChange hr)

theorem roster_flush {now : Int} {o : Outcome Unit} (ho : c.flush id now = .ok o) :
    o.next.roster = c.roster :=
  roster_of_definitions (definitions_flush ho)

theorem roster_resolveConflict {v : Value} {resolver : String} {now : Int}
    {r : Conflict × Coordinator} (hr : c.resolveConflict id v resolver now = .ok r) :
    r.2.roster = c.roster :=
  roster_of_definitions (definitions_resolveConflict hr)

theorem wellKept_drop (h : WellKept c.roster) : WellKept (c.drop l).roster :=
  h.sublist (List.filter_sublist.map _)

theorem wellKept_install (h : WellKept c.roster) (hn : l.group.members.Nodup)
    (htwo : 2 ≤ l.group.members.length)
    (hfree : ∀ a ∈ c.roster, a.1 ≠ l.id → ∀ m ∈ l.group.members, m ∉ a.2) :
    WellKept ((install l c.groups).map LiveGroup.entry) := by
  rw [roster, List.forall_mem_map] at hfree
  rw [roster] at h
  generalize c.groups = gs at h hfree
  refine ⟨?_, ?_, ?_⟩
  · have hp := h.apart
    rw [List.pairwise_map] at hp ⊢
    clear h
    induction gs with
    | nil => simp [install]
    | cons k rest ih =>
      obtain ⟨hk, hrest⟩ := List.pairwise_cons.mp hp
      unfold install
      split
      · next he =>
        have he : k.id = l.id := by simpa using he
        refine List.pairwise_cons.mpr ⟨?_, hrest⟩
        intro b hb
        have hne : l.id ≠ b.id := he ▸ (hk b hb).1
        exact ⟨hne, hfree b (List.mem_cons_of_mem _ hb) hne.symm⟩
      · next he =>
        have he : k.id ≠ l.id := by simpa using he
        refine List.pairwise_cons.mpr ⟨?_, ih (fun b hb => hfree b (List.mem_cons_of_mem _ hb)) hrest⟩
        intro b hb
        rcases mem_install hb with rfl | hb
        · exact ⟨he, fun m hm hml => hfree k List.mem_cons_self he m hml hm⟩
        · exact hk b hb
  · intro a ha
    obtain ⟨k, hk, rfl⟩ := List.mem_map.mp ha
    rcases mem_install hk with rfl | hk
    · exact hn
    · exact h.nodup _ (List.mem_map_of_mem hk)
  · intro a ha
    obtain ⟨k, hk, rfl⟩ := List.mem_map.mp ha
    rcases mem_install hk with rfl | hk
    · exact htwo
    · exact h.two_le _ (List.mem_map_of_mem hk)

theorem wellKept_takeIn {g : Group} (h : WellKept c.roster) (hg : g.isValid = true)
    (hfree : ∀ a ∈ c.roster, a.1 ≠ g.id → ∀ m ∈ g.members, m ∉ a.2) :
    WellKept (c.takeIn g).roster :=
  wellKept_install h (Group.nodup_of_isValid hg) (Group.two_le_of_isValid hg) hfree

theorem roster_update_members {f : LiveGroup → LiveGroup} (members : List String)
    (hf : ∀ l, l.id = id → (f l).entry = (id, members)) :
    (c.update id f).roster = c.roster.map fun a => if a.1 = id then (id, members) else a := by
  simp only [roster, update, List.map_map]
  refine List.map_congr_left ?_
  intro l _
  have hentry : l.entry.1 = l.id := rfl
  by_cases hl : l.id = id
  · simp [hentry, hl, hf l hl]
  · simp [hentry, hl]

theorem wellKept_update {f : LiveGroup → LiveGroup} {members : List String}
    (h : WellKept c.roster) (hf : ∀ l, l.id = id → (f l).entry = (id, members))
    (hn : members.Nodup) (htwo : 2 ≤ members.length)
    (hfree : ∀ a ∈ c.roster, a.1 ≠ id → ∀ m ∈ members, m ∉ a.2) :
    WellKept (c.update id f).roster := by
  rw [roster_update_members members hf]
  exact h.replace hn htwo hfree

theorem free_of_member (h : WellKept c.roster) (hl : l ∈ c.groups) :
    ∀ a ∈ c.roster, a.1 ≠ l.id → ∀ m ∈ l.group.members, m ∉ a.2 := by
  intro a ha hne m hm hma
  obtain ⟨k, hk, rfl⟩ := List.mem_map.mp ha
  exact hne (congrArg LiveGroup.id (eq_of_common_member h hk hl hma hm))

theorem expel_cases (c : Coordinator) (control : String) (l : LiveGroup) :
    (l.group.without control).isValid = true ∧
        (c.expel control l).1 = { (c.cancel l).update l.id (fun k =>
            { k with group := l.group.without control }) with
          rules := c.rules.filter fun r => !r.touches l.id control } ∧
        (c.expel control l).2 = some (l.group.without control) ∨
      (l.group.without control).isValid = false ∧ c.expel control l = (c.drop l, none) := by
  cases hv : (l.group.without control).isValid with
  | true => exact .inl ⟨rfl, by simp only [expel, hv, if_true]; rfl, by simp [expel, hv]⟩
  | false => exact .inr ⟨rfl, by simp [expel, hv]⟩

theorem mem_members_without {g : Group} {m : String} :
    m ∈ (g.without control).members ↔ m ∈ g.members ∧ m ≠ control := by
  simp [Group.without, Group.others]

theorem wellKept_expel (h : WellKept c.roster) (hl : l ∈ c.groups) :
    WellKept (c.expel control l).1.roster := by
  rcases expel_cases c control l with ⟨hv, he, _⟩ | ⟨_, he⟩
  · rw [he]
    change WellKept ((c.cancel l).update l.id _).roster
    refine wellKept_update (by rwa [roster_cancel]) ?_ (Group.nodup_of_isValid hv)
      (Group.two_le_of_isValid hv) ?_
    · intro k hk
      rfl
    · intro a ha hne m hm
      rw [roster_cancel] at ha
      exact free_of_member h hl a ha hne m (mem_members_without.mp hm).1
  · rw [he]
    exact wellKept_drop h

theorem owners_cases (h : WellKept c.roster) (control keep : String) :
    (c.groups.filter fun l => l.id != keep && l.group.contains control) = [] ∨
      ∃ l ∈ c.groups, l.id ≠ keep ∧ control ∈ l.group.members ∧
        (c.groups.filter fun l => l.id != keep && l.group.contains control) = [l] := by
  cases hf : c.groups.filter fun l => l.id != keep && l.group.contains control with
  | nil => exact .inl rfl
  | cons l rest =>
    have hmem : ∀ k ∈ l :: rest, k ∈ c.groups ∧ k.id ≠ keep ∧ control ∈ k.group.members := by
      intro k hk
      rw [← hf] at hk
      simpa [Group.contains] using hk
    obtain ⟨hl, hne, hm⟩ := hmem l List.mem_cons_self
    -- a second owner would be the first one again, and groups are listed once
    have hrest : rest = [] := by
      rw [List.eq_nil_iff_forall_not_mem]
      intro k hk
      obtain ⟨hkc, _, hkm⟩ := hmem k (List.mem_cons_of_mem _ hk)
      obtain rfl := eq_of_common_member h hl hkc hm hkm
      have hsub := (groups_nodup h).filter fun l => l.id != keep && l.group.contains control
      rw [hf] at hsub
      exact (List.nodup_cons.mp hsub).1 hk
    subst hrest
    exact .inr ⟨l, hl, hne, hm, rfl⟩

theorem detach_eq (h : WellKept c.roster) (control keep : String) :
    ((∀ l ∈ c.groups, l.id ≠ keep → control ∉ l.group.members) ∧
        c.detach control keep = (c, .none)) ∨
      ∃ l ∈ c.groups, l.id ≠ keep ∧ control ∈ l.group.members ∧ c.detach control keep =
        ((c.expel control l).1, expelWrites l.id (c.expel control l).2) := by
  unfold detach
  rcases owners_cases h control keep with hf | ⟨l, hl, hne, hm, hf⟩
  · refine .inl ⟨?_, by rw [hf]; rfl⟩
    simpa [Group.contains] using hf
  · exact .inr ⟨l, hl, hne, hm, by rw [hf]; rfl⟩

theorem detach_cases (h : WellKept c.roster) (control keep : String) :
    ((∀ l ∈ c.groups, l.id ≠ keep → control ∉ l.group.members) ∧ (c.detach control keep).1 = c) ∨
      ∃ l ∈ c.groups, l.id ≠ keep ∧ control ∈ l.group.members ∧
        (c.detach control keep).1 = (c.expel control l).1 := by
  rcases detach_eq h control keep with ⟨hfree, he⟩ | ⟨l, hl, hne, hm, he⟩
  · exact .inl ⟨hfree, congrArg Prod.fst he⟩
  · exact .inr ⟨l, hl, hne, hm, congrArg Prod.fst he⟩

theorem detachAll_eq_foldl (c : Coordinator) (controls : List String) (keep : String) :
    (c.detachAll controls keep).1 = controls.foldl (fun c control => (c.detach control keep).1) c := by
  unfold detachAll
  generalize Writes.none = w
  induction controls generalizing c w with
  | nil => rfl
  | cons control rest ih => exact ih _ _

theorem detachAll_induction {P : Coordinator → Prop} (hc : P c) (hwk : ∀ d, P d → WellKept d.roster)
    (hexpel : ∀ d l m, P d → l ∈ d.groups → l.id ≠ keep → m ∈ l.group.members →
      P (d.expel m l).1) (controls : List String) : P (c.detachAll controls keep).1 := by
  rw [detachAll_eq_foldl]
  induction controls generalizing c with
  | nil => exact hc
  | cons m rest ih =>
    refine ih ?_
    change P (c.detach m keep).1
    rcases detach_cases (hwk c hc) m keep with ⟨_, he⟩ | ⟨l, hl, hne, hm, he⟩
    · rwa [he]
    · rw [he]
      exact hexpel c l m hc hl hne hm

theorem detachAll_of_expel {P : Coordinator → Prop} (h : WellKept c.roster) (hc : P c)
    (hexpel : ∀ d l m, WellKept d.roster → P d → l ∈ d.groups → l.id ≠ keep →
      m ∈ l.group.members → P (d.expel m l).1) (controls : List String) :
    P (c.detachAll controls keep).1 := by
  have hboth : WellKept (c.detachAll controls keep).1.roster ∧ P (c.detachAll controls keep).1 := by
    refine detachAll_induction (P := fun d => WellKept d.roster ∧ P d) ⟨h, hc⟩ (fun _ hd => hd.1) ?_
      controls
    intro d l m hd hl hne hm
    exact ⟨wellKept_expel hd.1 hl, hexpel d l m hd.1 hd.2 hl hne hm⟩
  exact hboth.2

theorem mem_roster_expel (hl : l ∈ c.groups) {a : String × List String}
    (ha : a ∈ (c.expel control l).1.roster) :
    ∃ b ∈ c.roster, b.1 = a.1 ∧ ∀ m ∈ a.2, m ∈ b.2 ∧ (a.1 = l.id → m ≠ control) := by
  rcases expel_cases c control l with ⟨_, he, _⟩ | ⟨_, he⟩
  · rw [he] at ha
    change a ∈ ((c.cancel l).update l.id _).roster at ha
    rw [roster_update_members (l.group.without control).members (fun k hk => rfl),
      roster_cancel] at ha
    obtain ⟨b, hb, rfl⟩ := List.mem_map.mp ha
    by_cases hbl : b.1 = l.id
    · rw [if_pos hbl]
      refine ⟨l.entry, List.mem_map_of_mem hl, rfl, ?_⟩
      intro m hm
      exact ⟨(mem_members_without.mp hm).1, fun _ => (mem_members_without.mp hm).2⟩
    · rw [if_neg hbl]
      exact ⟨b, hb, rfl, fun m hm => ⟨hm, fun h => absurd h hbl⟩⟩
  · rw [he] at ha
    obtain ⟨k, hk, rfl⟩ := List.mem_map.mp ha
    simp only [drop, List.mem_filter, bne_iff_ne] at hk
    exact ⟨k.entry, List.mem_map_of_mem hk.1, rfl, fun m hm => ⟨hm, fun h => absurd h hk.2⟩⟩

theorem wellKept_detachAll (h : WellKept c.roster) (controls : List String) (keep : String) :
    WellKept (c.detachAll controls keep).1.roster :=
  detachAll_induction h (fun _ h => h) (fun _ _ _ h hl _ _ => wellKept_expel h hl) controls

theorem mem_roster_detach (h : WellKept c.roster) {a : String × List String}
    (ha : a ∈ (c.detach control keep).1.roster) :
    (∃ b ∈ c.roster, b.1 = a.1 ∧ ∀ m ∈ a.2, m ∈ b.2) ∧ (a.1 ≠ keep → control ∉ a.2) := by
  rcases detach_cases h control keep with ⟨hfree, he⟩ | ⟨l, hl, hne, hm, he⟩
  · rw [he] at ha
    refine ⟨⟨a, ha, rfl, fun _ hm => hm⟩, ?_⟩
    obtain ⟨k, hk, rfl⟩ := List.mem_map.mp ha
    exact hfree k hk
  · rw [he] at ha
    obtain ⟨b, hb, hba, hsub⟩ := mem_roster_expel hl ha
    refine ⟨⟨b, hb, hba, fun m hm => (hsub m hm).1⟩, ?_⟩
    intro _ hma
    by_cases hal : a.1 = l.id
    · exact (hsub control hma).2 hal rfl
    · exact free_of_member h hl b hb (hba ▸ hal) control hm (hsub control hma).1

theorem mem_roster_detachAll (h : WellKept c.roster) {controls : List String}
    {a : String × List String} (ha : a ∈ (c.detachAll controls keep).1.roster) :
    (∃ b ∈ c.roster, b.1 = a.1 ∧ ∀ m ∈ a.2, m ∈ b.2) ∧
      (a.1 ≠ keep → ∀ m ∈ controls, m ∉ a.2) := by
  rw [detachAll_eq_foldl] at ha
  induction controls generalizing c with
  | nil => exact ⟨⟨a, ha, rfl, fun _ hm => hm⟩, by simp⟩
  | cons control rest ih =>
    have hd : WellKept (c.detach control keep).1.roster := wellKept_detachAll h [control] keep
    obtain ⟨⟨b, hb, hba, hsub⟩, hrest⟩ := ih hd ha
    obtain ⟨⟨b', hb', hbb', hsub'⟩, hcontrol⟩ := mem_roster_detach h hb
    refine ⟨⟨b', hb', hbb'.trans hba, fun m hm => hsub' m (hsub m hm)⟩, ?_⟩
    intro hne m hm hma
    rcases List.mem_cons.mp hm with rfl | hm
    · exact hcontrol (hba ▸ hne) (hsub m hma)
    · exact hrest hne m hm hma

theorem wellKept_createGroup {g : Group} {o : Outcome Group} (h : WellKept c.roster)
    (ho : c.createGroup g = .ok o) : WellKept o.next.roster := by
  obtain ⟨hg, _, hnext⟩ := createGroup_eq_ok ho
  rw [hnext]
  exact wellKept_takeIn (wellKept_detachAll h _ _) hg fun a ha => (mem_roster_detachAll h ha).2

theorem wellKept_updateGroup {g : Group} {o : Outcome Group} (h : WellKept c.roster)
    (ho : c.updateGroup g = .ok o) : WellKept o.next.roster := by
  obtain ⟨hg, l, _, hnext⟩ := updateGroup_eq_ok ho
  have hc : WellKept (c.cancel l).roster := by rwa [roster_cancel]
  rw [hnext]
  refine wellKept_update (c := { (Coordinator.detachAll _ _ _).1 with rules := _ })
    (wellKept_detachAll hc g.members g.id) (fun _ _ => rfl) (Group.nodup_of_isValid hg)
    (Group.two_le_of_isValid hg) ?_
  exact fun a ha => (mem_roster_detachAll hc ha).2

theorem wellKept_addMember {o : Outcome Group} (h : WellKept c.roster)
    (ho : c.addMember id control = .ok o) : WellKept o.next.roster := by
  obtain ⟨l, hl, ⟨_, hnext⟩ | ⟨hm, hnext⟩⟩ := addMember_eq_ok ho
  · rwa [hnext]
  · have hmem := List.mem_map_of_mem (f := LiveGroup.entry) (mem_of_live? hl)
    have hd : WellKept ((c.detach control id).1.cancel l).roster := by
      rw [roster_cancel]
      exact wellKept_detachAll h [control] id
    rw [hnext]
    refine wellKept_update hd (fun _ _ => rfl) ?_ ?_ ?_
    · exact List.nodup_append.mpr ⟨h.nodup _ hmem, by simp, by
        intro a ha b hb
        rw [List.mem_singleton.mp hb]
        exact fun he => hm (he ▸ ha)⟩
    · have htwo : 2 ≤ l.group.members.length := h.two_le _ hmem
      simpa using Nat.le_succ_of_le htwo
    · intro a ha hne m hma
      rw [roster_cancel] at ha
      obtain ⟨⟨b, hb, hba, hsub⟩, hcontrol⟩ := mem_roster_detach h ha
      rcases List.mem_append.mp hma with hma | hma
      · exact fun hm2 => free_of_member h (mem_of_live? hl) b hb (hba ▸ hne) m hma (hsub m hm2)
      · rw [List.mem_singleton.mp hma]
        exact hcontrol (id_of_live? hl ▸ hne)

theorem wellKept_deleteGroup {o : Outcome Unit} (h : WellKept c.roster)
    (ho : c.deleteGroup id = .ok o) : WellKept o.next.roster := by
  obtain ⟨l, _, hnext⟩ := deleteGroup_eq_ok ho
  exact hnext ▸ wellKept_drop h

theorem wellKept_removeMember {o : Outcome (Option Group)} (h : WellKept c.roster)
    (ho : c.removeMember id control = .ok o) : WellKept o.next.roster := by
  obtain ⟨l, hl, _, hnext⟩ := removeMember_eq_ok ho
  exact hnext ▸ wellKept_expel h (mem_of_live? hl)

theorem wellKept_setEnabled {enabled : Bool} {o : Outcome Group} (h : WellKept c.roster)
    (ho : c.setEnabled id enabled = .ok o) : WellKept o.next.roster := by
  obtain ⟨l, hl, hnext⟩ := setEnabled_eq_ok ho
  have hl := mem_of_live? hl
  have hc : (if enabled then c else c.cancel l).roster = c.roster := by
    split
    · rfl
    · exact roster_cancel
  have hmem := List.mem_map_of_mem (f := LiveGroup.entry) hl
  rw [hnext]
  refine wellKept_update (by rwa [hc]) (fun _ _ => rfl) (h.nodup _ hmem) (h.two_le _ hmem) ?_
  rw [hc]
  exact free_of_member h hl

theorem wellKept_loadGroups (h : WellKept c.roster) (stored : List Group) :
    WellKept (c.loadGroups stored).2.roster := by
  refine loadGroups_induction (P := fun d => WellKept d.roster) h ?_ stored
  intro d g hd hg hfree
  refine wellKept_takeIn hd hg ?_
  intro a ha _ m hm hma
  obtain ⟨k, hk, rfl⟩ := List.mem_map.mp ha
  have hma : m ∈ k.group.members := hma
  exact List.find?_eq_none.mp (hfree m hm) k hk (by simpa [Group.contains] using hma)

theorem wellKept_perform (h : WellKept c.roster) (now : Int) (op : Operation) :
    WellKept (c.perform now op).roster := by
  have keep {ε α : Type} {next : α → Coordinator} {r : Except ε α}
      (hok : ∀ a, r = .ok a → WellKept (next a).roster) : WellKept (c.after next r).roster :=
    after_induction (P := fun d => WellKept d.roster) h hok
  cases op with
  | createGroup g => exact keep fun _ ho => wellKept_createGroup h ho
  | updateGroup g => exact keep fun _ ho => wellKept_updateGroup h ho
  | deleteGroup id => exact keep fun _ ho => wellKept_deleteGroup h ho
  | addMember id control => exact keep fun _ ho => wellKept_addMember h ho
  | removeMember id control => exact keep fun _ ho => wellKept_removeMember h ho
  | setEnabled id enabled => exact keep fun _ ho => wellKept_setEnabled h ho
  | loadGroups stored => exact wellKept_loadGroups h stored
  | addRule r =>
    refine keep fun a ha => ?_
    obtain ⟨_, _, _, _, _, hd⟩ := addRule_eq_ok ha
    exact hd ▸ h
  | removeRule id => exact keep fun a ha => (removeRule_eq_ok ha).2.2 ▸ h
  | setCombinator id f =>
    refine keep fun d hd => ?_
    obtain ⟨_, _, rfl⟩ := setCombinator_eq_ok hd
    exact h
  | change control v origin => exact keep fun r hr => (roster_handleChange hr).symm ▸ h
  | flush id => exact keep fun o ho => (roster_flush ho).symm ▸ h
  | resolve id v resolver => exact keep fun r hr => (roster_resolveConflict hr).symm ▸ h
  | ignore id =>
    refine keep fun a ha => ?_
    obtain ⟨_, _, hd⟩ := ignoreConflict_eq_ok ha
    exact hd ▸ h
  | shutdown => exact (roster_shutdown (c := c)).symm ▸ h
  | expire t =>
    simp only [perform]
    split
    · rwa [roster_fire]
    · exact h
  | act a => exact keep fun _ _ => h

theorem Reachable.wellKept (h : Reachable c) : WellKept c.roster := by
  induction h with
  | start settings store nextConflict => exact .nil
  | step now op _ ih => exact wellKept_perform ih now op

theorem find?_eq_of_contains (h : WellKept c.roster) {order : List LiveGroup}
    (hsub : ∀ k ∈ order, k ∈ c.groups) (hl : l ∈ order) (hm : control ∈ l.group.members) :
    order.find? (·.group.contains control) = some l := by
  cases hf : order.find? (·.group.contains control) with
  | none =>
    have hno := List.find?_eq_none.mp hf l hl
    exact absurd hm (by simpa [Group.contains] using hno)
  | some k =>
    have hkc := hsub k (List.mem_of_find?_eq_some hf)
    rw [eq_of_common_member h hkc (hsub l hl) (mem_of_find?_contains hf) hm]

theorem membership_exclusive (h : Reachable c) :
    (∀ l ∈ c.groups, l.group.members.Nodup) ∧
      (c.groups.Pairwise fun l k =>
        l.id ≠ k.id ∧ ∀ control ∈ l.group.members, control ∉ k.group.members) ∧
      (∀ l ∈ c.groups, ∀ control ∈ l.group.members, c.groupOf? control = some l.group) ∧
      ∀ order : List LiveGroup, order.Perm c.groups → ∀ control,
        (order.find? (·.group.contains control)).map (·.group) = c.groupOf? control := by
  have hwk := h.wellKept
  have hfound : ∀ l ∈ c.groups, ∀ control ∈ l.group.members,
      c.groupOf? control = some l.group := by
    intro l hl control hm
    have hf : c.liveOf? control = some l := find?_eq_of_contains hwk (fun _ hk => hk) hl hm
    simp [groupOf?, hf]
  refine ⟨fun l hl => hwk.nodup _ (List.mem_map_of_mem hl), List.pairwise_map.mp hwk.apart, hfound, ?_⟩
  intro order hperm control
  cases hf : order.find? (·.group.contains control) with
  | some l =>
    have hl := hperm.subset (List.mem_of_find?_eq_some hf)
    have hm : control ∈ l.group.members := by simpa [Group.contains] using List.find?_some hf
    exact (hfound l hl control hm).symm
  | none =>
    have hnone : c.liveOf? control = none := by
      rw [liveOf?, List.find?_eq_none]
      exact fun k hk => List.find?_eq_none.mp hf k (hperm.symm.subset hk)
    simp [groupOf?, hnone]

def movedMember : Coordinator :=
  (start .default .empty 0).performAll [
    (0, .createGroup ⟨"g", "g", ["a", "b", "c"], .bidirectional, none, .latestWins, true, none⟩),
    (1, .createGroup ⟨"h", "h", ["c", "d"], .broadcast, none, .latestWins, true, none⟩)]

theorem membership_exclusive_movedMember :
    Reachable movedMember ∧ movedMember.groups.reverse.Perm movedMember.groups ∧
      movedMember.roster = [("g", ["a", "b"]), ("h", ["c", "d"])] ∧
      (movedMember.groups.reverse.find? (·.group.contains "c")).map (·.group) =
        movedMember.groupOf? "c" := by
  have h : Reachable movedMember := (Reachable.start _ _ _).performAll _
  have hperm := List.reverse_perm movedMember.groups
  exact ⟨h, hperm, by decide, (membership_exclusive h).2.2.2 _ hperm "c"⟩

end Coordinator

end LinkedControls
