import LinkedControls.Proofs.Sync.Clockwork

/-!
What one operation does to all windows. A window is kept as it is while its group keeps its members and
nothing closes or drops it.
-/

namespace LinkedControls.Coordinator

variable {c d e : Coordinator} {l k : LiveGroup} {g : Group} {id i control keep : String}
  {op : Operation}

def windowOf? (c : Coordinator) (id : String) : Option (List Competing) := (c.live? id).map (·.window)

def membersOf? (c : Coordinator) (id : String) : Option (List String) :=
  (c.live? id).map (·.group.members)

theorem membersOf?_eq (c : Coordinator) (id : String) :
    c.membersOf? id = (c.roster.find? (·.1 == id)).map (·.2) := by
  rw [roster, List.find?_map, Option.map_map]
  rfl

theorem membersOf?_of_roster (h : d.roster = c.roster) (id : String) :
    d.membersOf? id = c.membersOf? id := by
  rw [membersOf?_eq, membersOf?_eq, h]

theorem membersOf?_update {f : LiveGroup → LiveGroup} (hid : ∀ l, l.id = id → (f l).id = id)
    (hf : ∀ l, c.live? id = some l → (f l).group.members = l.group.members) (i : String) :
    (c.update id f).membersOf? i = c.membersOf? i := by
  rw [membersOf?, membersOf?, live?_update hid]
  by_cases hi : i = id
  · subst hi
    rw [if_pos rfl]
    cases hl : c.live? i with
    | none => rfl
    | some l => simp [hf l hl]
  · rw [if_neg hi]

theorem Steady.windowOf? (h : Steady c d) (id : String) : d.windowOf? id = c.windowOf? id := by
  unfold Coordinator.windowOf?
  cases hd : d.live? id with
  | none =>
    cases hc : c.live? id with
    | none => rfl
    | some l => simpa [hc, hd] using h.known id
  | some k =>
    obtain ⟨l, hl, hclock, _⟩ := h.live id k hd
    rw [hl]
    exact congrArg some (congrArg Prod.fst hclock)

inductive Passes (c : Coordinator) (id : String) (d : Coordinator) : Prop
  | same (members : d.membersOf? id = c.membersOf? id) (window : d.windowOf? id = c.windowOf? id)
  | lost (members : d.membersOf? id ≠ c.membersOf? id)
      (window : ∀ l, d.live? id = some l → l.window = [])

theorem passes_of_live? (h : d.live? id = c.live? id) : Passes c id d :=
  .same (by rw [membersOf?, membersOf?, h]) (by rw [windowOf?, windowOf?, h])

theorem passes_of_steady (hs : Steady c d) (hm : d.membersOf? id = c.membersOf? id) :
    Passes c id d :=
  .same hm (hs.windowOf? id)

theorem Passes.congr (h : Passes c id d) (he : e.live? id = d.live? id) : Passes c id e := by
  have hm : e.membersOf? id = d.membersOf? id := by rw [membersOf?, membersOf?, he]
  have hw : e.windowOf? id = d.windowOf? id := by rw [windowOf?, windowOf?, he]
  cases h with
  | same members window => exact .same (hm.trans members) (hw.trans window)
  | lost members window => exact .lost (hm ▸ members) (he ▸ window)

theorem Passes.of_start (h : Passes d id e) (he : d.live? id = c.live? id) : Passes c id e := by
  have hm : d.membersOf? id = c.membersOf? id := by rw [membersOf?, membersOf?, he]
  have hw : d.windowOf? id = c.windowOf? id := by rw [windowOf?, windowOf?, he]
  cases h with
  | same members window => exact .same (members.trans hm) (window.trans hw)
  | lost members window => exact .lost (hm ▸ members) window

structure Detached (c d : Coordinator) : Prop where
  settings : d.settings = c.settings
  wellKept : WellKept d.roster
  clockwork : Clockwork d
  timers : d.timers.Sublist c.timers
  groups : ∀ i, d.live? i = c.live? i ∨ ∃ l, c.live? i = some l ∧ ∀ k, d.live? i = some k →
    k.window = [] ∧ k.group.members.length < l.group.members.length

namespace Detached

theorem refl (hwk : WellKept c.roster) (hc : Clockwork c) : Detached c c :=
  ⟨rfl, hwk, hc, .refl _, fun _ => .inl rfl⟩

theorem passes (h : Detached c d) (id : String) : Passes c id d := by
  rcases h.groups id with he | ⟨l, hl, hk⟩
  · exact passes_of_live? he
  · refine .lost ?_ fun k hdk => (hk k hdk).1
    intro hm
    rw [membersOf?, membersOf?, hl] at hm
    obtain ⟨k, hdk, hmem⟩ := Option.map_eq_some_iff.mp hm
    have hlt := (hk k hdk).2
    rw [hmem] at hlt
    exact Nat.lt_irrefl _ hlt

theorem none (h : Detached c d) (hl : c.live? id = none) : d.live? id = none := by
  rcases h.groups id with he | ⟨l, hl', _⟩
  · exact he.trans hl
  · rw [hl] at hl'
    cases hl'

theorem then_shrink (h : Detached c d) (hwk : WellKept e.roster) (hs : Silences d l.id e)
    (hl : d.live? l.id = some l)
    (hk : ∀ k, e.live? l.id = some k → k.group.members.length < l.group.members.length) :
    Detached c e := by
  have htimers : e.timers.Sublist c.timers := (hs.timers ▸ List.filter_sublist).trans h.timers
  refine ⟨hs.settings.trans h.settings, hwk, h.clockwork.silences hs, htimers, ?_⟩
  intro i
  by_cases hi : i = l.id
  · subst hi
    refine .inr ?_
    rcases h.groups l.id with he | ⟨m, hm, hlt⟩
    · exact ⟨l, he ▸ hl, fun k hek => ⟨(hs.rest k hek).1, hk k hek⟩⟩
    · exact ⟨m, hm, fun k hek =>
        ⟨(hs.rest k hek).1, Nat.lt_trans (hk k hek) (hlt l hl).2⟩⟩
  · rw [hs.others i hi]
    exact h.groups i

end Detached

theorem length_members_without (hm : control ∈ g.members) :
    (g.without control).members.length < g.members.length := by
  have hlt := List.length_filter_lt_length_iff_exists (p := (· != control)) (l := g.members)
  exact hlt.mpr ⟨control, hm, by simp⟩

theorem live?_expel (hl : c.live? l.id = some l) : (c.expel control l).1.live? i =
    if i = l.id then
      if (l.group.without control).isValid then some { l.reset with group := l.group.without control }
      else none
    else c.live? i := by
  rcases expel_cases c control l with ⟨hv, he, _⟩ | ⟨hv, he⟩
  · have hlive : (c.expel control l).1.live? i = ((c.cancel l).update l.id fun k =>
        { k with group := l.group.without control }).live? i := by rw [he]; rfl
    rw [hlive, live?_update, live?_cancel]
    · by_cases hi : i = l.id
      · simp [hi, hl, hv]
      · simp [hi]
    · exact fun _ _ => rfl
  · rw [he, live?_drop]
    by_cases hi : i = l.id
    · simp [hi, hv]
    · simp [hi]

theorem live?_detachAll_keep (hwk : WellKept c.roster) (controls : List String) :
    (c.detachAll controls keep).1.live? keep = c.live? keep := by
  refine detachAll_of_expel (P := fun d => d.live? keep = c.live? keep) hwk rfl ?_ controls
  intro d l m hdwk hd hl hne _
  rw [live?_expel (live?_of_wellKept hdwk hl), if_neg (Ne.symm hne)]
  exact hd

theorem silences_expel (hc : Clockwork c) (hl : c.live? l.id = some l) :
    Silences c l.id (c.expel control l).1 := by
  have htimers : (c.expel control l).1.timers = (c.stopTimer l.timer).timers ∧
      (c.expel control l).1.settings = c.settings ∧
      (c.expel control l).1.nextTimer = c.nextTimer := by
    rcases expel_cases c control l with ⟨_, he, _⟩ | ⟨_, he⟩ <;> rw [he] <;> exact ⟨rfl, rfl, rfl⟩
  refine ⟨htimers.2.1, htimers.1.trans (hc.stopTimer hl), htimers.2.2, ?_, ?_⟩
  · intro i hi
    rw [live?_expel hl, if_neg hi]
  · intro k hk
    rw [live?_expel hl, if_pos rfl] at hk
    split at hk
    · exact Option.some.inj hk ▸ ⟨rfl, rfl, rfl⟩
    · cases hk

theorem Detached.expel (h : Detached c d) (hl : l ∈ d.groups) (hm : control ∈ l.group.members) :
    Detached c (d.expel control l).1 := by
  have hlive := live?_of_wellKept h.wellKept hl
  refine h.then_shrink (wellKept_expel h.wellKept hl) (silences_expel h.clockwork hlive) hlive ?_
  intro k hk
  rw [live?_expel hlive, if_pos rfl] at hk
  split at hk
  · exact Option.some.inj hk ▸ length_members_without hm
  · cases hk

theorem detached_drop (hwk : WellKept c.roster) (hc : Clockwork c) (hl : c.live? l.id = some l) :
    Detached c (c.drop l) := by
  refine (Detached.refl hwk hc).then_shrink (wellKept_drop hwk) (silences_drop hc hl) hl ?_
  intro k hk
  rw [live?_drop, if_pos rfl] at hk
  cases hk

theorem detached_detachAll (hwk : WellKept c.roster) (hc : Clockwork c) (controls : List String)
    (keep : String) : Detached c (c.detachAll controls keep).1 ∧
      (c.detachAll controls keep).1.live? keep = c.live? keep := by
  refine ⟨?_, live?_detachAll_keep hwk controls⟩
  exact detachAll_induction (.refl hwk hc) (fun _ hd => hd.wellKept)
    (fun _ _ _ hd hl _ hm => hd.expel hl hm) controls

def interrupts (c : Coordinator) (id : String) : Operation → Bool
  | .updateGroup g => g.id == id && g.isValid
  | .setEnabled i enabled => i == id && !enabled
  | .flush i => i == id
  | .expire t => c.timers.contains t && t.group == id
  | .shutdown => true
  | _ => false

structure Turn (c : Coordinator) (op : Operation) (d : Coordinator) : Prop where
  settings : d.settings = c.settings
  clockwork : Clockwork d
  timers : d.timers.Sublist c.timers
  passes : ∀ id, c.interrupts id op = false → Passes c id d
  dropped : ∀ id, c.interrupts id op = true → ∀ l, d.live? id = some l → l.window = []

theorem turn_refl (hc : Clockwork c) (h : ∀ id, c.interrupts id op = true → c.live? id = none) :
    Turn c op c := by
  refine ⟨rfl, hc, .refl _, fun id _ => passes_of_live? rfl, ?_⟩
  intro id hid l hl
  rw [h id hid] at hl
  cases hl

theorem turn_steady (hc : Clockwork c) (hs : Steady c d)
    (hm : ∀ id, d.membersOf? id = c.membersOf? id) (hno : ∀ id, c.interrupts id op = false) :
    Turn c op d := by
  refine ⟨hs.settings, hc.steady hs, hs.timers ▸ .refl _, fun id _ => passes_of_steady hs (hm id), ?_⟩
  intro id hid
  rw [hno id] at hid
  cases hid

theorem turn_detached (hd : Detached c d) (hno : ∀ id, c.interrupts id op = false) :
    Turn c op d := by
  refine ⟨hd.settings, hd.clockwork, hd.timers, fun id _ => hd.passes id, ?_⟩
  intro id hid
  rw [hno id] at hid
  cases hid

theorem Steady.window (hs : Steady c d) (hw : ∀ l, c.live? id = some l → l.window = []) :
    ∀ l, d.live? id = some l → l.window = [] := by
  intro k hk
  obtain ⟨l, hl, hclock, _⟩ := hs.live id k hk
  exact (congrArg Prod.fst hclock).trans (hw l hl)

theorem turn_silences (hc : Clockwork c) (hs : Silences c id e) (hst : Steady e d)
    (hm : ∀ i, d.membersOf? i = c.membersOf? i) (hself : ∀ i, c.interrupts i op = true ↔ i = id) :
    Turn c op d := by
  refine ⟨hst.settings.trans hs.settings, (hc.silences hs).steady hst, ?_, ?_, ?_⟩
  · rw [hst.timers, hs.timers]
    exact List.filter_sublist
  · intro i hi
    have hne : i ≠ id := by
      intro he
      rw [(hself i).mpr he] at hi
      cases hi
    refine .same (hm i) ((hst.windowOf? i).trans ?_)
    rw [windowOf?, windowOf?, hs.others i hne]
  · intro i hi
    obtain rfl := (hself i).mp hi
    exact hst.window fun l hl => (hs.rest l hl).1

theorem turn_createGroup {o : Outcome Group} (hwk : WellKept c.roster) (hc : Clockwork c)
    (ho : c.createGroup g = .ok o) : Turn c (.createGroup g) o.next := by
  obtain ⟨_, hnone, hnext⟩ := createGroup_eq_ok ho
  obtain ⟨hd, _⟩ := detached_detachAll hwk hc g.members g.id
  have hnone' := hd.none hnone
  rw [hnext]
  refine ⟨hd.settings, hd.clockwork.takeIn fun l hl => ?_, hd.timers, ?_, fun _ hid => by cases hid⟩
  · rw [hnone'] at hl
    cases hl
  · intro id _
    by_cases hid : id = g.id
    · subst hid
      refine .lost ?_ ?_
      · rw [membersOf?, membersOf?, live?_takeIn, if_pos rfl, hnone]
        simp
      · intro l hl
        rw [live?_takeIn, if_pos rfl] at hl
        exact Option.some.inj hl ▸ rfl
    · exact (hd.passes id).congr (by rw [live?_takeIn, if_neg hid])

theorem steady_redefine (hw : ∀ l, c.live? g.id = some l → l.window = []) :
    Steady c (c.redefine g) := by
  have hrules : Steady c { c with
      rules := c.rules.filter fun r =>
        r.group != g.id || (g.contains r.source && g.contains r.target) } :=
    steady_of_groups rfl rfl rfl rfl
  refine hrules.trans (steady_update ?_ ?_)
  · exact fun _ _ => rfl
  · exact fun l hl => ⟨rfl, .inl (hw l hl)⟩

theorem live?_redefine_of_ne (hi : i ≠ g.id) : (c.redefine g).live? i = c.live? i := by
  refine live?_update_of_ne (c := { c with rules := _ }) ?_ hi
  exact fun _ _ => rfl

theorem live?_redefine (hl : c.live? g.id = some l) : (c.redefine g).live? g.id =
    some { l with group := { g with lastSync := g.lastSync <|> l.group.lastSync } } := by
  refine live?_update_self (c := { c with rules := _ }) ?_ hl
  exact fun _ _ => rfl

theorem turn_updateGroup {o : Outcome Group} (hwk : WellKept c.roster) (hc : Clockwork c)
    (ho : c.updateGroup g = .ok o) : Turn c (.updateGroup g) o.next := by
  obtain ⟨hg, l, hl, hnext⟩ := updateGroup_eq_ok ho
  have hs := silences_cancel hc hl
  have hself : (c.cancel l).live? g.id = some l.reset := by
    rw [live?_cancel, if_pos (id_of_live? hl).symm, hl]
    rfl
  obtain ⟨hd, hkeep⟩ := detached_detachAll (c := c.cancel l) (by rwa [roster_cancel])
    (hc.silences hs) g.members g.id
  rw [hself] at hkeep
  have hempty : ∀ k, ((c.cancel l).detachAll g.members g.id).1.live? g.id = some k →
      k.window = [] := fun k hk => Option.some.inj (hkeep.symm.trans hk) ▸ rfl
  have hst := steady_redefine hempty
  rw [hnext]
  refine ⟨hst.settings.trans (hd.settings.trans hs.settings), hd.clockwork.steady hst, ?_, ?_, ?_⟩
  · rw [hst.timers]
    exact hd.timers.trans (hs.timers ▸ List.filter_sublist)
  · intro id hid
    have hne : id ≠ g.id := by
      intro he
      simp [interrupts, he, hg] at hid
    have hpasses := (hd.passes id).congr (live?_redefine_of_ne hne)
    exact hpasses.of_start (hs.others id hne)
  · intro id hid
    have he : g.id = id ∧ g.isValid = true := by simpa [interrupts] using hid
    obtain ⟨rfl, _⟩ := he
    exact hst.window hempty

theorem live?_enrol (hl : c.live? l.id = some l) : (c.enrol l control).live? i =
    if i = l.id then
      some { l.reset with group := { l.group with members := l.group.members ++ [control] } }
    else c.live? i := by
  unfold enrol
  rw [live?_update, live?_cancel]
  · by_cases hi : i = l.id
    · simp [hi, hl]
    · simp [hi]
  · exact fun _ _ => rfl

theorem turn_addMember {o : Outcome Group} (hwk : WellKept c.roster) (hc : Clockwork c)
    (ho : c.addMember id control = .ok o) : Turn c (.addMember id control) o.next := by
  obtain ⟨l, hl, ⟨_, hnext⟩ | ⟨hm, hnext⟩⟩ := addMember_eq_ok ho
  · rw [hnext]
    exact turn_refl hc fun _ hid => by cases hid
  · obtain rfl := id_of_live? hl
    -- the control leaves its old group first, which does not touch the one it joins
    obtain ⟨hd, hkeep⟩ : Detached c (c.detach control l.id).1 ∧
        (c.detach control l.id).1.live? l.id = c.live? l.id :=
      detached_detachAll hwk hc [control] l.id
    have hself := hkeep.trans hl
    have hs := silences_cancel hd.clockwork hself
    have hst : Steady ((c.detach control l.id).1.cancel l)
        ((c.detach control l.id).1.enrol l control) := by
      refine steady_update ?_ ?_
      · exact fun _ _ => rfl
      · exact fun k hk => ⟨rfl, .inl (hs.rest k hk).1⟩
    rw [hnext]
    refine ⟨hst.settings.trans (hs.settings.trans hd.settings),
      (hd.clockwork.silences hs).steady hst, ?_, ?_, fun _ hid => by cases hid⟩
    · rw [hst.timers]
      exact (hs.timers ▸ List.filter_sublist).trans hd.timers
    · intro i _
      by_cases hi : i = l.id
      · subst hi
        refine .lost ?_ ?_
        · rw [membersOf?, membersOf?, live?_enrol hself, if_pos rfl, hl]
          simp
        · intro k hk
          rw [live?_enrol hself, if_pos rfl] at hk
          exact Option.some.inj hk ▸ rfl
      · exact (hd.passes i).congr (by rw [live?_enrol hself, if_neg hi])

theorem turn_setEnabled {enabled : Bool} {o : Outcome Group} (hc : Clockwork c)
    (ho : c.setEnabled id enabled = .ok o) : Turn c (.setEnabled id enabled) o.next := by
  obtain ⟨l, hl, hnext⟩ := setEnabled_eq_ok ho
  obtain rfl := id_of_live? hl
  cases enabled with
  | true =>
    rw [hnext]
    refine turn_steady hc (steady_update ?_ ?_) (membersOf?_update ?_ ?_) fun _ => by simp [interrupts]
    · exact fun _ _ => rfl
    · intro k hk
      obtain rfl := Option.some.inj (hl.symm.trans hk)
      refine ⟨rfl, ?_⟩
      cases he : l.group.enabled with
      | true => exact .inr rfl
      | false => exact .inl (hc.window_of_disabled hl he)
    · exact fun _ _ => rfl
    · intro k hk
      obtain rfl := Option.some.inj (hl.symm.trans hk)
      rfl
  | false =>
    have hs := silences_cancel hc hl
    have hself : (c.cancel l).live? l.id = some l.reset := by rw [live?_cancel, if_pos rfl, hl]; rfl
    rw [hnext]
    refine turn_silences hc hs (steady_update ?_ ?_) ?_ ?_
    · exact fun _ _ => rfl
    · exact fun k hk => ⟨rfl, .inl (hs.rest k hk).1⟩
    · intro i
      refine (membersOf?_update ?_ ?_ i).trans (membersOf?_of_roster roster_cancel i)
      · exact fun _ _ => rfl
      · intro k hk
        obtain rfl := Option.some.inj (hself.symm.trans hk)
        rfl
    · intro i
      simp only [interrupts, Bool.not_false, Bool.and_true, beq_iff_eq]
      exact eq_comm

theorem turn_loadGroups (hc : Clockwork c) (hempty : c.groups = []) (stored : List Group) :
    Turn c (.loadGroups stored) (c.loadGroups stored).2 := by
  have hall : Clockwork (c.loadGroups stored).2 ∧ (c.loadGroups stored).2.settings = c.settings ∧
      (c.loadGroups stored).2.timers = c.timers ∧
      ∀ i l, (c.loadGroups stored).2.live? i = some l → l.window = [] := by
    refine loadGroups_induction (P := fun d => Clockwork d ∧ d.settings = c.settings ∧
      d.timers = c.timers ∧ ∀ i l, d.live? i = some l → l.window = []) ⟨hc, rfl, rfl, ?_⟩ ?_ stored
    · intro i l hl
      rw [live?, hempty] at hl
      cases hl
    · rintro d g ⟨hd, hsettings, htimers, hw⟩ _ _
      refine ⟨hd.takeIn (hw g.id), hsettings, htimers, ?_⟩
      intro i l hl
      rw [live?_takeIn] at hl
      split at hl
      · exact Option.some.inj hl ▸ rfl
      · exact hw i l hl
  obtain ⟨hclock, hsettings, htimers, hw⟩ := hall
  refine ⟨hsettings, hclock, htimers ▸ .refl _, ?_, fun _ hid => by cases hid⟩
  intro id _
  have hnone : c.live? id = none := by rw [live?, hempty]; rfl
  cases hl : (c.loadGroups stored).2.live? id with
  | none => exact passes_of_live? (hl.trans hnone.symm)
  | some l =>
    refine .lost ?_ (hw id)
    rw [membersOf?, membersOf?, hl, hnone]
    simp

theorem cancelAll {ls : List LiveGroup} (hn : (ls.map (·.id)).Nodup)
    (hlive : ∀ l ∈ ls, c.live? l.id = some l) (hc : Clockwork c) :
    Clockwork (ls.foldl cancel c) ∧ (ls.foldl cancel c).settings = c.settings ∧
      (ls.foldl cancel c).timers.Sublist c.timers ∧
      ∀ i l, (ls.foldl cancel c).live? i = some l →
        l.window = [] ∨ i ∉ ls.map (·.id) ∧ c.live? i = some l := by
  induction ls generalizing c with
  | nil => exact ⟨hc, rfl, .refl _, fun i l hl => .inr ⟨List.not_mem_nil, hl⟩⟩
  | cons l rest ih =>
    obtain ⟨hl, hn⟩ := List.nodup_cons.mp hn
    have hs := silences_cancel hc (hlive l List.mem_cons_self)
    have hrest : ∀ k ∈ rest, (c.cancel l).live? k.id = some k := by
      intro k hk
      have hne : k.id ≠ l.id := fun he => hl (List.mem_map.mpr ⟨k, hk, he⟩)
      rw [hs.others k.id hne]
      exact hlive k (List.mem_cons_of_mem _ hk)
    obtain ⟨hclock, hsettings, htimers, hw⟩ := ih hn hrest (hc.silences hs)
    refine ⟨hclock, hsettings.trans hs.settings, htimers.trans (hs.timers ▸ List.filter_sublist), ?_⟩
    intro i k hk
    rcases hw i k hk with hempty | ⟨hi, hk⟩
    · exact .inl hempty
    · by_cases hil : i = l.id
      · exact .inl (hs.rest k (hil ▸ hk)).1
      · refine .inr ⟨?_, (hs.others i hil).symm.trans hk⟩
        simp only [List.map_cons, List.mem_cons, not_or]
        exact ⟨hil, hi⟩

theorem turn_shutdown (hwk : WellKept c.roster) (hc : Clockwork c) :
    Turn c .shutdown c.shutdown := by
  obtain ⟨hclock, hsettings, htimers, hw⟩ :=
    cancelAll (ids_nodup hwk) (fun l hl => live?_of_wellKept hwk hl) hc
  refine ⟨hsettings, hclock, htimers, (fun _ hid => by cases hid), ?_⟩
  intro id _ l hl
  rcases hw id l hl with hempty | ⟨hi, hlive⟩
  · exact hempty
  · exact absurd (List.mem_map.mpr ⟨l, mem_of_live? hlive, id_of_live? hlive⟩) hi

theorem interrupts_flush (i : String) : c.interrupts i (.flush id) = true ↔ i = id := by
  simp only [interrupts, beq_iff_eq]
  exact eq_comm

theorem turn_flush {o : Outcome Unit} {now : Int} (hc : Clockwork c) (ho : c.flush id now = .ok o) :
    Turn c (.flush id) o.next := by
  have hroster := roster_flush ho
  obtain ⟨l, hl, ⟨he, hnext⟩ | ⟨_, hnext⟩⟩ := flush_eq_ok ho
  -- a paused group has no writes in its window, so that the flush has nothing to close
  · obtain rfl := id_of_live? hl
    have hw := hc.window_of_disabled hl he
    have hphase : l.phase = .idle := by rw [hc.phase_eq hl, hw]; rfl
    have hs : Silences c l.id (c.disarm l) := by
      refine silences_update hc hl ?_ ⟨hw, hphase, rfl⟩
      exact fun _ h => h
    rw [hnext] at hroster ⊢
    exact turn_silences hc hs (.refl _) (membersOf?_of_roster hroster) interrupts_flush
  · obtain rfl := id_of_live? hl
    have hs : Silences c l.id ((c.disarm l).clearWindow l.id) := by
      refine silences_unwind hc hl ?_ rfl
      exact fun _ h => h
    obtain ⟨_, hwound⟩ := (unwound_disarm hl).live
    rw [hnext] at hroster ⊢
    exact turn_silences hc hs (steady_closeWindow hwound now) (membersOf?_of_roster hroster)
      interrupts_flush

theorem turn_expire {t : Timer} (hc : Clockwork c) (ht : t ∈ c.timers) (now : Int) :
    Turn c (.expire t) (c.fire t now).1 := by
  have hroster := roster_fire (c := c) t now
  obtain ⟨l, hl, htimer, hgen, he⟩ := hc.of_timer ht
  rcases fire_cases c t now with ⟨_, hno⟩ | ⟨k, hk, _, _, hfire⟩
  · exact absurd ⟨hgen, he⟩ (hno l hl)
  · have hs : Silences c t.group (((c.stopTimer (some t.serial)).update t.group fun k =>
        { k with timer := none }).clearWindow t.group) := by
      rw [← htimer]
      refine silences_unwind hc hl ?_ rfl
      exact fun _ h => h
    have hid := id_of_live? hl
    obtain ⟨_, hwound⟩ := (unwound_expired (hid ▸ hl) t.serial).live
    rw [hid] at hwound
    rw [hfire] at hroster ⊢
    refine turn_silences hc hs (steady_closeWindow hwound now) (membersOf?_of_roster hroster) ?_
    intro i
    simp only [interrupts, List.contains_iff_mem, ht, Bool.and_eq_true, beq_iff_eq, true_and]
    exact eq_comm

theorem turn_resolveConflict {v : Value} {resolver : String} {now : Int}
    {r : Conflict × Coordinator} (hc : Clockwork c)
    (hr : c.resolveConflict id v resolver now = .ok r) : Turn c (.resolve id v resolver) r.2 := by
  have hroster := roster_resolveConflict hr
  refine turn_steady hc ?_ (membersOf?_of_roster hroster) fun _ => rfl
  obtain ⟨k, _, ⟨_, he⟩ | ⟨_, _, he⟩ | ⟨_, l, hl, _, he⟩⟩ := resolveConflict_eq_ok hr
  · exact he ▸ .refl c
  · exact he ▸ steady_of_groups rfl rfl rfl rfl
  · have hid := id_of_live? hl
    have hreplace : Steady c (c.replaceConflict (k.resolve v resolver now)) :=
      steady_of_groups rfl rfl rfl rfl
    have hsend := hreplace.trans (steady_send l ⟨none, k.control, v⟩ now)
    rw [he]
    refine hsend.trans (steady_update ?_ ?_)
    · exact fun _ h => h
    · intro m hm
      have hm' := (live?_send (c := c.replaceConflict (k.resolve v resolver now))
        ⟨none, k.control, v⟩ (hid ▸ hl)).symm.trans hm
      obtain rfl := Option.some.inj hm'
      refine ⟨?_, .inr rfl⟩
      simp [clock, recordSent, hc.phase_eq hl]

end LinkedControls.Coordinator
