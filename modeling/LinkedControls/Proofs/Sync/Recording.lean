import LinkedControls.Proofs.Sync.Turn

/-!
The writes of an operation record what it does to the definitions. Under every id, the last save or
deletion is of what the coordinator then holds; two operations apart, it holds just what is saved, with
the time of the last sync.
-/

namespace LinkedControls

namespace Writes

variable {w next : Writes} {g : Group} {id : String} {held : String → Option Group}

def saved? (w : Writes) (id : String) : Option Group := w.saves.reverse.find? (·.id == id)

def onto (w : Writes) (held : String → Option Group) (id : String) : Option Group :=
  match w.saved? id with
  | .some g => g
  | .none => if id ∈ w.deletes then Option.none else held id

def upon (w : Writes) (held : String → Option Group) (id : String) : Option Group :=
  match w.saved? id with
  | .some g => g.undated
  | .none => if id ∈ w.deletes then Option.none else held id

@[simp]
theorem onto_none : Writes.none.onto held = held := rfl

@[simp]
theorem upon_none : Writes.none.upon held = held := rfl

theorem undated_onto (w : Writes) (held : String → Option Group) (id : String) :
    (w.onto held id).map Group.undated = w.upon (fun i => (held i).map Group.undated) id := by
  rw [onto, upon]
  cases w.saved? id with
  | some g => rfl
  | none => exact apply_ite _ _ _ _

theorem onto_of_saved (h : w.saved? id = some g) : w.onto held id = some g := by
  rw [onto, h]

theorem saved?_save : (Writes.save g).saved? g.id = some g := by simp [saved?, save]

theorem onto_save : (Writes.save g).onto held id = if id = g.id then some g else held id := by
  by_cases hid : id = g.id
  · simp [onto, saved?, save, hid]
  · simp [onto, saved?, save, hid, Ne.symm hid]

theorem onto_delete {i : String} :
    (Writes.delete i).onto held id = if id = i then Option.none else held id := by
  simp [onto, saved?, delete]

theorem saved?_andThen : (w.andThen next).saved? id =
    (next.saved? id).or (if id ∈ next.deletes then Option.none else w.saved? id) := by
  simp only [saved?, andThen, List.reverse_append, List.find?_append, ← List.filter_reverse,
    List.find?_filter]
  congr 1
  by_cases hid : id ∈ next.deletes
  · rw [if_pos hid, List.find?_eq_none]
    rintro g - hg
    have hg : g.id ∉ next.deletes ∧ g.id = id := by simpa using hg
    exact hg.1 (hg.2 ▸ hid)
  · rw [if_neg hid]
    congr 1
    funext g
    by_cases hg : g.id = id
    · simp [hg, hid]
    · simp [hg]

theorem onto_andThen : (w.andThen next).onto held = next.onto (w.onto held) := by
  funext id
  rw [onto, onto, saved?_andThen]
  cases next.saved? id with
  | some g => rfl
  | none =>
    by_cases hid : id ∈ next.deletes
    · simp [hid, andThen]
    · simp [hid, andThen, onto]

end Writes

namespace Coordinator

variable {c d e : Coordinator} {w next : Writes} {l : LiveGroup} {g : Group}
  {id i control keep : String}

theorem group?_of_live? (h : c.live? id = some l) : c.group? id = some l.group := by
  rw [group?, h, Option.map_some]

theorem group?_congr (h : d.live? id = c.live? id) : d.group? id = c.group? id := by
  rw [group?, h, group?]

theorem group?_update {f : LiveGroup → LiveGroup} (hf : ∀ l, (f l).group = l.group) :
    (c.update i f).group? id = c.group? id := by
  have hid : ∀ l : LiveGroup, l.id = i → (f l).id = i :=
    fun l hl => (congrArg Group.id (hf l)).trans hl
  rw [group?, live?_update hid, group?]
  split
  · rw [Option.map_map]
    exact congrArg (Option.map · _) (funext hf)
  · rfl

theorem group?_cancel : (c.cancel l).group? id = c.group? id :=
  group?_update (c := c.stopTimer l.timer) fun _ => rfl

def definition? (c : Coordinator) (id : String) : Option Group :=
  c.definitions.find? (·.id == id)

theorem definition?_eq (c : Coordinator) (id : String) :
    c.definition? id = (c.live? id).map (·.group.undated) := by
  rw [definition?, definitions, List.find?_map]
  rfl

theorem definition?_eq_group? (c : Coordinator) (id : String) :
    c.definition? id = (c.group? id).map Group.undated := by
  rw [definition?_eq, group?, Option.map_map]
  rfl

theorem definition?_of_live? (h : c.live? id = some l) : c.definition? id = some l.group.undated := by
  rw [definition?_eq, h, Option.map_some]

theorem definition?_of_definitions (h : d.definitions = c.definitions) :
    d.definition? = c.definition? := by
  funext id
  rw [definition?, h, definition?]

def Records (c : Coordinator) (w : Writes) (d : Coordinator) : Prop :=
  ∀ id, d.definition? id = w.upon c.definition? id

theorem Records.of_definitions (h : d.definitions = c.definitions) : Records c .none d := by
  intro id
  rw [definition?_of_definitions h, Writes.upon_none]

def Leaves (c : Coordinator) (w : Writes) (d : Coordinator) : Prop :=
  ∀ id, d.group? id = w.onto c.group? id

namespace Leaves

theorem refl (c : Coordinator) : Leaves c .none c := fun _ => rfl

theorem andThen (h : Leaves c w d) (h' : Leaves d next e) : Leaves c (w.andThen next) e := by
  intro id
  rw [h', Writes.onto_andThen, funext h]

theorem of_start (h : Leaves d w e) (hd : ∀ id, d.group? id = c.group? id) : Leaves c w e := by
  intro id
  rw [h, funext hd]

theorem records (h : Leaves c w d) : Records c w d := by
  intro id
  rw [definition?_eq_group?, h, Writes.undated_onto, funext (definition?_eq_group? c)]

end Leaves

theorem leaves_save (hself : d.group? g.id = some g)
    (hothers : ∀ i, i ≠ g.id → d.live? i = c.live? i) : Leaves c (.save g) d := by
  intro id
  rw [Writes.onto_save]
  by_cases hid : id = g.id
  · rw [if_pos hid, hid, hself]
  · rw [if_neg hid, group?_congr (hothers id hid)]

theorem leaves_drop : Leaves c (.delete l.id) (c.drop l) := by
  intro id
  rw [Writes.onto_delete, group?, live?_drop]
  split <;> rfl

theorem leaves_expel (hl : c.live? l.id = some l) :
    Leaves c (expelWrites l.id (c.expel control l).2) (c.expel control l).1 := by
  rcases expel_cases c control l with ⟨hv, -, hrest⟩ | ⟨-, he⟩
  · rw [hrest]
    have hself : (c.expel control l).1.live? (l.group.without control).id =
        some { l.reset with group := l.group.without control } := by
      have hid : (l.group.without control).id = l.id := rfl
      rw [hid, live?_expel hl, if_pos rfl, if_pos hv]
    refine leaves_save (group?_of_live? hself) fun i hi => ?_
    rw [live?_expel hl]
    exact if_neg hi
  · rw [he]
    exact leaves_drop

theorem leaves_detach (hwk : WellKept c.roster) (control keep : String) :
    Leaves c (c.detach control keep).2 (c.detach control keep).1 := by
  rcases detach_eq hwk control keep with ⟨-, he⟩ | ⟨l, hl, -, -, he⟩
  · rw [he]
    exact .refl c
  · rw [he]
    exact leaves_expel (live?_of_wellKept hwk hl)

theorem leaves_detachAll (hwk : WellKept c.roster) (controls : List String) (keep : String) :
    Leaves c (c.detachAll controls keep).2 (c.detachAll controls keep).1 := by
  have hboth : WellKept (c.detachAll controls keep).1.roster ∧
      Leaves c (c.detachAll controls keep).2 (c.detachAll controls keep).1 := by
    refine List.foldlRecOn (motive := fun r : Coordinator × Writes =>
      WellKept r.1.roster ∧ Leaves c r.2 r.1) controls _ ⟨hwk, .refl c⟩ ?_
    rintro ⟨d, w⟩ ⟨hd, hw⟩ control -
    exact ⟨wellKept_detachAll hd [control] keep, hw.andThen (leaves_detach hd control keep)⟩
  exact hboth.2

theorem leaves_takeIn : Leaves c (.save g) (c.takeIn g) := by
  have hself : (c.takeIn g).live? g.id = some (.fresh g c.settings.historyLimit) := by
    rw [live?_takeIn, if_pos rfl]
  refine leaves_save (group?_of_live? hself) fun i hi => ?_
  rw [live?_takeIn, if_neg hi]

theorem leaves_enrol (hl : c.live? l.id = some l) : Leaves c
    (.save { l.group with members := l.group.members ++ [control] }) (c.enrol l control) := by
  have hself : (c.enrol l control).live? l.id =
      some { l.reset with group := { l.group with members := l.group.members ++ [control] } } := by
    rw [live?_enrol hl, if_pos rfl]
  refine leaves_save (group?_of_live? hself) fun i hi => ?_
  rw [live?_enrol hl]
  exact if_neg hi

theorem leaves_createGroup {o : Outcome Group} (hwk : WellKept c.roster)
    (ho : c.createGroup g = .ok o) : Leaves c o.writes o.next := by
  obtain ⟨hg, hnone, -⟩ := createGroup_eq_ok ho
  rw [createGroup_of_isValid hg hnone] at ho
  cases ho
  exact (leaves_detachAll hwk g.members g.id).andThen leaves_takeIn

theorem updateGroup_dates {o : Outcome Group} (hwk : WellKept c.roster)
    (hl : c.live? g.id = some l) (ho : c.updateGroup g = .ok o) :
    o.answer = g ∧ o.writes.saved? g.id = some g ∧
      o.next.group? g.id = some { g with lastSync := g.lastSync <|> l.group.lastSync } ∧
      ∀ i, i ≠ g.id → o.next.group? i = o.writes.onto c.group? i := by
  obtain ⟨hg, -⟩ := updateGroup_eq_ok ho
  rw [updateGroup_of_isValid hg hl] at ho
  cases ho
  have hwk' : WellKept (c.cancel l).roster := by rwa [roster_cancel]
  have hself : ((c.cancel l).detachAll g.members g.id).1.live? g.id = some l.reset := by
    rw [live?_detachAll_keep hwk', live?_cancel, if_pos (id_of_live? hl).symm, hl, Option.map_some]
  have hdetached := (leaves_detachAll hwk' g.members g.id).of_start fun _ => group?_cancel
  refine ⟨rfl, ?_, group?_of_live? (live?_redefine hself), fun i hi => ?_⟩
  · rw [Writes.saved?_andThen, Writes.saved?_save, Option.some_or]
  · rw [Writes.onto_andThen, Writes.onto_save, if_neg hi, ← hdetached]
    exact group?_congr (live?_redefine_of_ne hi)

theorem records_updateGroup {o : Outcome Group} (hwk : WellKept c.roster)
    (ho : c.updateGroup g = .ok o) : Records c o.writes o.next := by
  obtain ⟨-, l, hl, -⟩ := updateGroup_eq_ok ho
  obtain ⟨-, hsaved, hself, hothers⟩ := updateGroup_dates hwk hl ho
  intro id
  rw [funext (definition?_eq_group? c), ← Writes.undated_onto, definition?_eq_group?]
  by_cases hid : id = g.id
  · rw [hid, hself, Writes.onto_of_saved hsaved]
    rfl
  · rw [hothers id hid]

theorem leaves_deleteGroup {o : Outcome Unit} (ho : c.deleteGroup id = .ok o) :
    Leaves c o.writes o.next := by
  obtain ⟨l, hl, -⟩ := deleteGroup_eq_ok ho
  rw [deleteGroup_of_live? hl] at ho
  cases ho
  exact id_of_live? hl ▸ leaves_drop

theorem leaves_addMember {o : Outcome Group} (hwk : WellKept c.roster)
    (ho : c.addMember id control = .ok o) : Leaves c o.writes o.next := by
  obtain ⟨l, hl, ⟨hm, -⟩ | ⟨hm, -⟩⟩ := addMember_eq_ok ho
  · rw [addMember_of_mem hl hm] at ho
    cases ho
    exact .refl c
  · rw [addMember_of_not_mem hl hm] at ho
    cases ho
    obtain rfl := id_of_live? hl
    have hkeep : (c.detach control l.id).1.live? l.id = c.live? l.id :=
      live?_detachAll_keep hwk [control]
    exact (leaves_detach hwk control l.id).andThen (leaves_enrol (hkeep.trans hl))

theorem leaves_removeMember {o : Outcome (Option Group)} (ho : c.removeMember id control = .ok o) :
    Leaves c o.writes o.next := by
  obtain ⟨l, hl, hm, -⟩ := removeMember_eq_ok ho
  rw [removeMember_of_mem hl hm] at ho
  cases ho
  obtain rfl := id_of_live? hl
  exact leaves_expel hl

theorem leaves_setEnabled {enabled : Bool} {o : Outcome Group}
    (ho : c.setEnabled id enabled = .ok o) : Leaves c o.writes o.next := by
  obtain ⟨l, hl, -⟩ := setEnabled_eq_ok ho
  obtain rfl := id_of_live? hl
  have hwrites : o.writes = .save { l.group with enabled := enabled } := by
    rw [setEnabled_eq hl] at ho
    cases ho
    rfl
  rw [hwrites]
  refine leaves_save ?_ fun i hi => ?_
  · exact group?_of_live? ((live?_setEnabled hl ho).trans (if_pos rfl))
  · exact (live?_setEnabled hl ho).trans (if_neg hi)

theorem group?_clearWindow : (c.clearWindow i).group? id = c.group? id :=
  group?_update fun _ => rfl

theorem group?_disarm : (c.disarm l).group? id = c.group? id :=
  group?_update (c := c.stopTimer l.timer) fun _ => rfl

theorem groups_settle (last : Competing) (now : Int) :
    (c.settle l last now).2.groups = c.groups := by
  unfold settle
  split <;> rfl

theorem leaves_send {k : LiveGroup} (hk : c.live? l.id = some k) (p : Parcel) (now : Int) :
    Leaves c ⟨[], ((c.send l p now).group? l.id).toList⟩ (c.send l p now) := by
  obtain ⟨sent, hsent⟩ : ∃ sent, (c.send l p now).live? l.id = some sent := ⟨_, live?_send p hk⟩
  have hid : sent.group.id = l.id := id_of_live? hsent
  rw [group?_of_live? hsent]
  refine leaves_save ?_ fun i hi => live?_send_of_ne p (hid ▸ hi)
  rw [hid, group?_of_live? hsent]

theorem leaves_closeWindow (c : Coordinator) (id : String) (now : Int) :
    Leaves c (c.closeWindow id now).2 (c.closeWindow id now).1 := by
  cases hl : c.live? id with
  | none =>
    simp only [closeWindow, hl]
    exact .refl c
  | some l =>
    cases hlast : l.window.getLast? with
    | none =>
      simp only [closeWindow, hl, hlast]
      exact fun _ => group?_clearWindow
    | some last =>
      have hsettle : ((c.clearWindow id).settle l last now).2.groups = (c.clearWindow id).groups :=
        groups_settle last now
      simp only [closeWindow, hl, hlast]
      rw [← clearWindow]
      generalize (c.clearWindow id).settle l last now = settled at hsettle
      obtain ⟨sent, d⟩ := settled
      have hd (i : String) : d.group? i = c.group? i :=
        (group?_congr (live?_congr hsettle)).trans group?_clearWindow
      cases sent with
      | none => exact hd
      | some sent =>
        obtain rfl := id_of_live? hl
        have hlive := (live?_congr hsettle).trans (live?_clearWindow hl)
        exact (leaves_send hlive _ now).of_start hd

theorem leaves_fire (c : Coordinator) (t : Timer) (now : Int) :
    Leaves c (c.fire t now).2 (c.fire t now).1 := by
  unfold fire
  dsimp only
  split
  · exact .refl _
  · split
    · refine (leaves_closeWindow _ _ now).of_start fun _ => ?_
      exact group?_update (c := c.stopTimer (some t.serial)) fun _ => rfl
    · exact .refl _

theorem leaves_flush {now : Int} {o : Outcome Unit} (ho : c.flush id now = .ok o) :
    Leaves c o.writes o.next := by
  obtain ⟨l, hl, ⟨he, -⟩ | ⟨he, -⟩⟩ := flush_eq_ok ho
  · rw [flush_of_paused hl he] at ho
    cases ho
    exact fun _ => group?_disarm
  · rw [flush_of_enabled hl he] at ho
    cases ho
    exact (leaves_closeWindow _ id now).of_start fun _ => group?_disarm

end Coordinator

end LinkedControls
