import LinkedControls.Proofs.Outcome
import LinkedControls.Proofs.Sync.Lookup

/-!
What each operation of a coordinator does when it succeeds, in terms of a few steps: a group is taken
in, dropped, redefined or loses a member; a window gets a write or is closed; a value is sent.
-/

namespace LinkedControls

namespace Group

variable {g : Group} {control : String}

theorem contains_of_mem (h : control ∈ g.members) : g.contains control = true :=
  List.contains_iff_mem.mpr h

theorem contains_of_not_mem (h : control ∉ g.members) : g.contains control = false :=
  Bool.eq_false_iff.mpr fun hc => h (List.contains_iff_mem.mp hc)

end Group

namespace Conflict

variable (k : Conflict) (v : Value) (resolver : String) (now : Int)

@[simp]
theorem id_resolve : (k.resolve v resolver now).id = k.id := by unfold resolve; split <;> rfl

@[simp]
theorem group_resolve : (k.resolve v resolver now).group = k.group := by unfold resolve; split <;> rfl

@[simp]
theorem control_resolve : (k.resolve v resolver now).control = k.control := by
  unfold resolve; split <;> rfl

@[simp]
theorem values_resolve : (k.resolve v resolver now).values = k.values := by
  unfold resolve; split <;> rfl

@[simp]
theorem isPending_resolve : (k.resolve v resolver now).isPending = false := by
  unfold resolve
  cases h : k.isPending with
  | false => simpa using h
  | true => rfl

end Conflict

def LiveGroup.noted (l : LiveGroup) (w : Competing) (serial : Nat) : LiveGroup :=
  { l with
    window := LiveGroup.gather l.window w
    phase := .pendingPropagation
    timer := some serial
    generation := l.generation + 1 }

namespace Coordinator

variable {c : Coordinator} {l k : LiveGroup} {g : Group} {id control : String}

def takeIn (c : Coordinator) (g : Group) : Coordinator :=
  { c with groups := install (.fresh g c.settings.historyLimit) c.groups }

theorem validate_eq_ok {u : Unit} (h : g.validate = .ok u) : g.isValid = true := by
  unfold Group.validate at h
  cases hf : g.fault? with
  | none => simp [Group.isValid, hf]
  | some fault => simp [hf] at h

theorem need_eq_ok (h : c.need id = .ok l) : c.live? id = some l := by
  unfold need at h
  cases hl : c.live? id with
  | none => simp [hl] at h
  | some k =>
    rw [hl] at h
    exact congrArg some (Except.ok.inj h)

theorem need_of_live? (hl : c.live? id = some l) : c.need id = .ok l := by
  simp only [need, hl]

theorem validate_of_isValid (hg : g.isValid = true) : g.validate = .ok () := by
  have hf : g.fault? = none := by simpa [Group.isValid] using hg
  simp only [Group.validate, hf]

theorem createGroup_eq_ok {o : Outcome Group} (h : c.createGroup g = .ok o) :
    g.isValid = true ∧ c.live? g.id = none ∧ o.next = (c.detachAll g.members g.id).1.takeIn g := by
  obtain ⟨u, hv, h⟩ := bind_eq_ok h
  refine ⟨validate_eq_ok hv, ?_⟩
  cases hl : c.live? g.id with
  | some l => simp [hl] at h; cases h
  | none =>
    simp only [hl, Option.isSome_none, Bool.false_eq_true, if_false] at h
    cases h
    exact ⟨rfl, rfl⟩

theorem createGroup_of_isValid (hg : g.isValid = true) (hl : c.live? g.id = none) :
    c.createGroup g = .ok ⟨g, (c.detachAll g.members g.id).1.takeIn g,
      (c.detachAll g.members g.id).2.andThen (.save g)⟩ := by
  unfold createGroup
  rw [validate_of_isValid hg, hl]
  rfl

def redefine (c : Coordinator) (g : Group) : Coordinator :=
  let c := { c with
    rules := c.rules.filter fun r =>
      r.group != g.id || (g.contains r.source && g.contains r.target) }
  c.update g.id fun l => { l with group := { g with lastSync := g.lastSync <|> l.group.lastSync } }

theorem updateGroup_eq_ok {o : Outcome Group} (h : c.updateGroup g = .ok o) :
    g.isValid = true ∧ ∃ l, c.live? g.id = some l ∧
      o.next = ((c.cancel l).detachAll g.members g.id).1.redefine g := by
  obtain ⟨u, hv, h⟩ := bind_eq_ok h
  obtain ⟨l, hl, h⟩ := bind_eq_ok h
  cases h
  exact ⟨validate_eq_ok hv, l, need_eq_ok hl, rfl⟩

theorem updateGroup_of_isValid (hg : g.isValid = true) (hl : c.live? g.id = some l) :
    c.updateGroup g = .ok ⟨g, ((c.cancel l).detachAll g.members g.id).1.redefine g,
      ((c.cancel l).detachAll g.members g.id).2.andThen (.save g)⟩ := by
  unfold updateGroup
  rw [validate_of_isValid hg, need_of_live? hl]
  rfl

theorem updateGroup_of_live? (hg : g.isValid = true) (hl : c.live? g.id = some l) :
    ∃ o, c.updateGroup g = .ok o :=
  ⟨_, updateGroup_of_isValid hg hl⟩

theorem deleteGroup_eq_ok {o : Outcome Unit} (h : c.deleteGroup id = .ok o) :
    ∃ l, c.live? id = some l ∧ o.next = c.drop l := by
  obtain ⟨l, hl, h⟩ := bind_eq_ok h
  cases h
  exact ⟨l, need_eq_ok hl, rfl⟩

theorem deleteGroup_of_live? (hl : c.live? id = some l) :
    c.deleteGroup id = .ok ⟨(), c.drop l, .delete id⟩ := by
  unfold deleteGroup
  rw [need_of_live? hl]
  rfl

def enrol (c : Coordinator) (l : LiveGroup) (control : String) : Coordinator :=
  (c.cancel l).update l.id fun k =>
    { k with group := { l.group with members := l.group.members ++ [control] } }

theorem addMember_eq_ok {o : Outcome Group}
    (h : c.addMember id control = .ok o) : ∃ l, c.live? id = some l ∧
      (control ∈ l.group.members ∧ o.next = c ∨
        control ∉ l.group.members ∧ o.next = (c.detach control id).1.enrol l control) := by
  obtain ⟨l, hl, h⟩ := bind_eq_ok h
  refine ⟨l, need_eq_ok hl, ?_⟩
  by_cases hm : control ∈ l.group.members
  · simp only [Group.contains, List.contains_iff_mem, hm, if_true] at h
    cases h
    exact .inl ⟨hm, rfl⟩
  · simp only [Group.contains, List.contains_iff_mem, hm, if_false] at h
    cases h
    exact .inr ⟨hm, by rw [← id_of_live? (need_eq_ok hl)]; rfl⟩

theorem addMember_of_mem (hl : c.live? id = some l) (hm : control ∈ l.group.members) :
    c.addMember id control = .ok ⟨l.group, c, .none⟩ := by
  unfold addMember
  rw [need_of_live? hl]
  simp only [bind, Except.bind, Group.contains_of_mem hm, if_true]
  rfl

theorem addMember_of_not_mem (hl : c.live? id = some l) (hm : control ∉ l.group.members) :
    c.addMember id control = .ok ⟨{ l.group with members := l.group.members ++ [control] },
      (c.detach control id).1.enrol l control,
      (c.detach control id).2.andThen
        (.save { l.group with members := l.group.members ++ [control] })⟩ := by
  obtain rfl := id_of_live? hl
  unfold addMember
  rw [need_of_live? hl]
  simp only [bind, Except.bind, Group.contains_of_not_mem hm, Bool.false_eq_true, if_false]
  rfl

theorem removeMember_eq_ok {o : Outcome (Option Group)}
    (h : c.removeMember id control = .ok o) : ∃ l, c.live? id = some l ∧
      control ∈ l.group.members ∧ o.next = (c.expel control l).1 := by
  obtain ⟨l, hl, h⟩ := bind_eq_ok h
  refine ⟨l, need_eq_ok hl, ?_⟩
  by_cases hm : control ∈ l.group.members
  · simp [Group.contains, hm] at h
    cases h
    exact ⟨hm, rfl⟩
  · simp [Group.contains, hm] at h
    cases h

theorem removeMember_of_mem (hl : c.live? id = some l) (hm : control ∈ l.group.members) :
    c.removeMember id control = .ok ⟨(c.expel control l).2, (c.expel control l).1,
      expelWrites id (c.expel control l).2⟩ := by
  unfold removeMember
  rw [need_of_live? hl]
  simp only [bind, Except.bind, Group.contains_of_mem hm, Bool.not_true, Bool.false_eq_true, if_false]
  rfl

theorem setEnabled_eq_ok {enabled : Bool} {o : Outcome Group}
    (h : c.setEnabled id enabled = .ok o) : ∃ l, c.live? id = some l ∧
      o.next = (if enabled then c else c.cancel l).update l.id fun k =>
        { k with group := { l.group with enabled := enabled } } := by
  obtain ⟨l, hl, h⟩ := bind_eq_ok h
  cases h
  exact ⟨l, need_eq_ok hl, by rw [← id_of_live? (need_eq_ok hl)]⟩

theorem setEnabled_eq (hl : c.live? id = some l) (enabled : Bool) :
    c.setEnabled id enabled = .ok ⟨{ l.group with enabled := enabled },
      (if enabled then c else c.cancel l).update l.id fun k =>
        { k with group := { l.group with enabled := enabled } },
      .save { l.group with enabled := enabled }⟩ := by
  obtain rfl := id_of_live? hl
  unfold setEnabled
  rw [need_of_live? hl]
  rfl

theorem setEnabled_of_live? (hl : c.live? id = some l) (enabled : Bool) :
    ∃ o, c.setEnabled id enabled = .ok o :=
  ⟨_, setEnabled_eq hl enabled⟩

theorem live?_setEnabled {enabled : Bool} {o : Outcome Group} {i : String}
    (hl : c.live? id = some l) (ho : c.setEnabled id enabled = .ok o) :
    o.next.live? i = if i = id then
      some { (if enabled then l else l.reset) with group := { l.group with enabled := enabled } }
    else c.live? i := by
  rw [setEnabled_eq hl] at ho
  cases ho
  obtain rfl := id_of_live? hl
  have hbefore : (if enabled then c else c.cancel l).live? i =
      if i = l.id then some (if enabled then l else l.reset) else c.live? i := by
    cases enabled with
    | true =>
      rw [if_pos rfl, if_pos rfl]
      split
      · next hi => rw [hi, hl]
      · rfl
    | false =>
      refine live?_cancel.trans ?_
      split
      · next hi => rw [hi, hl]; rfl
      · rfl
  rw [live?_update]
  · split
    · next hi => rw [hbefore, if_pos hi]; rfl
    · next hi => rw [hbefore, if_neg hi]
  · exact fun _ _ => rfl

theorem loadGroups_induction {P : Coordinator → Prop} (hc : P c)
    (htake : ∀ d g, P d → g.isValid = true → (∀ m ∈ g.members, d.liveOf? m = none) →
      P (d.takeIn g)) (stored : List Group) : P (c.loadGroups stored).2 := by
  unfold loadGroups
  generalize 0 = n
  induction stored generalizing c n with
  | nil => exact hc
  | cons g rest ih =>
    rw [List.foldl_cons]
    by_cases hg : (g.isValid && !g.members.any c.owns) = true
    · simp only [hg, if_true]
      refine ih ?_ _
      simp only [Bool.and_eq_true, Bool.not_eq_true', List.any_eq_false] at hg
      exact htake c g hc hg.1 fun m hm => by simpa [owns] using hg.2 m hm
    · simp only [hg]
      exact ih hc _

theorem loadGroups_cons (c : Coordinator) (g : Group) (stored : List Group) :
    c.loadGroups (g :: stored) =
      if g.isValid && !g.members.any c.owns then
        (((c.takeIn g).loadGroups stored).1 + 1, ((c.takeIn g).loadGroups stored).2)
      else c.loadGroups stored := by
  unfold loadGroups
  rw [List.foldl_cons]
  by_cases hg : (g.isValid && !g.members.any c.owns) = true
  · simp only [hg, if_true]
    refine @List.foldl_hom _ _ _ (fun r : Nat × Coordinator => (r.1 + 1, r.2)) _ _ _
      (0, c.takeIn g) ?_
    rintro ⟨n, d⟩ h
    split <;> rfl
  · simp only [hg]
    rfl

theorem owns_of_mem (hl : l ∈ c.groups) (hm : control ∈ l.group.members) : c.owns control = true :=
  List.find?_isSome.mpr ⟨l, hl, Group.contains_of_mem hm⟩

theorem loadGroups_of_owned {stored : List Group}
    (h : ∀ g ∈ stored, g.isValid = true → ∃ m ∈ g.members, c.owns m = true) :
    c.loadGroups stored = (0, c) := by
  induction stored with
  | nil => rfl
  | cons g rest ih =>
    have hskip : ¬ (g.isValid && !g.members.any c.owns) = true := by
      intro hg
      simp only [Bool.and_eq_true, Bool.not_eq_true', List.any_eq_false] at hg
      obtain ⟨m, hm, howns⟩ := h g List.mem_cons_self hg.1
      exact hg.2 m hm howns
    rw [loadGroups_cons, if_neg hskip]
    exact ih fun k hk => h k (List.mem_cons_of_mem g hk)

theorem setCombinator_eq_ok {f : Combinator} {d : Coordinator} (h : c.setCombinator id f = .ok d) :
    ∃ l, c.live? id = some l ∧
      d = { c with combinators := (id, f) :: c.combinators.filter (·.1 != id) } := by
  obtain ⟨l, hl, h⟩ := bind_eq_ok h
  cases h
  exact ⟨l, need_eq_ok hl, rfl⟩

theorem addRule_eq_ok {r : Rule} {a : Rule × Coordinator} (h : c.addRule r = .ok a) :
    ∃ l, c.live? r.group = some l ∧ r.source ∈ l.group.members ∧ r.target ∈ l.group.members ∧
      r.source ≠ r.target ∧
      a.2 = { c with rules := c.rules.filter (fun s =>
        !s.isFor r.group r.source r.target && s.id != r.id) ++ [r] } := by
  obtain ⟨l, hl, h⟩ := bind_eq_ok h
  refine ⟨l, need_eq_ok hl, ?_⟩
  by_cases hs : r.source ∈ l.group.members
  · by_cases ht : r.target ∈ l.group.members
    · simp [Group.contains, hs, ht] at h
      by_cases hne : r.source = r.target
      · rw [if_pos hne] at h
        cases h
      · rw [if_neg hne] at h
        cases h
        exact ⟨hs, ht, hne, rfl⟩
    · simp [Group.contains, hs, ht] at h
      cases h
  · simp [Group.contains, hs] at h
    cases h

theorem removeRule_eq_ok {a : Rule × Coordinator} (h : c.removeRule id = .ok a) :
    a.1 ∈ c.rules ∧ a.1.id = id ∧ a.2 = { c with rules := c.rules.filter (·.id != id) } := by
  unfold removeRule at h
  cases hr : c.rules.find? (·.id == id) with
  | none => simp [hr] at h
  | some r =>
    simp only [hr] at h
    cases h
    exact ⟨List.mem_of_find?_eq_some hr, by simpa using List.find?_some hr, rfl⟩

def note (c : Coordinator) (l : LiveGroup) (w : Competing) (now : Int) : Coordinator :=
  (c.update l.id fun k =>
    { k with window := LiveGroup.gather k.window w, phase := .pendingPropagation }).schedule l now

theorem live?_schedule (hl : c.live? l.id = some k) (now : Int) :
    (c.schedule l now).live? l.id =
      some { k with timer := some c.nextTimer, generation := l.generation + 1 } :=
  live?_update_self (c := c.stopTimer l.timer)
    (f := fun k => { k with timer := some c.nextTimer, generation := l.generation + 1 })
    (fun _ h => h) hl

theorem live?_schedule_of_ne {i : String} (hi : i ≠ l.id) (now : Int) :
    (c.schedule l now).live? i = c.live? i :=
  live?_update_of_ne (c := c.stopTimer l.timer)
    (f := fun k => { k with timer := some c.nextTimer, generation := l.generation + 1 })
    (fun _ h => h) hi

theorem live?_note (hl : c.live? l.id = some l) (w : Competing) (now : Int) :
    (c.note l w now).live? l.id = some (l.noted w c.nextTimer) :=
  live?_schedule (live?_update_self (f := fun k =>
    { k with window := LiveGroup.gather k.window w, phase := .pendingPropagation })
    (fun _ h => h) hl) now

theorem live?_note_of_ne {i : String} (hi : i ≠ l.id) (w : Competing) (now : Int) :
    (c.note l w now).live? i = c.live? i :=
  (live?_schedule_of_ne hi now).trans (live?_update_of_ne (fun _ h => h) hi)

theorem handleChange_eq_ok {v : Value} {origin : Origin} {now : Int} {change : Change}
    {d : Coordinator} (h : c.handleChange control v origin now = .ok (change, d)) :
    ∃ store, c.store.write control v origin = .ok (store, change) ∧
      ((d = { c with store := store } ∧
          ¬ (origin = .user ∧ ∃ l, c.liveOf? control = some l ∧ l.group.enabled = true)) ∨
        origin = .user ∧ ∃ l, c.liveOf? control = some l ∧ l.group.enabled = true ∧
          d = { c with store := store }.note l ⟨control, change.after, now, .user⟩ now) := by
  obtain ⟨⟨store, change'⟩, hw, h⟩ := bind_eq_ok h
  by_cases ho : origin = .user
  · subst ho
    simp only [ne_eq, not_true_eq_false, if_false] at h
    cases hl : c.liveOf? control with
    | none =>
      have hl' : Coordinator.liveOf? { c with store := store } control = none := hl
      simp only [hl'] at h
      cases h
      exact ⟨store, hw, .inl ⟨rfl, by simp⟩⟩
    | some l =>
      have hl' : Coordinator.liveOf? { c with store := store } control = some l := hl
      simp only [hl'] at h
      cases he : l.group.enabled with
      | false =>
        simp only [he, Bool.not_false, if_true] at h
        cases h
        exact ⟨store, hw, .inl ⟨rfl, by simp [he]⟩⟩
      | true =>
        simp only [he, Bool.not_true, Bool.false_eq_true, if_false] at h
        cases h
        exact ⟨store, hw, .inr ⟨rfl, l, rfl, he, rfl⟩⟩
  · simp only [ne_eq, ho, not_false_eq_true, if_true] at h
    cases h
    exact ⟨store, hw, .inl ⟨rfl, by simp [ho]⟩⟩

theorem handleChange_of_owned {v : Value} {origin : Origin} {now : Int} {store : Store}
    {change : Change} (hwrite : c.store.write control v origin = .ok (store, change))
    (hl : c.liveOf? control = some l) : c.handleChange control v origin now = .ok (change,
      if origin = .user ∧ l.group.enabled = true then
        { c with store := store }.note l ⟨control, change.after, now, .user⟩ now
      else { c with store := store }) := by
  have hl' : Coordinator.liveOf? { c with store := store } control = some l := hl
  unfold handleChange
  simp only [hwrite, bind, Except.bind]
  cases origin with
  | user =>
    simp only [ne_eq, not_true_eq_false, if_false, hl', true_and]
    cases l.group.enabled with
    | true => rfl
    | false => rfl
  | _ => rfl

theorem handleChange_of_free {v : Value} {origin : Origin} {now : Int} {store : Store}
    {change : Change} (hwrite : c.store.write control v origin = .ok (store, change))
    (hl : c.liveOf? control = none) :
    c.handleChange control v origin now = .ok (change, { c with store := store }) := by
  have hl' : Coordinator.liveOf? { c with store := store } control = none := hl
  unfold handleChange
  simp only [hwrite, bind, Except.bind]
  cases origin with
  | user => simp only [ne_eq, not_true_eq_false, if_false, hl', pure, Except.pure]
  | _ => rfl

theorem handleChange_of_write {v : Value} {now : Int} {store : Store} {change : Change}
    (hwrite : c.store.write control v .user = .ok (store, change))
    (hl : c.liveOf? control = some l) (he : l.group.enabled = true) :
    c.handleChange control v .user now = .ok (change,
      { c with store := store }.note l ⟨control, change.after, now, .user⟩ now) := by
  rw [handleChange_of_owned hwrite hl, if_pos ⟨rfl, he⟩]

theorem handleChange_of_refused {v : Value} {origin : Origin} {now : Int} {e : StoreError}
    (hwrite : c.store.write control v origin = .error e) :
    c.handleChange control v origin now = .error e := by
  unfold handleChange
  rw [hwrite]
  rfl

def clearWindow (c : Coordinator) (id : String) : Coordinator :=
  c.update id fun l => { l with window := [], phase := .idle }

def decision (c : Coordinator) (l : LiveGroup) (last : Competing) :
    Option (Option String × Value) :=
  if compete l.window last && l.group.mode.detectsConflicts then
    decide l.group (c.combinator? l.id) l.window
  else some (ofWrite last)

theorem settle_fst (c : Coordinator) (l : LiveGroup) (last : Competing) (now : Int) :
    (c.settle l last now).1 = c.decision l last := by
  unfold settle decision
  split <;> rfl

theorem closeWindow_of_unknown {now : Int} (hl : c.live? id = none) :
    (c.closeWindow id now).1 = c := by
  simp [closeWindow, hl]

theorem closeWindow_of_empty {now : Int} (hl : c.live? id = some l) (hw : l.window = []) :
    (c.closeWindow id now).1 = c.clearWindow id := by
  simp only [closeWindow, hl, hw, List.getLast?_nil]
  rfl

theorem closeWindow_of_sent {last : Competing} {o : Option String} {v : Value} {now : Int}
    (hl : c.live? id = some l) (hlast : l.window.getLast? = some last)
    (hd : c.decision l last = some (o, v)) :
    (c.closeWindow id now).1 =
      ((c.clearWindow id).settle l last now).2.send l ⟨o, last.control, v⟩ now := by
  have hs : (c.clearWindow id).settle l last now =
      (some (o, v), ((c.clearWindow id).settle l last now).2) :=
    Prod.ext ((settle_fst (c.clearWindow id) l last now).trans hd) rfl
  simp only [closeWindow, hl, hlast]
  rw [← clearWindow, hs]

theorem closeWindow_of_waiting {last : Competing} {now : Int}
    (hl : c.live? id = some l) (hlast : l.window.getLast? = some last)
    (hd : c.decision l last = none) :
    (c.closeWindow id now).1 = ((c.clearWindow id).settle l last now).2 := by
  have hs : (c.clearWindow id).settle l last now =
      (none, ((c.clearWindow id).settle l last now).2) :=
    Prod.ext ((settle_fst (c.clearWindow id) l last now).trans hd) rfl
  simp only [closeWindow, hl, hlast]
  rw [← clearWindow, hs]

theorem closeWindow_cases (hl : c.live? id = some l) (now : Int) :
    (l.window = [] ∧ (c.closeWindow id now).1 = c.clearWindow id) ∨
      ∃ last, l.window.getLast? = some last ∧
        ((c.decision l last = none ∧
            (c.closeWindow id now).1 = ((c.clearWindow id).settle l last now).2) ∨
          ∃ o v, c.decision l last = some (o, v) ∧ (c.closeWindow id now).1 =
            ((c.clearWindow id).settle l last now).2.send l ⟨o, last.control, v⟩ now) := by
  cases hlast : l.window.getLast? with
  | none =>
    have hw := List.getLast?_eq_none_iff.mp hlast
    exact .inl ⟨hw, closeWindow_of_empty hl hw⟩
  | some last =>
    refine .inr ⟨last, rfl, ?_⟩
    cases hd : c.decision l last with
    | none => exact .inl ⟨rfl, closeWindow_of_waiting hl hlast hd⟩
    | some sent => exact .inr ⟨sent.1, sent.2, rfl, closeWindow_of_sent hl hlast hd⟩

theorem closeWindow_induction {P : Coordinator → Prop} {now : Int} (hc : P c)
    (hclear : P (c.clearWindow id))
    (hsettle : ∀ l last, P ((c.clearWindow id).settle l last now).2)
    (hsend : ∀ d l p, P d → P (d.send l p now)) : P (c.closeWindow id now).1 := by
  cases hl : c.live? id with
  | none => rwa [closeWindow_of_unknown hl]
  | some l =>
    rcases closeWindow_cases hl now with ⟨_, he⟩ | ⟨last, _, ⟨_, he⟩ | ⟨o, v, _, he⟩⟩
    · rwa [he]
    · rw [he]
      exact hsettle l last
    · rw [he]
      exact hsend _ _ _ (hsettle l last)

theorem fire_cases (c : Coordinator) (t : Timer) (now : Int) :
    ((c.fire t now).1 = c.stopTimer (some t.serial) ∧ ∀ l, c.live? t.group = some l →
        ¬ (l.generation = t.generation ∧ l.group.enabled = true)) ∨
      ∃ l, c.live? t.group = some l ∧ l.generation = t.generation ∧ l.group.enabled = true ∧
        (c.fire t now).1 = (((c.stopTimer (some t.serial)).update t.group fun k =>
          { k with timer := none }).closeWindow t.group now).1 := by
  cases hl : c.live? t.group with
  | none => exact .inl ⟨by simp [fire, hl], by simp⟩
  | some l =>
    by_cases hg : l.generation = t.generation ∧ l.group.enabled = true
    · refine .inr ⟨l, rfl, hg.1, hg.2, ?_⟩
      simp [fire, hl, hg, id_of_live? hl]
    · refine .inl ⟨by simp [fire, hl, hg], ?_⟩
      rintro k hk
      cases hk
      exact hg

def disarm (c : Coordinator) (l : LiveGroup) : Coordinator :=
  (c.stopTimer l.timer).update l.id fun k =>
    { k with timer := none, generation := k.generation + 1 }

theorem flush_eq_ok {now : Int} {o : Outcome Unit} (h : c.flush id now = .ok o) :
    ∃ l, c.live? id = some l ∧
      (l.group.enabled = false ∧ o.next = c.disarm l ∨
        l.group.enabled = true ∧ o.next = ((c.disarm l).closeWindow id now).1) := by
  obtain ⟨l, hl, h⟩ := bind_eq_ok h
  have hl := need_eq_ok hl
  refine ⟨l, hl, ?_⟩
  cases he : l.group.enabled with
  | false =>
    simp only [he, Bool.not_false, if_true] at h
    cases h
    exact .inl ⟨rfl, by rw [disarm, id_of_live? hl]⟩
  | true =>
    simp only [he, Bool.not_true, Bool.false_eq_true, if_false] at h
    cases h
    exact .inr ⟨rfl, by rw [disarm, id_of_live? hl]⟩

theorem shutdown_induction {P : Coordinator → Prop} (hc : P c)
    (hcancel : ∀ d, ∀ l ∈ c.groups, P d → P (d.cancel l)) : P c.shutdown := by
  unfold shutdown
  generalize c.groups = gs at hcancel ⊢
  induction gs generalizing c with
  | nil => exact hc
  | cons l rest ih =>
    exact ih (hcancel c l List.mem_cons_self hc) fun d k hk => hcancel d k (List.mem_cons_of_mem _ hk)

theorem flush_of_enabled (hl : c.live? id = some l) (he : l.group.enabled = true) (now : Int) :
    c.flush id now = .ok ⟨(), ((c.disarm l).closeWindow id now).1,
      ((c.disarm l).closeWindow id now).2⟩ := by
  obtain rfl := id_of_live? hl
  unfold flush
  rw [need_of_live? hl]
  simp only [bind, Except.bind, he, Bool.not_true, Bool.false_eq_true, if_false]
  rfl

theorem flush_of_paused (hl : c.live? id = some l) (he : l.group.enabled = false) (now : Int) :
    c.flush id now = .ok ⟨(), c.disarm l, .none⟩ := by
  obtain rfl := id_of_live? hl
  unfold flush
  rw [need_of_live? hl]
  simp only [bind, Except.bind, he, Bool.not_false, if_true]
  rfl

theorem flush_of_live? (hl : c.live? id = some l) (now : Int) : ∃ o, c.flush id now = .ok o := by
  cases he : l.group.enabled with
  | false => exact ⟨_, flush_of_paused hl he now⟩
  | true => exact ⟨_, flush_of_enabled hl he now⟩

def rephase (c : Coordinator) (l : LiveGroup) : Coordinator :=
  let phase := if l.window.isEmpty then Phase.idle else .pendingPropagation
  c.update l.id fun k => { k with phase := phase }

theorem live?_rephase (hl : c.live? l.id = some k) : (c.rephase l).live? l.id =
    some { k with phase := if l.window.isEmpty then .idle else .pendingPropagation } :=
  live?_update_self (fun _ h => h) hl

theorem live?_rephase_of_ne {i : String} (hi : i ≠ l.id) : (c.rephase l).live? i = c.live? i :=
  live?_update_of_ne
    (f := fun k => { k with phase := if l.window.isEmpty then .idle else .pendingPropagation })
    (fun _ h => h) hi

theorem resolveConflict_eq_ok {v : Value} {resolver : String} {now : Int} {settled : Conflict}
    {d : Coordinator} (h : c.resolveConflict id v resolver now = .ok (settled, d)) :
    ∃ k, c.conflict? id = some k ∧
      (k.isPending = false ∧ d = c ∨
        k.isPending = true ∧ (∀ l, c.live? k.group = some l → l.group.enabled = false) ∧
          d = c.replaceConflict (k.resolve v resolver now) ∨
        k.isPending = true ∧ ∃ l, c.live? k.group = some l ∧ l.group.enabled = true ∧
          d = ((c.replaceConflict (k.resolve v resolver now)).send l
            ⟨none, k.control, v⟩ now).rephase l) := by
  unfold resolveConflict at h
  cases hk : c.conflict? id with
  | none => simp [hk] at h
  | some k =>
    refine ⟨k, rfl, ?_⟩
    cases hp : k.isPending with
    | false =>
      simp only [hk, hp, Bool.not_false, if_true] at h
      cases h
      exact .inl ⟨rfl, rfl⟩
    | true =>
      simp only [hk, hp, Bool.not_true, Bool.false_eq_true, if_false, Conflict.group_resolve,
        Conflict.control_resolve, live?_replaceConflict] at h
      cases hl : c.live? k.group with
      | none =>
        simp only [hl] at h
        cases h
        exact .inr (.inl ⟨rfl, by simp, rfl⟩)
      | some l =>
        simp only [hl] at h
        cases he : l.group.enabled with
        | false =>
          simp only [he, Bool.false_eq_true, if_false] at h
          cases h
          exact .inr (.inl ⟨rfl, by simp [he], rfl⟩)
        | true =>
          simp only [he, if_true] at h
          cases h
          exact .inr (.inr ⟨rfl, l, rfl, he, rfl⟩)

theorem resolveConflict_of_pending {k : Conflict} (hk : c.conflict? id = some k)
    (hp : k.isPending = true) (hl : c.live? k.group = some l) (he : l.group.enabled = true)
    (v : Value) (resolver : String) (now : Int) :
    c.resolveConflict id v resolver now = .ok (k.resolve v resolver now,
      ((c.replaceConflict (k.resolve v resolver now)).send l ⟨none, k.control, v⟩ now).rephase l) := by
  unfold resolveConflict
  simp only [hk, hp, Bool.not_true, Bool.false_eq_true, if_false, Conflict.group_resolve,
    Conflict.control_resolve, live?_replaceConflict, hl, he, if_true]
  rfl

theorem resolveConflict_of_off {k : Conflict} (hk : c.conflict? id = some k)
    (hp : k.isPending = true) (hoff : ∀ l, c.live? k.group = some l → l.group.enabled = false)
    (v : Value) (resolver : String) (now : Int) :
    c.resolveConflict id v resolver now = .ok (k.resolve v resolver now,
      c.replaceConflict (k.resolve v resolver now)) := by
  unfold resolveConflict
  simp only [hk, hp, Bool.not_true, Bool.false_eq_true, if_false, Conflict.group_resolve,
    live?_replaceConflict]
  cases hl : c.live? k.group with
  | none => rfl
  | some l => simp [hoff l hl]

theorem ignoreConflict_eq_ok {now : Int} {a : Conflict × Coordinator}
    (h : c.ignoreConflict id now = .ok a) :
    ∃ k, c.conflict? id = some k ∧ a.2 = c.replaceConflict (k.ignore now) := by
  unfold ignoreConflict at h
  cases hk : c.conflict? id with
  | none => simp [hk] at h
  | some k =>
    simp only [hk] at h
    cases h
    exact ⟨k, rfl, rfl⟩

end Coordinator

end LinkedControls
