import LinkedControls.Proofs.Sync.Linked
import LinkedControls.Proofs.Sync.Turn

/-!
The life of a conflict on record. While its group exists it changes once at most, when it is resolved or
ignored, and only then is its value sent.
-/

namespace LinkedControls

namespace Conflict

variable {k k' : Conflict}

@[simp]
theorem id_ignore (now : Int) : (k.ignore now).id = k.id := by
  rw [ignore]
  split <;> rfl

@[simp]
theorem group_ignore (now : Int) : (k.ignore now).group = k.group := by
  rw [ignore]
  split <;> rfl

@[simp]
theorem values_ignore (now : Int) : (k.ignore now).values = k.values := by
  rw [ignore]
  split <;> rfl

@[simp]
theorem isPending_ignore (now : Int) : (k.ignore now).isPending = false := by
  rw [ignore]
  split
  · rfl
  · next h => exact Bool.eq_false_iff.mpr h

theorem ignore_of_settled (h : k.isPending = false) (now : Int) : k.ignore now = k := by
  rw [ignore, h]
  rfl

def SettlesTo (k k' : Conflict) : Prop :=
  k.isPending = true ∧ ((∃ v resolver now, k' = k.resolve v resolver now) ∨ ∃ now, k' = k.ignore now)

theorem SettlesTo.isPending_eq_false (h : k.SettlesTo k') : k'.isPending = false := by
  obtain ⟨-, ⟨v, resolver, now, rfl⟩ | ⟨now, rfl⟩⟩ := h
  · exact isPending_resolve k v resolver now
  · exact isPending_ignore now

theorem SettlesTo.id_eq (h : k.SettlesTo k') : k'.id = k.id := by
  obtain ⟨-, ⟨v, resolver, now, rfl⟩ | ⟨now, rfl⟩⟩ := h
  · exact id_resolve k v resolver now
  · exact id_ignore now

theorem SettlesTo.group_eq (h : k.SettlesTo k') : k'.group = k.group := by
  obtain ⟨-, ⟨v, resolver, now, rfl⟩ | ⟨now, rfl⟩⟩ := h
  · exact group_resolve k v resolver now
  · exact group_ignore now

theorem SettlesTo.values_eq (h : k.SettlesTo k') : k'.values = k.values := by
  obtain ⟨-, ⟨v, resolver, now, rfl⟩ | ⟨now, rfl⟩⟩ := h
  · exact values_resolve k v resolver now
  · exact values_ignore now

end Conflict

namespace Coordinator

variable {c d e : Coordinator} {l : LiveGroup} {g : Group} {k k' : Conflict}
  {id control keep : String} {op : Operation}

theorem mem_of_conflict? (h : c.conflict? id = some k) : k ∈ c.conflicts :=
  List.mem_of_find?_eq_some h

theorem id_of_conflict? (h : c.conflict? id = some k) : k.id = id := by
  simpa using List.find?_some h

theorem conflict?_of_mem (hnum : Numbered c) (hk : k ∈ c.conflicts) : c.conflict? k.id = some k :=
  find?_key hnum.nodup hk

theorem conflict?_replaceConflict (hk : c.conflict? id = some k) (hid : k'.id = id) :
    (c.replaceConflict k').conflict? id = some k' := by
  have hpred : (fun j : Conflict => (if j.id == k'.id then k' else j).id == id) = (·.id == id) := by
    funext j
    split
    · next hj => rw [← eq_of_beq hj]
    · rfl
  rw [conflict?, replaceConflict, List.find?_map]
  simp only [Function.comp_def, hpred]
  rw [← conflict?, hk, Option.map_some, id_of_conflict? hk, hid]
  simp

def Survives (k : Conflict) (d : Coordinator) : Prop :=
  k ∈ d.conflicts ∨ d.live? k.group = none ∧ k.id ∉ d.conflictIds

theorem survives_drop (hnum : Numbered c) (hk : k ∈ c.conflicts) :
    Survives k (c.drop l) ∧ (k ∉ (c.drop l).conflicts → k.group = l.id) := by
  rcases eq_or_ne k.group l.id with hg | hg
  · refine ⟨.inr ⟨by rw [live?_drop, if_pos hg], fun hid => ?_⟩, fun _ => hg⟩
    obtain ⟨j, hj, hjk⟩ := List.mem_map.mp hid
    obtain ⟨hj, hne⟩ := List.mem_filter.mp hj
    obtain rfl := List.inj_on_of_nodup_map hnum.nodup hj hk hjk
    exact bne_iff_ne.mp hne hg
  · have hmem : k ∈ (c.drop l).conflicts := List.mem_filter.mpr ⟨hk, bne_iff_ne.mpr hg⟩
    exact ⟨.inl hmem, fun hno => absurd hmem hno⟩

theorem survives_expel (hnum : Numbered c) (hk : k ∈ c.conflicts) :
    Survives k (c.expel control l).1 ∧ (k ∉ (c.expel control l).1.conflicts → k.group = l.id) := by
  rcases expel_cases c control l with ⟨-, he, -⟩ | ⟨-, he⟩
  · have hmem : k ∈ (c.expel control l).1.conflicts := by
      rw [he]
      exact hk
    exact ⟨.inl hmem, fun hno => absurd hmem hno⟩
  · rw [he]
    exact survives_drop hnum hk

theorem survives_detachAll (hwk : WellKept c.roster) (hnum : Numbered c) (hk : k ∈ c.conflicts)
    (controls : List String) (keep : String) :
    Survives k (c.detachAll controls keep).1 ∧
      (k ∉ (c.detachAll controls keep).1.conflicts → k.group ≠ keep) := by
  refine (detachAll_of_expel (P := fun d => Dwindles c d ∧ Survives k d ∧
    (k ∉ d.conflicts → k.group ≠ keep)) hwk ⟨.refl c, .inl hk, fun hno => absurd hk hno⟩ ?_ controls).2
  rintro d l m hdwk ⟨hdw, hd, hkeep⟩ hl hne -
  have hlive := live?_of_wellKept hdwk hl
  have hnext := dwindles_expel d m l
  refine ⟨hdw.trans hnext, ?_⟩
  rcases hd with hd | ⟨hgone, hid⟩
  · obtain ⟨hsurvives, hgroup⟩ := survives_expel (hdw.numbered hnum) hd
    exact ⟨hsurvives, fun hno => hgroup hno ▸ hne⟩
  · have hk : k ∉ d.conflicts := fun hk => hid (List.mem_map_of_mem hk)
    have hg : k.group ≠ l.id := by
      intro hg
      rw [hg, hlive] at hgone
      cases hgone
    refine ⟨.inr ⟨by rw [live?_expel hlive, if_neg hg, hgone], ?_⟩, fun _ => hkeep hk⟩
    exact fun hi => hid (hnext.ids.subset hi)

theorem Survives.then_change (h : Survives k d) (hkeep : k ∉ d.conflicts → k.group ≠ id)
    (hlive : ∀ i, i ≠ id → e.live? i = d.live? i) (hconflicts : e.conflicts = d.conflicts) :
    Survives k e := by
  have hids : e.conflictIds = d.conflictIds := congrArg (List.map Conflict.id) hconflicts
  rcases h with h | ⟨hgone, hid⟩
  · exact .inl (hconflicts ▸ h)
  · have hk : k ∉ d.conflicts := fun hk => hid (List.mem_map_of_mem hk)
    exact .inr ⟨(hlive _ (hkeep hk)).trans hgone, hids ▸ hid⟩

theorem survives_closeWindow (hk : k ∈ c.conflicts) (now : Int) :
    Survives k (c.closeWindow id now).1 := by
  obtain ⟨ks, he, -⟩ := (closeWindow_spares c id now).conflicts
  exact .inl (he ▸ List.mem_append_left ks hk)

theorem conflicts_loadGroups (c : Coordinator) (stored : List Group) :
    (c.loadGroups stored).2.conflicts = c.conflicts :=
  loadGroups_induction (P := fun d => d.conflicts = c.conflicts) rfl (fun _ _ hd _ _ => hd) stored

theorem conflicts_shutdown (c : Coordinator) : c.shutdown.conflicts = c.conflicts :=
  shutdown_induction (P := fun d => d.conflicts = c.conflicts) rfl fun _ _ _ hd => hd

inductive Turns (k : Conflict) (d : Coordinator) : Prop
  | kept (h : k ∈ d.conflicts)
  | settled (k' : Conflict) (hsettles : k.SettlesTo k') (h : k' ∈ d.conflicts)
  | gone (h : d.live? k.group = none) (hid : k.id ∉ d.conflictIds)

theorem Survives.turns (h : Survives k d) : Turns k d := by
  rcases h with h | ⟨h, hid⟩
  · exact .kept h
  · exact .gone h hid

theorem turns_replaceConflict (hnum : Numbered c) (hk : k ∈ c.conflicts) {j j' : Conflict}
    (hj : j ∈ c.conflicts) (hset : j.isPending = true → j.SettlesTo j') (hid : j'.id = j.id)
    (hsame : j.isPending = false → j' = j) (hd : (c.replaceConflict j').conflicts = d.conflicts) :
    Turns k d := by
  rcases eq_or_ne k j with rfl | hne
  · have hmem : j' ∈ d.conflicts := by
      rw [← hd]
      exact List.mem_map.mpr ⟨k, hk, by simp [hid]⟩
    cases hp : k.isPending with
    | true => exact .settled j' (hset hp) hmem
    | false => exact .kept (hsame hp ▸ hmem)
  · exact .kept (hd ▸ mem_replaceConflict hnum hj hid hk hne)

theorem turns_perform (hwk : WellKept c.roster) (hnum : Numbered c) (hk : k ∈ c.conflicts) (now : Int)
    (op : Operation) : Turns k (c.perform now op) := by
  have keep {ε α : Type} {next : α → Coordinator} {r : Except ε α}
      (hok : ∀ a, r = .ok a → Survives k (next a)) : Turns k (c.after next r) :=
    after_induction (.kept hk) fun a ha => (hok a ha).turns
  cases op with
  | createGroup g =>
    refine keep fun o ho => ?_
    obtain ⟨-, -, hnext⟩ := createGroup_eq_ok ho
    obtain ⟨h, hkeep⟩ := survives_detachAll hwk hnum hk g.members g.id
    rw [hnext]
    exact h.then_change hkeep (fun i hi => by rw [live?_takeIn, if_neg hi]) rfl
  | updateGroup g =>
    refine keep fun o ho => ?_
    obtain ⟨-, l, -, hnext⟩ := updateGroup_eq_ok ho
    have hwk' : WellKept (c.cancel l).roster := by rwa [roster_cancel]
    have hcancel : Dwindles c (c.cancel l) := .of_eq rfl rfl
    have hnum' := hcancel.numbered hnum
    obtain ⟨h, hkeep⟩ := survives_detachAll (c := c.cancel l) hwk' hnum' hk g.members g.id
    rw [hnext]
    exact h.then_change hkeep (fun i hi => live?_redefine_of_ne hi) rfl
  | deleteGroup id =>
    refine keep fun o ho => ?_
    obtain ⟨l, -, hnext⟩ := deleteGroup_eq_ok ho
    exact hnext ▸ (survives_drop hnum hk).1
  | addMember id control =>
    refine keep fun o ho => ?_
    obtain ⟨l, hl, ⟨-, hnext⟩ | ⟨-, hnext⟩⟩ := addMember_eq_ok ho
    · rw [hnext]
      exact .inl hk
    · obtain rfl := id_of_live? hl
      have hself : (c.detach control l.id).1.live? l.id = some l :=
        (live?_detachAll_keep hwk [control]).trans hl
      obtain ⟨h, hkeep⟩ := survives_detachAll hwk hnum hk [control] l.id
      rw [hnext]
      exact h.then_change hkeep (fun i hi => by rw [live?_enrol hself, if_neg hi]; rfl) rfl
  | removeMember id control =>
    refine keep fun o ho => ?_
    obtain ⟨l, -, -, hnext⟩ := removeMember_eq_ok ho
    exact hnext ▸ (survives_expel hnum hk).1
  | setEnabled id enabled =>
    refine keep fun o ho => ?_
    obtain ⟨l, -, hnext⟩ := setEnabled_eq_ok ho
    rw [hnext]
    cases enabled with
    | true => exact .inl hk
    | false => exact .inl hk
  | loadGroups stored => exact .kept (conflicts_loadGroups c stored ▸ hk)
  | addRule r =>
    refine keep fun a ha => ?_
    obtain ⟨-, -, -, -, -, hd⟩ := addRule_eq_ok ha
    exact hd ▸ .inl hk
  | removeRule id => exact keep fun a ha => (removeRule_eq_ok ha).2.2 ▸ .inl hk
  | setCombinator id f =>
    refine keep fun d hd => ?_
    obtain ⟨-, -, rfl⟩ := setCombinator_eq_ok hd
    exact .inl hk
  | change control v origin =>
    refine keep fun r hr => ?_
    obtain ⟨store, -, ⟨he, -⟩ | ⟨-, l, -, -, he⟩⟩ := handleChange_eq_ok hr
    · exact he ▸ .inl hk
    · exact he ▸ .inl hk
  | flush id =>
    refine keep fun o ho => ?_
    obtain ⟨l, -, ⟨-, he⟩ | ⟨-, he⟩⟩ := flush_eq_ok ho
    · exact he ▸ .inl hk
    · exact he ▸ survives_closeWindow (c := c.disarm l) hk now
  | resolve id v resolver =>
    refine after_induction (P := Turns k) (.kept hk) ?_
    rintro ⟨settled, d⟩ hd
    obtain ⟨j, hj, hcases⟩ := resolveConflict_eq_ok hd
    have hj := mem_of_conflict? hj
    rcases hcases with ⟨-, rfl⟩ | ⟨hp, -, rfl⟩ | ⟨hp, l, -, -, rfl⟩
    · exact .kept hk
    all_goals
      refine turns_replaceConflict hnum hk hj (fun h => ⟨h, .inl ⟨v, resolver, now, rfl⟩⟩)
        (Conflict.id_resolve ..) (fun h => ?_) rfl
      rw [hp] at h
      cases h
  | ignore id =>
    refine after_induction (P := Turns k) (.kept hk) fun a ha => ?_
    obtain ⟨j, hj, he⟩ := ignoreConflict_eq_ok ha
    exact turns_replaceConflict hnum hk (mem_of_conflict? hj) (fun h => ⟨h, .inr ⟨now, rfl⟩⟩)
      (Conflict.id_ignore now) (fun h => Conflict.ignore_of_settled h now) (by rw [he])
  | shutdown => exact .kept (conflicts_shutdown c ▸ hk)
  | expire t =>
    simp only [perform]
    split
    · rcases fire_cases c t now with ⟨he, -⟩ | ⟨l, -, -, -, he⟩
      · exact he ▸ .kept hk
      · rw [he]
        exact (survives_closeWindow (c := (c.stopTimer (some t.serial)).update t.group _) hk now).turns
    · exact .kept hk
  | act a => exact keep fun _ _ => .inl hk

def Lives (c : Coordinator) (id : String) (run : List (Int × Operation)) : Prop :=
  ∀ n, ∃ l, (c.performAll (run.take n)).live? id = some l

theorem lives_of_le {run : List (Int × Operation)}
    (h : ∀ n ≤ run.length, ((c.performAll (run.take n)).live? id).isSome = true) :
    c.Lives id run := by
  intro n
  rcases le_total n run.length with hn | hn
  · exact Option.isSome_iff_exists.mp (h n hn)
  · have hend := h run.length le_rfl
    rw [List.take_length] at hend
    rw [List.take_of_length_le hn]
    exact Option.isSome_iff_exists.mp hend

theorem Lives.tail {now : Int} {rest : List (Int × Operation)} (h : c.Lives id ((now, op) :: rest)) :
    (c.perform now op).Lives id rest := fun n => h (n + 1)

def OnRecord (c : Coordinator) (id : String) (run : List (Int × Operation)) (k : Conflict) : Prop :=
  (c.performAll run).conflict? id = some k ∨
    (c.performAll run).conflict? id = none ∧ ¬ c.Lives k.group run

theorem conflict?_of_retired (h : Retired c id) : c.conflict? id = none := by
  refine List.find?_eq_none.mpr fun k hk hid => h.free ?_
  exact List.mem_map.mpr ⟨k, hk, eq_of_beq hid⟩

theorem retired_performAll (h : Reachable c) (hid : Retired c id) (run : List (Int × Operation)) :
    Retired (c.performAll run) id := by
  induction run generalizing c with
  | nil => exact hid
  | cons step rest ih =>
    exact ih (h.step step.1 step.2) ((grows_perform h.wellKept step.1 step.2).retired hid)

theorem conflict?_perform (h : Reachable c) (hk : c.conflict? id = some k) (now : Int)
    (op : Operation) :
    (c.perform now op).conflict? id = some k ∨
      (∃ k', k.SettlesTo k' ∧ (c.perform now op).conflict? id = some k') ∨
      (c.perform now op).live? k.group = none ∧ Retired (c.perform now op) id := by
  have hnum := (h.step now op).numbered
  obtain rfl := id_of_conflict? hk
  have hk := mem_of_conflict? hk
  cases turns_perform h.wellKept h.numbered hk now op with
  | kept hmem => exact .inl (conflict?_of_mem hnum hmem)
  | settled k' hsettles hmem =>
    exact .inr (.inl ⟨k', hsettles, hsettles.id_eq ▸ conflict?_of_mem hnum hmem⟩)
  | gone hgone hid =>
    obtain ⟨n, hn, hgiven⟩ := h.numbered.given k.id (List.mem_map_of_mem hk)
    have hnext : c.nextConflict ≤ (c.perform now op).nextConflict := by
      cases grows_perform h.wellKept now op with
      | dwindles hdw => exact hdw.next.ge
      | one next _ => omega
    exact .inr (.inr ⟨hgone, hid, n, hn.trans_le hnext, hgiven⟩)

theorem onRecord_cons {now : Int} {rest : List (Int × Operation)}
    (h : (c.perform now op).OnRecord id rest k) : c.OnRecord id ((now, op) :: rest) k :=
  h.imp_right fun ⟨hnone, hgone⟩ => ⟨hnone, fun hlives => hgone hlives.tail⟩

theorem onRecord_of_gone (h : Reachable c) {now : Int} {rest : List (Int × Operation)}
    (hgone : (c.perform now op).live? k.group = none) (hid : Retired (c.perform now op) id) :
    c.OnRecord id ((now, op) :: rest) k := by
  refine .inr ⟨conflict?_of_retired (retired_performAll (h.step now op) hid rest), fun hlives => ?_⟩
  obtain ⟨l, hl⟩ := hlives 1
  rw [List.take_one, List.head?_cons, Option.toList_some] at hl
  rw [performAll, List.foldl_cons, List.foldl_nil, hgone] at hl
  cases hl

theorem onRecord_of_settled (h : Reachable c) (hk : c.conflict? id = some k)
    (hp : k.isPending = false) (run : List (Int × Operation)) : c.OnRecord id run k := by
  induction run generalizing c with
  | nil => exact .inl hk
  | cons step rest ih =>
    obtain ⟨now, op⟩ := step
    rcases conflict?_perform h hk now op with hkept | ⟨k', hsettles, -⟩ | ⟨hgone, hid⟩
    · exact onRecord_cons (ih (h.step now op) hkept)
    · exact absurd hsettles.1 (by simp [hp])
    · exact onRecord_of_gone h hgone hid

theorem onRecord_of_conflict? (h : Reachable c) (hk : c.conflict? id = some k)
    (run : List (Int × Operation)) : ∃ m k', (k' = k ∨ k.SettlesTo k') ∧
      ∀ n, c.OnRecord id (run.take n) (if n ≤ m then k else k') := by
  induction run generalizing c with
  | nil => exact ⟨0, k, .inl rfl, fun n => .inl (by simpa [performAll] using hk)⟩
  | cons step rest ih =>
    obtain ⟨now, op⟩ := step
    rcases conflict?_perform h hk now op with hkept | ⟨k', hsettles, hk'⟩ | ⟨hgone, hid⟩
    · obtain ⟨m, k', hk', hrun⟩ := ih (h.step now op) hkept
      refine ⟨m + 1, k', hk', fun n => ?_⟩
      cases n with
      | zero => exact .inl hk
      | succ n =>
        have hn := onRecord_cons (hrun n)
        simpa using hn
    · -- the record is settled now and stays so
      refine ⟨0, k', .inr hsettles, fun n => ?_⟩
      cases n with
      | zero => exact .inl hk
      | succ n =>
        exact onRecord_cons
          (onRecord_of_settled (h.step now op) hk' hsettles.isPending_eq_false (rest.take n))
    · refine ⟨0, k, .inl rfl, fun n => ?_⟩
      rw [ite_self]
      cases n with
      | zero => exact .inl hk
      | succ n => exact onRecord_of_gone h hgone hid

theorem replaceConflict_of_mem (hnum : Numbered c) (hk : k ∈ c.conflicts) :
    c.replaceConflict k = c := by
  have hsame : (c.conflicts.map fun j => if j.id == k.id then k else j) = c.conflicts := by
    refine (List.map_congr_left fun j hj => ?_).trans (List.map_id _)
    split
    · next hid => exact List.inj_on_of_nodup_map hnum.nodup hk hj (eq_of_beq hid).symm
    · rfl
  rw [replaceConflict, hsame]

theorem settled_stands (hnum : Numbered c) (hk : c.conflict? id = some k) (hp : k.isPending = false)
    (v : Value) (resolver : String) (now : Int) :
    c.resolveConflict id v resolver now = .ok (k, c) ∧ c.ignoreConflict id now = .ok (k, c) := by
  constructor
  · simp [resolveConflict, hk, hp]
  · simp only [ignoreConflict, hk, Conflict.ignore_of_settled hp,
      replaceConflict_of_mem hnum (mem_of_conflict? hk)]

theorem unknown_conflict (hk : c.conflict? id = none) (v : Value) (resolver : String) (now : Int) :
    c.resolveConflict id v resolver now = .error (.conflictNotFound id) ∧
      c.ignoreConflict id now = .error (.conflictNotFound id) := by
  simp only [resolveConflict, ignoreConflict, hk, and_self]

theorem ignoreConflict_of_conflict? (hk : c.conflict? id = some k) (now : Int) :
    c.ignoreConflict id now = .ok (k.ignore now, c.replaceConflict (k.ignore now)) := by
  simp only [ignoreConflict, hk]

structure SentToAll (c : Coordinator) (l : LiveGroup) (source : String) (now : Int)
    (es : List Event) (d : Coordinator) : Prop where
  live : d.live? l.id = some { l with
    history := l.history.record es
    group := { l.group with lastSync := some now }
    phase := if l.window.isEmpty then .idle else .pendingPropagation }
  controls : es.map (·.control) = l.group.members
  each : ∀ e ∈ es, e.group = l.id ∧ e.source = source ∧ e.origin = .sync
  before : ∀ e ∈ es, e.before = c.store.valueOf e.control
  held : ∀ e ∈ es, d.store.valueOf e.control = if e.propagated then e.after else e.before
  others : ∀ i, i ≠ l.id → d.live? i = c.live? i
  elsewhere : ∀ i, i ∉ l.group.members → d.store.get? i = c.store.get? i

theorem targets_to_all (p : Parcel) (hp : p.origin = none) (g : Group) : p.targets g = g.members := by
  rw [Parcel.targets, hp]
  exact List.filter_eq_self.mpr fun _ _ => rfl

theorem sentToAll_resolve (hwk : WellKept c.roster) (hl : c.live? l.id = some l) (k' : Conflict)
    (source : String) (v : Value) (now : Int) :
    ∃ es, SentToAll c l source now es
      (((c.replaceConflict k').send l ⟨none, source, v⟩ now).rephase l) := by
  have hn : l.group.members.Nodup := nodup_of_live? hwk hl
  have hsent := propagate_spec (p := ⟨none, source, v⟩) c.store c.rules hn (by simp [Parcel.isHeldBack])
  refine ⟨_, live?_rephase (live?_send (c := c.replaceConflict k') ⟨none, source, v⟩ hl), ?_,
    hsent.each, fun e he => (hsent.reports e he).1, hsent.held, fun i hi => ?_,
    fun i hi => hsent.others i ?_⟩
  · rw [← targets_to_all ⟨none, source, v⟩ rfl l.group]
    exact hsent.controls
  · rw [live?_rephase_of_ne hi, live?_send_of_ne _ hi, live?_replaceConflict]
  · rwa [targets_to_all _ rfl]

theorem conflict_settles_once (h : Reachable c) (hk : c.conflict? id = some k) :
    (∀ run : List (Int × Operation), ∃ m k', (k' = k ∨ k.SettlesTo k') ∧
      ∀ n, c.OnRecord id (run.take n) (if n ≤ m then k else k')) ∧
    (k.isPending = true → ∀ l, c.live? k.group = some l → ∀ v resolver now,
      (l.group.enabled = true → ∃ es d,
        c.resolveConflict id v resolver now = .ok (k.resolve v resolver now, d) ∧
        SentToAll c l k.control now es d ∧ d.conflict? id = some (k.resolve v resolver now)) ∧
      (l.group.enabled = false → ∃ conflicts, c.resolveConflict id v resolver now =
        .ok (k.resolve v resolver now, { c with conflicts := conflicts }))) ∧
    (k.isPending = false → ∀ run v resolver now,
      (c.performAll run).resolveConflict id v resolver now = .ok (k, c.performAll run) ∧
        (c.performAll run).ignoreConflict id now = .ok (k, c.performAll run) ∨
      ¬ c.Lives k.group run ∧
        (c.performAll run).resolveConflict id v resolver now = .error (.conflictNotFound id) ∧
        (c.performAll run).ignoreConflict id now = .error (.conflictNotFound id)) ∧
    ∀ now, ∃ conflicts, c.ignoreConflict id now =
      .ok (k.ignore now, { c with conflicts := conflicts }) := by
  refine ⟨onRecord_of_conflict? h hk, ?_, ?_, ?_⟩
  · intro hp l hl v resolver now
    constructor
    · intro he
      have hid := id_of_live? hl
      obtain ⟨es, hes⟩ := sentToAll_resolve h.wellKept (hid.symm ▸ hl) (k.resolve v resolver now)
        k.control v now
      have hrecord : (c.replaceConflict (k.resolve v resolver now)).conflict? id =
          some (k.resolve v resolver now) :=
        conflict?_replaceConflict hk ((k.id_resolve v resolver now).trans (id_of_conflict? hk))
      exact ⟨es, _, resolveConflict_of_pending hk hp hl he v resolver now, hes, hrecord⟩
    · intro he
      refine ⟨_, resolveConflict_of_off hk hp (fun m hm => ?_) v resolver now⟩
      rwa [← Option.some.inj (hl.symm.trans hm)]
  · intro hp run v resolver now
    rcases onRecord_of_settled h hk hp run with hkept | ⟨hnone, hgone⟩
    · exact .inl (settled_stands (h.performAll run).numbered hkept hp v resolver now)
    · exact .inr ⟨hgone, unknown_conflict hnone v resolver now⟩
  · intro now
    exact ⟨_, ignoreConflict_of_conflict? hk now⟩

def disputed : Coordinator := (start .default .empty 0).performAll [
  (0, .act (.register "a" .text (.text ""))),
  (0, .act (.register "b" .text (.text ""))),
  (0, .act (.register "n" .number .null)),
  (0, .createGroup ⟨"g", "g", ["a", "b", "n"], .bidirectional, none, .manual, true, none⟩),
  (1, .change "a" (.text "x") .user),
  (2, .change "b" (.text "y") .user),
  (3, .flush "g")]

def dispute : Conflict :=
  .pending "#0" "g" "b" [⟨"a", .text "x", 1, .user⟩, ⟨"b", .text "y", 2, .user⟩]

def disputedGroup : LiveGroup :=
  ⟨⟨"g", "g", ["a", "b", "n"], .bidirectional, none, .manual, true, none⟩, ⟨[], 100⟩, .idle, [], none,
    3⟩

def afterwards : List (Int × Operation) := [
  (5, .change "a" (.text "z") .user),
  (6, .resolve "#0" (.text "v") "somebody else"),
  (7, .setEnabled "g" false)]

theorem conflict_settles_once_disputed :
    Reachable disputed ∧ disputed.conflict? "#0" = some dispute ∧
      (∃ es d, disputed.resolveConflict "#0" (.text "w") "somebody" 4 =
          .ok (dispute.resolve (.text "w") "somebody" 4, d) ∧
        SentToAll disputed disputedGroup "b" 4 es d) ∧
      ∀ v resolver now, ((disputed.perform 4 (.resolve "#0" (.text "w") "somebody")).performAll
          afterwards).resolveConflict "#0" v resolver now =
        .ok (dispute.resolve (.text "w") "somebody" 4,
          (disputed.perform 4 (.resolve "#0" (.text "w") "somebody")).performAll afterwards) := by
  have hreach : Reachable disputed := (Reachable.start _ _ _).performAll _
  have hk : disputed.conflict? "#0" = some dispute := by decide
  have hk' : (disputed.perform 4 (.resolve "#0" (.text "w") "somebody")).conflict? "#0" =
      some (dispute.resolve (.text "w") "somebody" 4) := by decide
  obtain ⟨-, hresolve, -, -⟩ := conflict_settles_once hreach hk
  obtain ⟨-, -, hstands, -⟩ := conflict_settles_once (hreach.step 4 _) hk'
  have hlives : (disputed.perform 4 (.resolve "#0" (.text "w") "somebody")).Lives "g" afterwards :=
    lives_of_le (by decide)
  obtain ⟨es, d, hanswer, hsent, -⟩ :=
    (hresolve rfl disputedGroup (by decide) (.text "w") "somebody" 4).1 rfl
  refine ⟨hreach, hk, ⟨es, d, hanswer, hsent⟩, fun v resolver now => ?_⟩
  rcases hstands rfl afterwards v resolver now with hsame | hgone
  · exact hsame.1
  · exact absurd hlives hgone.1

end Coordinator

end LinkedControls
