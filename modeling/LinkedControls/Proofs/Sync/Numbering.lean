import LinkedControls.Proofs.Sync.Closing
import LinkedControls.Proofs.Sync.Roster
import Std.Data.String.ToNat

/-!
The ids of conflicts come from a counter, so that no two conflicts on record share one.
-/

namespace LinkedControls.Coordinator

variable {c d : Coordinator} {l : LiveGroup} {id control keep : String}

def conflictIds (c : Coordinator) : List String := c.conflicts.map (·.id)

def conflictId (n : Nat) : String := "#" ++ toString n

theorem conflictId_inj {m n : Nat} (h : conflictId m = conflictId n) : m = n := by
  have hs : toString m = toString n := String.append_right_inj "#" |>.mp h
  exact Nat.repr_inj.mp hs

structure Numbered (c : Coordinator) : Prop where
  nodup : c.conflictIds.Nodup
  given : ∀ i ∈ c.conflictIds, ∃ n < c.nextConflict, i = conflictId n

structure Dwindles (c d : Coordinator) : Prop where
  next : d.nextConflict = c.nextConflict
  ids : d.conflictIds.Sublist c.conflictIds

namespace Dwindles

theorem of_eq (hn : d.nextConflict = c.nextConflict) (hc : d.conflicts = c.conflicts) :
    Dwindles c d := by
  have hids : d.conflictIds = c.conflictIds := congrArg (List.map Conflict.id) hc
  exact ⟨hn, hids ▸ .refl _⟩

theorem refl (c : Coordinator) : Dwindles c c := .of_eq rfl rfl

theorem trans {e : Coordinator} (h : Dwindles c d) (h' : Dwindles d e) : Dwindles c e :=
  ⟨h'.next.trans h.next, h'.ids.trans h.ids⟩

theorem numbered (h : Dwindles c d) (hc : Numbered c) : Numbered d := by
  refine ⟨hc.nodup.sublist h.ids, ?_⟩
  intro i hi
  rw [h.next]
  exact hc.given i (h.ids.subset hi)

end Dwindles

theorem dwindles_drop (c : Coordinator) (l : LiveGroup) : Dwindles c (c.drop l) :=
  ⟨rfl, List.filter_sublist.map _⟩

theorem dwindles_expel (c : Coordinator) (control : String) (l : LiveGroup) :
    Dwindles c (c.expel control l).1 := by
  rcases expel_cases c control l with ⟨_, he, _⟩ | ⟨_, he⟩
  · rw [he]
    exact .of_eq rfl rfl
  · rw [he]
    exact dwindles_drop c l

theorem dwindles_detachAll (h : WellKept c.roster) (controls : List String) (keep : String) :
    Dwindles c (c.detachAll controls keep).1 :=
  detachAll_of_expel h (.refl c) (fun d l m _ hd _ _ _ => hd.trans (dwindles_expel d m l)) controls

theorem dwindles_loadGroups (c : Coordinator) (stored : List Group) :
    Dwindles c (c.loadGroups stored).2 :=
  loadGroups_induction (.refl c) (fun _ _ hd _ _ => hd.trans (.of_eq rfl rfl)) stored

theorem dwindles_shutdown (c : Coordinator) : Dwindles c c.shutdown :=
  shutdown_induction (.refl c) fun _ _ _ hd => hd.trans (.of_eq rfl rfl)

theorem dwindles_replaceConflict (c : Coordinator) (k : Conflict) :
    Dwindles c (c.replaceConflict k) := by
  have hids : (c.replaceConflict k).conflictIds = c.conflictIds := by
    simp only [conflictIds, replaceConflict, List.map_map]
    refine List.map_congr_left ?_
    intro j _
    by_cases hj : j.id = k.id
    · simp [hj]
    · simp [hj]
  exact ⟨rfl, hids ▸ .refl _⟩

theorem dwindles_handleChange {v : Value} {origin : Origin} {now : Int} {r : Change × Coordinator}
    (hr : c.handleChange control v origin now = .ok r) : Dwindles c r.2 := by
  obtain ⟨store, _, ⟨he, _⟩ | ⟨_, l, _, _, he⟩⟩ := handleChange_eq_ok hr
  · rw [he]
    exact .of_eq rfl rfl
  · rw [he]
    exact .of_eq rfl rfl

theorem dwindles_resolveConflict {v : Value} {resolver : String} {now : Int}
    {r : Conflict × Coordinator} (hr : c.resolveConflict id v resolver now = .ok r) :
    Dwindles c r.2 := by
  obtain ⟨k, _, ⟨_, he⟩ | ⟨_, _, he⟩ | ⟨_, l, _, _, he⟩⟩ := resolveConflict_eq_ok hr
  · rw [he]
    exact .refl c
  · rw [he]
    exact dwindles_replaceConflict c _
  · rw [he]
    exact (dwindles_replaceConflict c _).trans (.of_eq rfl rfl)

inductive Grows (c d : Coordinator) : Prop
  | dwindles (h : Dwindles c d)
  | one (next : d.nextConflict = c.nextConflict + 1)
      (ids : d.conflictIds = c.conflictIds ++ [conflictId c.nextConflict])

namespace Grows

theorem numbered (h : Grows c d) (hc : Numbered c) : Numbered d := by
  cases h with
  | dwindles h => exact h.numbered hc
  | one next ids =>
    constructor
    · rw [ids]
      refine List.nodup_append.mpr ⟨hc.nodup, by simp, ?_⟩
      intro i hi j hj hij
      obtain rfl := List.mem_singleton.mp hj
      obtain ⟨n, hn, hin⟩ := hc.given i hi
      have heq := conflictId_inj (hin.symm.trans hij)
      omega
    · rw [ids, next]
      intro i hi
      rcases List.mem_append.mp hi with hi | hi
      · obtain ⟨n, hn, hin⟩ := hc.given i hi
        exact ⟨n, Nat.lt_succ_of_lt hn, hin⟩
      · exact ⟨c.nextConflict, Nat.lt_succ_self _, List.mem_singleton.mp hi⟩

theorem le (h : Grows c d) : c.nextConflict ≤ d.nextConflict := by
  cases h with
  | dwindles h => exact h.next.ge
  | one next ids => exact next ▸ Nat.le_succ _

theorem of_start {e : Coordinator} (h : Grows d e) (hn : d.nextConflict = c.nextConflict)
    (hc : d.conflicts = c.conflicts) : Grows c e := by
  have hids : d.conflictIds = c.conflictIds := congrArg (List.map Conflict.id) hc
  cases h with
  | dwindles h => exact .dwindles ((Dwindles.of_eq hn hc).trans h)
  | one next ids => exact .one (hn ▸ next) (hids ▸ hn ▸ ids)

end Grows

structure Retired (c : Coordinator) (id : String) : Prop where
  free : id ∉ c.conflictIds
  given : ∃ n < c.nextConflict, id = conflictId n

theorem Grows.retired (h : Grows c d) (hid : Retired c id) : Retired d id := by
  obtain ⟨n, hn, rfl⟩ := hid.given
  cases h with
  | dwindles h => exact ⟨fun hi => hid.free (h.ids.subset hi), n, h.next ▸ hn, rfl⟩
  | one next ids =>
    refine ⟨fun hi => ?_, n, by omega, rfl⟩
    rw [ids, List.mem_append, List.mem_singleton] at hi
    rcases hi with hi | hi
    · exact hid.free hi
    · have heq := conflictId_inj hi
      omega

theorem grows_settle (last : Competing) (now : Int) : Grows c (c.settle l last now).2 := by
  obtain ⟨ks, he, hks, hone, _⟩ := settle_snd c l last now
  rw [he]
  rcases hone with rfl | ⟨k, rfl⟩
  · exact .dwindles (.of_eq rfl (List.append_nil _))
  · have hk : k.id = conflictId c.nextConflict := (hks k List.mem_cons_self).2.1
    exact .one rfl (by simp [conflictIds, hk])

theorem grows_closeWindow (c : Coordinator) (id : String) (now : Int) :
    Grows c (c.closeWindow id now).1 := by
  have hclear : Dwindles c (c.clearWindow id) := .of_eq rfl rfl
  refine closeWindow_induction (.dwindles (.refl c)) (.dwindles hclear) ?_ ?_
  · exact fun _ last => (grows_settle last now).of_start rfl rfl
  · intro d l p hd
    cases hd with
    | dwindles h => exact .dwindles (h.trans (.of_eq rfl rfl))
    | one next ids => exact .one next ids

theorem grows_perform (hwk : WellKept c.roster) (now : Int) (op : Operation) :
    Grows c (c.perform now op) := by
  have keep {ε α : Type} {next : α → Coordinator} {r : Except ε α}
      (hok : ∀ a, r = .ok a → Dwindles c (next a)) : Grows c (c.after next r) :=
    .dwindles (after_induction (.refl c) hok)
  cases op with
  | createGroup g =>
    refine keep fun o ho => ?_
    obtain ⟨_, _, hnext⟩ := createGroup_eq_ok ho
    exact hnext ▸ (dwindles_detachAll hwk _ _).trans (.of_eq rfl rfl)
  | updateGroup g =>
    refine keep fun o ho => ?_
    obtain ⟨_, l, _, hnext⟩ := updateGroup_eq_ok ho
    have hcancel : Dwindles c (c.cancel l) := .of_eq rfl rfl
    have hdetach := dwindles_detachAll (c := c.cancel l) (by rwa [roster_cancel]) g.members g.id
    exact hnext ▸ (hcancel.trans hdetach).trans (.of_eq rfl rfl)
  | deleteGroup id =>
    refine keep fun o ho => ?_
    obtain ⟨l, _, hnext⟩ := deleteGroup_eq_ok ho
    exact hnext ▸ dwindles_drop c l
  | addMember id control =>
    refine keep fun o ho => ?_
    obtain ⟨l, _, ⟨_, hnext⟩ | ⟨_, hnext⟩⟩ := addMember_eq_ok ho
    · exact hnext ▸ .refl c
    · exact hnext ▸ (dwindles_detachAll hwk [control] id).trans (.of_eq rfl rfl)
  | removeMember id control =>
    refine keep fun o ho => ?_
    obtain ⟨l, _, _, hnext⟩ := removeMember_eq_ok ho
    exact hnext ▸ dwindles_expel c control l
  | setEnabled id enabled =>
    refine keep fun o ho => ?_
    obtain ⟨l, _, hnext⟩ := setEnabled_eq_ok ho
    rw [hnext]
    cases enabled <;> exact .of_eq rfl rfl
  | loadGroups stored => exact .dwindles (dwindles_loadGroups c stored)
  | addRule r =>
    refine keep fun a ha => ?_
    obtain ⟨_, _, _, _, _, hd⟩ := addRule_eq_ok ha
    exact hd ▸ .of_eq rfl rfl
  | removeRule id => exact keep fun a ha => (removeRule_eq_ok ha).2.2 ▸ .of_eq rfl rfl
  | setCombinator id f =>
    refine keep fun d hd => ?_
    obtain ⟨_, _, rfl⟩ := setCombinator_eq_ok hd
    exact .of_eq rfl rfl
  | change control v origin => exact keep fun r hr => dwindles_handleChange hr
  | flush id =>
    refine after_induction (.dwindles (.refl c)) fun o ho => ?_
    obtain ⟨l, _, ⟨_, he⟩ | ⟨_, he⟩⟩ := flush_eq_ok ho
    · exact he ▸ .dwindles (.of_eq rfl rfl)
    · exact he ▸ (grows_closeWindow (c.disarm l) id now).of_start rfl rfl
  | resolve id v resolver => exact keep fun r hr => dwindles_resolveConflict hr
  | ignore id =>
    refine keep fun a ha => ?_
    obtain ⟨_, _, hd⟩ := ignoreConflict_eq_ok ha
    exact hd ▸ dwindles_replaceConflict c _
  | shutdown => exact .dwindles (dwindles_shutdown c)
  | expire t =>
    simp only [perform]
    split
    · rcases fire_cases c t now with ⟨he, _⟩ | ⟨l, _, _, _, he⟩
      · exact he ▸ .dwindles (.of_eq rfl rfl)
      · exact he ▸ (grows_closeWindow _ t.group now).of_start rfl rfl
    · exact .dwindles (.refl c)
  | act a => exact keep fun _ _ => .of_eq rfl rfl

theorem Reachable.numbered (h : Reachable c) : Numbered c := by
  induction h with
  | start settings store nextConflict => exact ⟨.nil, fun _ hi => absurd hi List.not_mem_nil⟩
  | step now op hr ih => exact (grows_perform hr.wellKept now op).numbered ih

end LinkedControls.Coordinator
