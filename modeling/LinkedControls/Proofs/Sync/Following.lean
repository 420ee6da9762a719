import LinkedControls.Proofs.Store.Reachable
import LinkedControls.Proofs.Sync.Accounting
import LinkedControls.Proofs.Sync.Agreement
import LinkedControls.Proofs.Sync.Detection

/-!
Whether the value of a master gets to the rest of its group. A closing window sends what was written
last, and a member that wrote the same value after the master is not let through.
-/

namespace LinkedControls

theorem Store.Sound.fits_valueOf {s : Store} (hs : s.Sound) {id : String} {kind : Kind}
    (h : s.kindOf? id = some kind) : (s.valueOf id).fits kind = true := by
  obtain ⟨k, hk, rfl⟩ := Option.map_eq_some_iff.mp h
  rw [valueOf_of_get? hk]
  exact hs.fits k (mem_of_get? hk)

namespace Coordinator

variable {c : Coordinator} {l : LiveGroup} {op : Operation} {last w : Competing} {m : String}
  {kind : Kind} {now : Int}

theorem Closes.unrivalled (h : c.Closes op l) (hlast : l.window.getLast? = some last)
    (hquiet : (c.perform now op).conflicts = c.conflicts) :
    c.decision l last = some (ofWrite last) := by
  obtain ⟨id, hconflicts⟩ := h.conflicts hlast now
  rw [hquiet, List.self_eq_append_right] at hconflicts
  unfold newConflicts at hconflicts
  unfold decision
  split at hconflicts
  next => cases hconflicts
  next hno => exact if_neg hno

theorem master_reaches_all_iff (h : Reachable c) (hs : c.store.Sound) (hclose : c.Closes op l)
    (hmode : l.group.mode = .masterSlave) (hmaster : l.group.master = some m)
    (hrules : ∀ r ∈ c.rules, r.group ≠ l.id)
    (hkinds : ∀ i ∈ l.group.members, c.store.kindOf? i = some kind) (hw : w ∈ l.window)
    (hwm : w.control = m) (hlast : l.window.getLast? = some last)
    (hquiet : (c.perform now op).conflicts = c.conflicts) (hf : Faithful c.store l.window) :
    (∀ i ∈ l.group.members, (c.perform now op).store.valueOf i = w.value) ↔
      last.control = m ∨ ∀ i ∈ l.group.members, c.store.valueOf i = w.value := by
  subst hwm
  have hn := nodup_of_live? h.wellKept hclose.1
  have hmember := h.window_members hclose.1 hw
  have hheld : c.store.valueOf w.control = w.value := hf w hw
  obtain ⟨hstore, -⟩ := hclose.sent hlast (hclose.unrivalled hlast hquiet) now
  rw [hstore]
  by_cases hm : last.control = w.control
  · have hone := h.window_nodup hclose.1
    obtain rfl := List.inj_on_of_nodup_map hone (List.mem_of_getLast? hlast) hw hm
    refine iff_of_true (fun i hi => ?_) (.inl rfl)
    by_cases hself : i = last.control
    · subst hself
      rw [valueOf_propagate_of_not_mem c.store c.rules _ hn (by simp [Parcel.targets])]
      exact hheld
    · have hsent : Parcel.isHeldBack ⟨some last.control, last.control, last.value⟩ l.group =
          false := by
        simp [Parcel.isHeldBack, Group.isMaster, hmaster]
      refine valueOf_sent (p := ⟨some last.control, last.control, last.value⟩) hn hsent hrules ?_
        (hkinds i hi) ?_
      · simp [Parcel.targets, hi, hself]
      · rw [← hheld]
        exact hs.fits_valueOf (hkinds _ hmember)
  · -- the member that wrote last is not the master, so nothing is sent
    have hback : Parcel.isHeldBack ⟨some last.control, last.control, last.value⟩ l.group = true :=
      isHeldBack_iff.mpr ⟨hmode, _, rfl, by simp [Group.isMaster, hmaster, Ne.symm hm]⟩
    rw [propagate_of_heldBack c.store c.rules hback]
    exact (or_iff_right hm).symm

def echoedMaster : Coordinator :=
  (start .default .empty 0).performAll [
    (0, .act (.register "m" .text (.text ""))),
    (0, .act (.register "s" .text (.text ""))),
    (0, .act (.register "t" .text (.text ""))),
    (0, .createGroup
      ⟨"g", "g", ["m", "s", "t"], .masterSlave, some "m", .latestWins, true, none⟩),
    (1, .change "m" (.text "x") .user),
    (2, .change "s" (.text "x") .user)]

def echoedGroup : LiveGroup :=
  ⟨⟨"g", "g", ["m", "s", "t"], .masterSlave, some "m", .latestWins, true, none⟩, .empty 100,
    .pendingPropagation, [⟨"m", .text "x", 1, .user⟩, ⟨"s", .text "x", 2, .user⟩], some 1, 2⟩

theorem echoedMaster_closes : echoedMaster.Closes (.flush "g") echoedGroup :=
  ⟨by decide, rfl, rfl⟩

theorem echoedMaster_sound : echoedMaster.store.Sound := ⟨by decide, by decide⟩

theorem master_reaches_all_iff_echoedMaster :
    ¬ ∀ i ∈ ["m", "s", "t"], (echoedMaster.perform 3 (.flush "g")).store.valueOf i = .text "x" := by
  have hreach : Reachable echoedMaster := (Reachable.start _ _ _).performAll _
  have hkinds : ∀ i ∈ echoedGroup.group.members, echoedMaster.store.kindOf? i = some .text := by
    decide
  have hw : ⟨"m", .text "x", 1, .user⟩ ∈ echoedGroup.window := by decide
  have hlast : echoedGroup.window.getLast? = some ⟨"s", .text "x", 2, .user⟩ := rfl
  have hquiet : (echoedMaster.perform 3 (.flush "g")).conflicts = echoedMaster.conflicts := by decide
  have hf : Faithful echoedMaster.store echoedGroup.window := by
    unfold Faithful
    decide
  have hiff := master_reaches_all_iff hreach echoedMaster_sound echoedMaster_closes rfl rfl
    (by decide) hkinds hw rfl hlast hquiet hf
  exact mt hiff.mp (by decide)

theorem echoedMaster_keeps_back :
    Reachable echoedMaster ∧ echoedMaster.store.Sound ∧
      echoedMaster.Closes (.flush "g") echoedGroup ∧ echoedGroup.group.mode = .masterSlave ∧
      echoedGroup.group.master = some "m" ∧ echoedMaster.rules = [] ∧
      (∀ i ∈ echoedGroup.group.members, echoedMaster.store.kindOf? i = some .text) ∧
      ⟨"m", .text "x", 1, .user⟩ ∈ echoedGroup.window ∧
      (∀ w ∈ echoedGroup.window, w.value = .text "x") ∧
      Faithful echoedMaster.store echoedGroup.window ∧
      (echoedMaster.perform 3 (.flush "g")).conflicts = [] ∧
      (echoedMaster.perform 3 (.flush "g")).store.valueOf "t" = .text "" :=
  ⟨(Reachable.start _ _ _).performAll _, echoedMaster_sound, echoedMaster_closes, rfl, rfl,
    by decide, by decide, by decide, by decide, by unfold Faithful; decide, by decide, by decide⟩

end Coordinator

end LinkedControls
