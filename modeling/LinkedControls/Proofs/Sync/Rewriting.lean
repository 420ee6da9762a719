import LinkedControls.Proofs.Sync.Closing
import LinkedControls.Proofs.Sync.Roster

/-!
Which rules rewrite the value that a closing window sends. They are those of the member that wrote
last; the events name the member that the value is from.
-/

namespace LinkedControls

theorem latestOf_mem {writes : List Competing} {w : Competing} (h : latestOf writes = some w) :
    w ∈ writes := by
  have fold (rest : List Competing) (best : Competing) :
      rest.foldl (fun best v => if best.time ≤ v.time then v else best) best ∈ best :: rest := by
    induction rest generalizing best with
    | nil => simp
    | cons v rest ih =>
      rw [List.foldl_cons]
      by_cases hle : best.time ≤ v.time
      · rw [if_pos hle]
        exact List.mem_cons_of_mem _ (ih v)
      · rw [if_neg hle]
        rcases List.mem_cons.mp (ih best) with he | hr
        · exact List.mem_cons.mpr (.inl he)
        · exact List.mem_cons_of_mem _ (List.mem_cons_of_mem _ hr)
  cases writes with
  | nil => cases h
  | cons v rest => exact Option.some.inj h ▸ fold rest v

theorem writeOf_mem {writes : List Competing} {control : String} {w : Competing}
    (h : writeOf writes control = some w) : w ∈ writes :=
  List.mem_reverse.mp (List.mem_of_find?_eq_some h)

namespace Coordinator

variable {c : Coordinator} {l : LiveGroup} {op : Operation} {last : Competing} {o : String} {v : Value}

theorem decide_mem {g : Group} {f : Option Combinator} {writes : List Competing}
    (h : decide g f writes = some (some o, v)) : ∃ w ∈ writes, w.control = o ∧ w.value = v := by
  have hlatest (h : (latestOf writes).map ofWrite = some (some o, v)) :
      ∃ w ∈ writes, w.control = o ∧ w.value = v := by
    obtain ⟨w, hw, he⟩ := Option.map_eq_some_iff.mp h
    simp only [ofWrite, Prod.mk.injEq, Option.some.injEq] at he
    exact ⟨w, latestOf_mem hw, he⟩
  unfold decide at h
  cases hp : g.policy with
  | latestWins => exact hlatest (by simpa only [hp] using h)
  | masterWins =>
    simp only [hp] at h
    cases hm : g.master.bind (writeOf writes) with
    | none =>
      rw [hm] at h
      exact hlatest h
    | some w =>
      obtain ⟨m, _, hw⟩ := Option.bind_eq_some_iff.mp hm
      rw [hm] at h
      have he : ofWrite w = (some o, v) := Option.some.inj h
      simp only [ofWrite, Prod.mk.injEq, Option.some.injEq] at he
      exact ⟨w, writeOf_mem hw, he⟩
  | manual => simp [hp] at h
  | merge =>
    simp only [hp] at h
    cases f with
    | none => exact hlatest h
    | some f => simp at h

theorem decision_mem (hlast : l.window.getLast? = some last)
    (hd : c.decision l last = some (some o, v)) : ∃ w ∈ l.window, w.control = o ∧ w.value = v := by
  unfold decision at hd
  split at hd
  · exact decide_mem hd
  · simp only [ofWrite, Option.some.injEq, Prod.mk.injEq] at hd
    exact ⟨last, List.mem_of_getLast? hlast, hd⟩

def parcelOf (o : String) (last : Competing) (v : Value) : Parcel := ⟨some o, last.control, v⟩

theorem targets_parcelOf (g : Group) : (parcelOf o last v).targets g = g.others o := rfl

theorem controls_propagate (o : String) (last : Competing) (v : Value) (s : Store) {g : Group}
    (rules : List Rule) (hn : g.members.Nodup) :
    ((propagate s g rules (parcelOf o last v)).2.map (·.control) = g.others o) ∧
      ∀ e ∈ (propagate s g rules (parcelOf o last v)).2, e.source = o := by
  cases hp : (parcelOf o last v).isHeldBack g with
  | true =>
    rw [propagate_of_heldBack s rules hp]
    refine ⟨?_, ?_⟩
    · rw [List.map_map, ← targets_parcelOf g]
      exact List.map_id _
    · intro e he
      obtain ⟨t, _, rfl⟩ := List.mem_map.mp he
      rfl
  | false =>
    have hs := propagate_spec s rules hn hp
    exact ⟨hs.controls.trans (targets_parcelOf g), fun e he => (hs.each e he).2.1⟩

def FollowsSender (rules : List Rule) (g : Group) (o : String) (p : Parcel) : Prop :=
  ∀ t ∈ g.others o, ∀ w, p.outgoing g rules t = .ok w → rewritten rules g.id o t p.value = some w

theorem followsSender_iff {rules : List Rule} {g : Group} {p : Parcel} :
    FollowsSender rules g o p ↔ ∀ t ∈ g.others o, ∀ w,
      rewritten rules g.id p.ruleSource t p.value = some w →
        rewritten rules g.id o t p.value = some w := by
  unfold FollowsSender
  simp only [outgoing_eq_ok]

theorem window_rewritten_by_last_writer (h : Reachable c) (hclose : c.Closes op l)
    (hlast : l.window.getLast? = some last) (hd : c.decision l last = some (some o, v)) (now : Int) :
    (∃ w ∈ l.window, w.control = o ∧ w.value = v) ∧
      ∃ k events, (c.perform now op).live? l.id = some k ∧ k.history = l.history.record events ∧
        events.map (·.control) = l.group.others o ∧ (∀ e ∈ events, e.source = o) ∧
        if (parcelOf o last v).isHeldBack l.group then
          (c.perform now op).store = c.store ∧ ∀ e ∈ events, e.propagated = false
        else
          (∀ e ∈ events, e.Reports c.store v (rewritten c.rules l.id last.control e.control v) ∧
            (c.perform now op).store.valueOf e.control = if e.propagated then e.after else e.before) ∧
          (FollowsSender c.rules l.group o (parcelOf o last v) ↔ ∀ t ∈ l.group.others o, ∀ w,
            rewritten c.rules l.id last.control t v = some w →
              rewritten c.rules l.id o t v = some w) := by
  have hn : l.group.members.Nodup := h.wellKept.nodup _ (List.mem_map_of_mem (mem_of_live? hclose.1))
  obtain ⟨hstore, generation, hlive⟩ := hclose.sent hlast hd now
  obtain ⟨hcontrols, hsource⟩ := controls_propagate o last v c.store c.rules hn
  refine ⟨decision_mem hlast hd, _, _, hlive, rfl, hcontrols, hsource, ?_⟩
  rw [hstore]
  cases hp : (parcelOf o last v).isHeldBack l.group with
  | true =>
    have hprop := propagate_of_heldBack c.store c.rules hp
    rw [if_pos rfl]
    refine ⟨congrArg Prod.fst hprop, ?_⟩
    intro e he
    change e ∈ (propagate c.store l.group c.rules (parcelOf o last v)).2 at he
    rw [hprop] at he
    obtain ⟨t, _, rfl⟩ := List.mem_map.mp he
    rfl
  | false =>
    have hs := propagate_spec c.store c.rules hn hp
    rw [if_neg Bool.false_ne_true]
    exact ⟨fun e he => ⟨hs.reports e he, hs.held e he⟩, followsSender_iff⟩

def overtakenMaster : Coordinator :=
  (start .default .empty 0).performAll [
    (0, .act (.register "m" .text (.text ""))),
    (0, .act (.register "s" .text (.text ""))),
    (0, .act (.register "t" .text (.text ""))),
    (0, .createGroup
      ⟨"g", "g", ["m", "s", "t"], .bidirectional, some "m", .masterWins, true, none⟩),
    (0, .addRule ⟨"r", "g", "m", "t", .append "!", true⟩),
    (1, .change "m" (.text "x") .user),
    (2, .change "s" (.text "y") .user)]

def overtakenGroup : LiveGroup :=
  ⟨⟨"g", "g", ["m", "s", "t"], .bidirectional, some "m", .masterWins, true, none⟩, .empty 100,
    .pendingPropagation, [⟨"m", .text "x", 1, .user⟩, ⟨"s", .text "y", 2, .user⟩], some 1, 2⟩

theorem overtakenMaster_closes : overtakenMaster.Closes (.flush "g") overtakenGroup :=
  ⟨by decide, rfl, rfl⟩

theorem window_rewritten_by_last_writer_overtakenMaster :
    ¬ FollowsSender overtakenMaster.rules overtakenGroup.group "m"
      (parcelOf "m" ⟨"s", .text "y", 2, .user⟩ (.text "x")) := by
  have hreach : Reachable overtakenMaster := (Reachable.start _ _ _).performAll _
  have hlast : overtakenGroup.window.getLast? = some ⟨"s", .text "y", 2, .user⟩ := rfl
  obtain ⟨_, k, events, _, _, _, _, hsent⟩ := window_rewritten_by_last_writer (o := "m")
    (v := .text "x") hreach overtakenMaster_closes hlast (by decide) 3
  rw [if_neg (by decide)] at hsent
  rw [hsent.2]
  intro hall
  have ht := hall "t" (by decide) (.text "x") (by decide)
  exact absurd ht (by decide)

theorem overtakenMaster_not_rewritten :
    Reachable overtakenMaster ∧ overtakenMaster.Closes (.flush "g") overtakenGroup ∧
      overtakenMaster.decision overtakenGroup ⟨"s", .text "y", 2, .user⟩ =
        some (some "m", .text "x") ∧
      rewritten overtakenMaster.rules "g" "m" "t" (.text "x") = some (.text "x!") ∧
      (overtakenMaster.perform 3 (.flush "g")).store.valueOf "t" = .text "x" ∧
      ((overtakenMaster.perform 3 (.flush "g")).live? "g").map (·.history.events) = some [
        .applied "g" "m" "t" (.text "") (.text "x"), .applied "g" "m" "s" (.text "y") (.text "x")] :=
  ⟨(Reachable.start _ _ _).performAll _, overtakenMaster_closes, by decide⟩

end Coordinator

end LinkedControls
