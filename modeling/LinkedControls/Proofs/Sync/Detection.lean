import LinkedControls.Proofs.Sync.Arrivals
import LinkedControls.Proofs.Sync.Linked
import LinkedControls.Proofs.Sync.Locality
import LinkedControls.Proofs.Value.Agreeing

/-!
When a closing window brings up a conflict. Each write is compared with the last one only; since
equality of values is symmetric and transitive, this finds every two members that wrote unequal values.
-/

namespace LinkedControls

def Rivals (window : List Competing) : Prop :=
  ∃ v ∈ window, ∃ w ∈ window, v.control ≠ w.control ∧ v.value.agrees w.value = false

instance (window : List Competing) : Decidable (Rivals window) :=
  inferInstanceAs (Decidable
    (∃ v ∈ window, ∃ w ∈ window, v.control ≠ w.control ∧ v.value.agrees w.value = false))

theorem Mode.detectsConflicts_iff {mode : Mode} :
    mode.detectsConflicts = true ↔ mode ≠ .broadcast := by
  cases mode <;> simp [detectsConflicts]

theorem exists_latestOf {writes : List Competing} (h : writes ≠ []) :
    ∃ w, latestOf writes = some w := by
  cases writes with
  | nil => exact absurd rfl h
  | cons w rest => exact ⟨_, rfl⟩

namespace Coordinator

variable {c d : Coordinator} {l : LiveGroup} {window : List Competing} {last : Competing}
  {op : Operation} {now : Int}

theorem compete_eq_true : compete window last = true ↔
    2 ≤ window.length ∧ ∃ w ∈ window, w.value.agrees last.value = false := by
  simp [compete]

theorem rivals_of_compete (hn : (window.map (·.control)).Nodup) (hlast : last ∈ window)
    (h : compete window last = true) : Rivals window := by
  obtain ⟨htwo, w, hw, hno⟩ := compete_eq_true.mp h
  by_cases hsame : w.control = last.control
  · -- the last value does not equal itself, so it equals nobody else's
    obtain rfl := List.inj_on_of_nodup_map hn hw hlast hsame
    obtain ⟨m, hm, hne⟩ := exists_other hn (by simpa using htwo) w.control
    obtain ⟨v, hv, rfl⟩ := List.mem_map.mp hm
    refine ⟨v, hv, w, hw, hne, ?_⟩
    rw [Bool.eq_false_iff] at hno ⊢
    exact fun hagree => hno (Value.agrees_trans (Value.agrees_symm hagree) hagree)
  · exact ⟨w, hw, last, hlast, hsame, hno⟩

theorem compete_of_rivals (hn : (window.map (·.control)).Nodup) (h : Rivals window) :
    compete window last = true := by
  obtain ⟨v, hv, w, hw, hne, hno⟩ := h
  refine compete_eq_true.mpr ⟨?_, ?_⟩
  · rcases window with _ | ⟨u, _ | ⟨u', rest⟩⟩
    · cases hv
    · rw [List.mem_singleton] at hv hw
      exact absurd (congrArg Competing.control (hv.trans hw.symm)) hne
    · exact Nat.le_add_left 2 rest.length
  · by_contra hall
    have hagree : ∀ u ∈ window, u.value.agrees last.value = true := fun u hu =>
      Bool.eq_true_of_not_eq_false fun hu' => hall ⟨u, hu, hu'⟩
    rw [Value.agrees_trans (hagree v hv) (Value.agrees_symm (hagree w hw))] at hno
    cases hno

theorem compete_iff_rivals (hn : (window.map (·.control)).Nodup) (hlast : last ∈ window) :
    compete window last = true ↔ Rivals window :=
  ⟨rivals_of_compete hn hlast, compete_of_rivals hn⟩

example : ¬ Rivals [⟨"a", .number .zero, 0, .user⟩, ⟨"b", .number (.neg .zero), 1, .user⟩] ∧
    Rivals [⟨"a", .number .nan, 0, .user⟩, ⟨"b", .number .nan, 1, .user⟩] := by decide

theorem decide_eq_none {g : Group} {f : Option Combinator} {writes : List Competing}
    (hne : writes ≠ []) : decide g f writes = none ↔ g.policy = .manual := by
  obtain ⟨latest, hlatest⟩ := exists_latestOf hne
  unfold decide
  rw [hlatest]
  cases g.policy with
  | latestWins => simp
  | masterWins => simp
  | manual => simp
  | merge => cases f <;> simp

def newConflicts (c : Coordinator) (l : LiveGroup) (last : Competing) (now : Int) (id : String) :
    List Conflict :=
  if compete l.window last && l.group.mode.detectsConflicts then
    [raised l last (c.decision l last) now id]
  else []

theorem conflicts_settle (c : Coordinator) (l : LiveGroup) (last : Competing) (now : Int) :
    (c.settle l last now).2.conflicts =
      c.conflicts ++ c.newConflicts l last now (conflictId c.nextConflict) := by
  unfold settle newConflicts decision
  split
  · simp only [addConflict_eq]
  · exact (List.append_nil _).symm

theorem conflicts_closeWindow {id : String} (hl : c.live? id = some l)
    (hlast : l.window.getLast? = some last) (now : Int) : (c.closeWindow id now).1.conflicts =
      c.conflicts ++ c.newConflicts l last now (conflictId c.nextConflict) := by
  have hsettled := conflicts_settle (c.clearWindow id) l last now
  rcases closeWindow_cases hl now with ⟨hempty, -⟩ | ⟨last', hlast', ⟨-, he⟩ | ⟨o, v, -, he⟩⟩
  · rw [hempty] at hlast
    cases hlast
  all_goals
    obtain rfl := Option.some.inj (hlast'.symm.trans hlast)
    rw [he]
    exact hsettled

theorem Closes.conflicts (h : c.Closes op l) (hlast : l.window.getLast? = some last) (now : Int) :
    ∃ id, (c.perform now op).conflicts = c.conflicts ++ c.newConflicts l last now id := by
  obtain ⟨d, hd, he⟩ := h.perform now
  obtain ⟨generation, hl⟩ := hd.live
  refine ⟨conflictId d.nextConflict, ?_⟩
  have hclosed := conflicts_closeWindow hl hlast now
  rw [he]
  refine hclosed.trans ?_
  rw [hd.conflicts, newConflicts, decision_congr hd.combinators]
  rfl

structure Lists (k : Conflict) (l : LiveGroup) (last : Competing) : Prop where
  group : k.group = l.id
  control : k.control = last.control
  values : k.values = l.window
  pending : k.isPending = true ↔ l.group.policy = .manual

theorem lists_raised (hlast : l.window.getLast? = some last)
    (h : (compete l.window last && l.group.mode.detectsConflicts) = true) (id : String) :
    Lists (raised l last (c.decision l last) now id) l last := by
  have hne : l.window ≠ [] := List.ne_nil_of_mem (List.mem_of_getLast? hlast)
  have hpolicy : c.decision l last = none ↔ l.group.policy = .manual := by
    rw [decision, if_pos h]
    exact decide_eq_none hne
  cases hd : c.decision l last with
  | none => exact ⟨rfl, rfl, rfl, iff_of_true rfl (hpolicy.mp hd)⟩
  | some sent =>
    obtain ⟨o, v⟩ := sent
    have hsettled : l.group.policy ≠ .manual := by
      intro hmanual
      rw [hpolicy.mpr hmanual] at hd
      cases hd
    refine ⟨group_raised .., Conflict.control_resolve .., Conflict.values_resolve .., ?_⟩
    exact iff_of_false (by simp [raised]) hsettled

theorem conflict_iff_rivals {settings : SyncSettings} {store : Store} {nextConflict : Nat}
    {run : List (Int × Operation)}
    (hc : c = (start settings store nextConflict).performAll run) (h : c.Closes op l)
    (hlast : l.window.getLast? = some last) (now : Int) :
    let log := (start settings store nextConflict).arrivals l.id [] run
    l.window = lastWrites log ∧ log.getLast? = some last ∧ (l.window.map (·.control)).Nodup ∧
      (∀ m, m ∈ l.window.map (·.control) ↔ m ∈ log.map (·.control)) ∧
      (∀ w ∈ l.window, w.control ∈ l.group.members) ∧
      if l.group.mode ≠ .broadcast ∧ Rivals l.window then
        ∃ k, (c.perform now op).conflicts = c.conflicts ++ [k] ∧ Lists k l last
      else (c.perform now op).conflicts = c.conflicts := by
  intro log
  have hgathered := gathered_run settings store nextConflict run
  rw [← hc] at hgathered
  have hwindow : l.window = lastWrites log := hgathered.window l.id l h.1
  have hn : (l.window.map (·.control)).Nodup := hwindow ▸ nodup_lastWrites log
  have hiff : (compete l.window last && l.group.mode.detectsConflicts) = true ↔
      l.group.mode ≠ .broadcast ∧ Rivals l.window := by
    rw [Bool.and_eq_true, compete_iff_rivals hn (List.mem_of_getLast? hlast),
      Mode.detectsConflicts_iff, and_comm]
  refine ⟨hwindow, ?_, hn, fun m => ?_, hgathered.members l.id l h.1, ?_⟩
  · rw [← getLast?_lastWrites, ← hwindow, hlast]
  · rw [hwindow]
    exact mem_controls_lastWrites
  · obtain ⟨id, hconflicts⟩ := h.conflicts hlast now
    rw [newConflicts] at hconflicts
    split
    next hrivals =>
      rw [if_pos (hiff.mpr hrivals)] at hconflicts
      exact ⟨_, hconflicts, lists_raised hlast (hiff.mpr hrivals) id⟩
    next hno =>
      rw [if_neg (mt hiff.mp hno), List.append_nil] at hconflicts
      exact hconflicts

def notNumbers : List (Int × Operation) := [
  (0, .act (.register "a" .number .null)),
  (0, .act (.register "b" .number .null)),
  (0, .act (.register "c" .number .null)),
  (0, .createGroup ⟨"g", "g", ["a", "b", "c"], .bidirectional, none, .manual, true, none⟩),
  (1, .change "a" (.number .zero) .user),
  (2, .change "b" (.number .nan) .user),
  (3, .change "a" (.number .nan) .user)]

def notNumbersGroup : LiveGroup :=
  ⟨⟨"g", "g", ["a", "b", "c"], .bidirectional, none, .manual, true, none⟩, .empty 100,
    .pendingPropagation, [⟨"b", .number .nan, 2, .user⟩, ⟨"a", .number .nan, 3, .user⟩], some 2, 3⟩

theorem conflict_iff_rivals_notNumbers :
    ((start .default .empty 0).performAll notNumbers).Closes (.flush "g") notNumbersGroup ∧
      ∃ k, (((start .default .empty 0).performAll notNumbers).perform 4 (.flush "g")).conflicts = [k] ∧
        Lists k notNumbersGroup ⟨"a", .number .nan, 3, .user⟩ := by
  have hclose : ((start .default .empty 0).performAll notNumbers).Closes (.flush "g")
      notNumbersGroup := ⟨by decide, rfl, rfl⟩
  refine ⟨hclose, ?_⟩
  obtain ⟨_, _, _, _, _, hconflict⟩ := conflict_iff_rivals rfl hclose rfl 4
  rw [if_pos (by decide)] at hconflict
  exact hconflict

end Coordinator

end LinkedControls
