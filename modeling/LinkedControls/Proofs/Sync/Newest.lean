import LinkedControls.Proofs.Sync.Detection
import Mathlib.Data.List.Induction

/-!
The newest of competing writes. It is found by a walk through the list, and of writes at the same time
it is the last. While the clock does not go back, it is the write that arrived last, which is also what
is sent without a conflict.
-/

namespace LinkedControls

/-- No write before `w` has a later time, and all those after it have earlier ones. -/
structure Newest (before : List Competing) (w : Competing) (after : List Competing) : Prop where
  notLater : ∀ v ∈ before, v.time ≤ w.time
  earlier : ∀ v ∈ after, v.time < w.time

def TimeOrdered (writes : List Competing) : Prop := (writes.map (·.time)).Pairwise (· ≤ ·)

instance (writes : List Competing) : Decidable (TimeOrdered writes) :=
  inferInstanceAs (Decidable ((writes.map (·.time)).Pairwise (· ≤ ·)))

variable {writes before after before' after' : List Competing} {v w : Competing}

theorem latestOf_concat (writes : List Competing) (w : Competing) :
    latestOf (writes ++ [w]) =
      some ((latestOf writes).elim w fun best => if best.time ≤ w.time then w else best) := by
  cases writes with
  | nil => rfl
  | cons v rest => simp only [List.cons_append, latestOf, List.foldl_concat, Option.elim_some]

theorem exists_newest (h : writes ≠ []) :
    ∃ before w after, writes = before ++ w :: after ∧ Newest before w after ∧
      latestOf writes = some w := by
  induction writes using List.reverseRecOn with
  | nil => exact absurd rfl h
  | append_singleton earlier last ih =>
    rw [latestOf_concat]
    by_cases hnil : earlier = []
    · subst hnil
      exact ⟨[], last, [], rfl, ⟨by simp, by simp⟩, rfl⟩
    · obtain ⟨before, best, after, rfl, hbest, hlatest⟩ := ih hnil
      rw [hlatest, Option.elim_some]
      by_cases hle : best.time ≤ last.time
      · -- the new write takes over, from those before and after the old one
        rw [if_pos hle]
        refine ⟨before ++ best :: after, last, [], rfl, ⟨fun u hu => ?_, by simp⟩, rfl⟩
        rcases List.mem_append.mp hu with hu | hu
        · exact (hbest.notLater u hu).trans hle
        · rcases List.mem_cons.mp hu with rfl | hu
          · exact hle
          · exact (hbest.earlier u hu).le.trans hle
      · rw [if_neg hle]
        refine ⟨before, best, after ++ [last], by simp, ⟨hbest.notLater, fun u hu => ?_⟩, rfl⟩
        rcases List.mem_append.mp hu with hu | hu
        · exact hbest.earlier u hu
        · obtain rfl := List.mem_singleton.mp hu
          exact lt_of_not_ge hle

theorem Newest.eq_of_splits (h : Newest before w after) (h' : Newest before' v after')
    (he : before ++ w :: after = before' ++ v :: after') : w = v := by
  have apart {first second : List Competing} {u x : Competing} {rest rest' : List Competing}
      (hu : Newest first u rest) (hx : Newest (first ++ u :: second) x rest')
      (hrest : rest = second ++ x :: rest') : False := by
    have hle := hx.notLater u (by simp)
    have hlt := hu.earlier x (by simp [hrest])
    exact hle.not_gt hlt
  rcases List.append_eq_append_iff.mp he with ⟨gap, rfl, hgap⟩ | ⟨gap, rfl, hgap⟩
  · cases gap with
    | nil => exact (List.cons.inj hgap).1
    | cons u second =>
      obtain ⟨rfl, hrest⟩ := List.cons.inj hgap
      exact (apart h h' hrest).elim
  · cases gap with
    | nil => exact (List.cons.inj hgap).1.symm
    | cons u second =>
      obtain ⟨rfl, hrest⟩ := List.cons.inj hgap
      exact (apart h' h hrest).elim

theorem latestOf_eq_some_iff :
    latestOf writes = some w ↔ ∃ before after, writes = before ++ w :: after ∧
      Newest before w after := by
  constructor
  · intro h
    have hne : writes ≠ [] := by
      rintro rfl
      cases h
    obtain ⟨before, v, after, he, hnewest, hv⟩ := exists_newest hne
    obtain rfl := Option.some.inj (hv.symm.trans h)
    exact ⟨before, after, he, hnewest⟩
  · rintro ⟨before, after, rfl, hnewest⟩
    obtain ⟨before', v, after', he, hnewest', hv⟩ := exists_newest (List.append_ne_nil_of_right_ne_nil
      before (List.cons_ne_nil w after))
    rw [hv, hnewest.eq_of_splits hnewest' he]

theorem latestOf_of_timeOrdered (h : TimeOrdered writes) : latestOf writes = writes.getLast? := by
  rcases List.eq_nil_or_concat' writes with rfl | ⟨earlier, last, rfl⟩
  · rfl
  · rw [List.getLast?_concat]
    refine latestOf_eq_some_iff.mpr ⟨earlier, [], rfl, fun v hv => ?_, by simp⟩
    rw [TimeOrdered, List.map_append, List.pairwise_append] at h
    exact h.2.2 v.time (List.mem_map_of_mem hv) last.time (by simp)

namespace Coordinator

variable {c : Coordinator} {l : LiveGroup} {op : Operation} {last : Competing} {id : String}

theorem times_arrivals (c : Coordinator) (id : String) (log : List Competing)
    (run : List (Int × Operation)) :
    ((c.arrivals id log run).map (·.time)).Sublist (log.map (·.time) ++ run.map (·.1)) := by
  induction run generalizing c log with
  | nil => exact (List.append_nil _).symm ▸ .refl _
  | cons step rest ih =>
    obtain ⟨now, op⟩ := step
    have hgain : ((c.accepted now id op).toList.map (·.time)).Sublist [now] := by
      cases h : c.accepted now id op with
      | none => exact List.nil_sublist _
      | some w => simp [time_accepted h]
    have hlog : ((if (c.perform now op).hasOpen id then log ++ (c.accepted now id op).toList
        else []).map (·.time)).Sublist (log.map (·.time) ++ [now]) := by
      split
      · rw [List.map_append]
        exact (List.Sublist.refl _).append hgain
      · exact List.nil_sublist _
    have hrest := (ih (c.perform now op) _).trans (hlog.append (.refl (rest.map (·.1))))
    rwa [List.append_assoc] at hrest

theorem timeOrdered_window {settings : SyncSettings} {store : Store} {nextConflict : Nat}
    {run : List (Int × Operation)} (hclock : (run.map (·.1)).Pairwise (· ≤ ·))
    (hl : ((start settings store nextConflict).performAll run).live? id = some l) :
    TimeOrdered l.window := by
  have hwindow := (gathered_run settings store nextConflict run).window id l hl
  have htimes := times_arrivals (start settings store nextConflict) id [] run
  rw [hwindow]
  exact (hclock.sublist htimes).sublist ((lastWrites_sublist _).map _)

def undisputed (l : LiveGroup) : LiveGroup :=
  { l with group := { l.group with mode := .broadcast } }

theorem decision_undisputed (c : Coordinator) (l : LiveGroup) (last : Competing) :
    c.decision (undisputed l) last = some (ofWrite last) := by
  simp [decision, undisputed, Mode.detectsConflicts]

theorem decision_of_latestWins (hpolicy : l.group.policy = .latestWins)
    (hlatest : latestOf l.window = some last) : c.decision l last = some (ofWrite last) := by
  unfold decision decide
  rw [hpolicy, hlatest]
  split <;> rfl

theorem newest_write_wins (k : Conflict) (hk : k.values ≠ []) :
    ∃ w, k.latest = some w ∧
      (∃ before after, k.values = before ++ w :: after ∧ Newest before w after) ∧
      (TimeOrdered k.values → k.values.getLast? = some w ∧
        ∀ c op l now, Closes c op l → l.window = k.values → l.group.policy = .latestWins →
          c.decision l w = some (some w.control, w.value) ∧
          c.decision l w = c.decision (undisputed l) w ∧
          (c.perform now op).store =
            (propagate c.store l.group c.rules ⟨some w.control, w.control, w.value⟩).1 ∧
          ∃ generation, (c.perform now op).live? l.id = some (recordSent
            { l with window := [], phase := .idle, timer := none, generation := generation }
            (propagate c.store l.group c.rules ⟨some w.control, w.control, w.value⟩).2 now)) := by
  obtain ⟨w, hlatest⟩ := exists_latestOf hk
  refine ⟨w, hlatest, latestOf_eq_some_iff.mp hlatest, fun horder => ?_⟩
  have hlast : k.values.getLast? = some w := (latestOf_of_timeOrdered horder).symm.trans hlatest
  refine ⟨hlast, ?_⟩
  intro c op l now hclose hwindow hpolicy
  rw [← hwindow] at hlatest hlast
  have hdecision := decision_of_latestWins (c := c) hpolicy hlatest
  have hsent := hclose.sent hlast hdecision now
  exact ⟨hdecision, hdecision.trans (decision_undisputed c l w).symm, hsent⟩

def clockWentBack : Conflict := .pending "#0" "g" "d" [
  ⟨"a", .text "u", 5, .user⟩, ⟨"b", .text "v", 7, .user⟩, ⟨"c", .text "x", 7, .user⟩,
  ⟨"d", .text "y", 6, .user⟩]

def twoWriters : List (Int × Operation) := [
  (0, .act (.register "a" .text (.text ""))),
  (0, .act (.register "b" .text (.text ""))),
  (0, .createGroup ⟨"g", "g", ["a", "b"], .bidirectional, none, .latestWins, true, none⟩),
  (1, .change "a" (.text "x") .user),
  (2, .change "b" (.text "y") .user)]

def twoWritersGroup : LiveGroup :=
  ⟨⟨"g", "g", ["a", "b"], .bidirectional, none, .latestWins, true, none⟩, .empty 100,
    .pendingPropagation, [⟨"a", .text "x", 1, .user⟩, ⟨"b", .text "y", 2, .user⟩], some 1, 2⟩

theorem newest_write_wins_twoWriters :
    clockWentBack.latest = some ⟨"c", .text "x", 7, .user⟩ ∧
      (∃ before after, clockWentBack.values = before ++ ⟨"c", .text "x", 7, .user⟩ :: after ∧
        Newest before ⟨"c", .text "x", 7, .user⟩ after) ∧
      Rivals twoWritersGroup.window ∧
      (((start .default .empty 0).performAll twoWriters).perform 3 (.flush "g")).store.valueOf "a" =
        .text "y" := by
  refine ⟨rfl, ?_, by decide, ?_⟩
  · obtain ⟨w, hw, hsplit, -⟩ := newest_write_wins clockWentBack (List.cons_ne_nil _ _)
    obtain rfl := Option.some.inj hw
    exact hsplit
  · obtain ⟨w, hw, -, hordered⟩ := newest_write_wins
      (.pending "#0" "g" "b" twoWritersGroup.window) (List.cons_ne_nil _ _)
    obtain rfl := Option.some.inj hw
    have hclose : ((start .default .empty 0).performAll twoWriters).Closes (.flush "g")
        twoWritersGroup := ⟨by decide, rfl, rfl⟩
    obtain ⟨-, hsent⟩ := hordered (timeOrdered_window (by decide) hclose.1)
    obtain ⟨-, -, hstore, -⟩ := hsent _ _ _ 3 hclose rfl rfl
    rw [hstore]
    decide

end Coordinator

end LinkedControls
