import LinkedControls.Proofs.Sync.Serials

/-!
What is in the window of a group in every state, whenever groups are loaded: the last write of each
member since the window was last empty, in the order of those writes.
-/

namespace LinkedControls

theorem lastWrites_sublist (writes : List Competing) : (lastWrites writes).Sublist writes := by
  induction writes with
  | nil => exact .slnil
  | cons w rest ih =>
    unfold lastWrites
    split
    · exact ih.cons w
    · exact ih.cons_cons w

theorem nodup_lastWrites (writes : List Competing) :
    ((lastWrites writes).map (·.control)).Nodup := by
  induction writes with
  | nil => exact .nil
  | cons w rest ih =>
    unfold lastWrites
    split
    · exact ih
    next hnew =>
      refine List.nodup_cons.mpr ⟨fun hw => hnew ?_, ih⟩
      obtain ⟨v, hv, he⟩ := List.mem_map.mp hw
      exact List.any_eq_true.mpr ⟨v, (lastWrites_sublist rest).subset hv, beq_iff_eq.mpr he⟩

theorem getLast?_lastWrites (writes : List Competing) :
    (lastWrites writes).getLast? = writes.getLast? := by
  rcases List.eq_nil_or_concat' writes with rfl | ⟨earlier, w, rfl⟩
  · rfl
  · rw [lastWrites_concat, LiveGroup.gather, List.getLast?_concat, List.getLast?_concat]

theorem mem_controls_lastWrites {writes : List Competing} {control : String} :
    control ∈ (lastWrites writes).map (·.control) ↔ control ∈ writes.map (·.control) := by
  induction writes with
  | nil => exact .rfl
  | cons w rest ih =>
    unfold lastWrites
    split
    next hlater =>
      obtain ⟨v, hv, he⟩ := List.any_eq_true.mp hlater
      have hmem : w.control ∈ rest.map (·.control) :=
        List.mem_map.mpr ⟨v, hv, beq_iff_eq.mp he⟩
      rw [ih, List.map_cons, List.mem_cons]
      exact ⟨.inr, fun h => h.elim (fun hw => hw ▸ hmem) id⟩
    next => rw [List.map_cons, List.map_cons, List.mem_cons, List.mem_cons, ih]

namespace Coordinator

variable {c d : Coordinator} {l k : LiveGroup} {id : String} {log : List Competing}
  {logs : String → List Competing} {op : Operation} {w : Competing}

def hasOpen (c : Coordinator) (id : String) : Bool := (c.live? id).any fun l => !l.window.isEmpty

def arrivals (c : Coordinator) (id : String) (log : List Competing) :
    List (Int × Operation) → List Competing
  | [] => log
  | (now, op) :: rest =>
      (c.perform now op).arrivals id
        (if (c.perform now op).hasOpen id then log ++ (c.accepted now id op).toList else []) rest

structure Gathered (c : Coordinator) (logs : String → List Competing) : Prop where
  window : ∀ id l, c.live? id = some l → l.window = lastWrites (logs id)
  members : ∀ id l, c.live? id = some l → ∀ w ∈ l.window, w.control ∈ l.group.members

theorem hasOpen_eq (hk : d.live? id = some k) : d.hasOpen id = !k.window.isEmpty := by
  simp [hasOpen, hk]

theorem window_logged (hk : d.live? id = some k)
    (h : k.window = [] ∨ k.window = lastWrites log) :
    k.window = lastWrites (if d.hasOpen id then log else []) := by
  rw [hasOpen_eq hk]
  rcases h with hempty | hlog
  · rw [hempty]
    rfl
  · cases hw : k.window with
    | nil => rfl
    | cons w rest => exact hw.symm.trans hlog

theorem member_of_accepted (hwk : WellKept c.roster) {now : Int} (hl : c.live? id = some l)
    (h : c.accepted now id op = some w) : w.control ∈ l.group.members := by
  obtain ⟨control, v, held, k, rfl, hk, rfl, -, -, rfl⟩ := accepted_eq_some h
  have hlive := live?_of_wellKept hwk (mem_of_liveOf? hk)
  obtain rfl : k = l := Option.some.inj (hlive.symm.trans hl)
  exact mem_of_find?_contains hk

theorem gathered_of_accepted (hwk : WellKept c.roster) (h : Gathered c logs) {now : Int}
    (hacc : c.accepted now id op = some w) : Gathered (c.perform now op) fun i =>
      if (c.perform now op).hasOpen i then logs i ++ (c.accepted now i op).toList else [] := by
  obtain ⟨-, l, store, hl, -, hd⟩ := perform_of_accepted hwk hacc
  obtain rfl := id_of_live? hl
  have hself : (c.perform now op).live? l.id = some (l.noted w c.nextTimer) :=
    hd ▸ live?_note (c := { c with store := store }) hl w w.time
  have hother {i : String} (hi : i ≠ l.id) : (c.perform now op).live? i = c.live? i :=
    hd ▸ live?_note_of_ne (c := { c with store := store }) hi w w.time
  refine ⟨fun i k hk => ?_, fun i k hk => ?_⟩
  · refine window_logged hk (.inr ?_)
    by_cases hi : i = l.id
    · subst hi
      obtain rfl := Option.some.inj (hself.symm.trans hk)
      rw [hacc]
      change LiveGroup.gather l.window w = _
      rw [h.window l.id l hl]
      exact (lastWrites_concat (logs l.id) w).symm
    · have hnone : c.accepted now i op = none :=
        Option.eq_none_iff_forall_ne_some.mpr fun u hu => hi (accepted_unique hacc hu)
      rw [hnone, h.window i k (hother hi ▸ hk)]
      exact congrArg lastWrites (List.append_nil _).symm
  · by_cases hi : i = l.id
    · subst hi
      obtain rfl := Option.some.inj (hself.symm.trans hk)
      intro u hu
      rcases List.mem_append.mp hu with hu | hu
      · exact h.members l.id l hl u (List.mem_filter.mp hu).1
      · obtain rfl := List.mem_singleton.mp hu
        have hmember := member_of_accepted hwk hl hacc
        exact hmember
    · exact h.members i k (hother hi ▸ hk)

theorem gathered_perform (hwk : WellKept c.roster) (h : Gathered c logs) (now : Int)
    (op : Operation) : Gathered (c.perform now op) fun i =>
      if (c.perform now op).hasOpen i then logs i ++ (c.accepted now i op).toList else [] := by
  rcases accepted_cases c now op with ⟨id, w, hacc⟩ | hnone
  · exact gathered_of_accepted hwk h hacc
  · have hsubsides := subsides_perform hwk hnone
    refine ⟨fun i k hk => window_logged hk ?_, fun i k hk w hw => ?_⟩
    · rw [hnone, Option.toList_none, List.append_nil]
      rcases hsubsides.windows i k hk with hempty | ⟨l, hl, hwindow, -⟩
      · exact .inl hempty
      · exact .inr (hwindow.trans (h.window i l hl))
    · rcases hsubsides.windows i k hk with hempty | ⟨l, hl, hwindow, hmembers⟩
      · rw [hempty] at hw
        cases hw
      · rw [hmembers]
        exact h.members i l hl w (hwindow ▸ hw)

theorem gathered_performAll (hreach : Reachable c) (h : Gathered c logs)
    (run : List (Int × Operation)) :
    Gathered (c.performAll run) fun id => c.arrivals id (logs id) run := by
  induction run generalizing c logs with
  | nil => exact h
  | cons step rest ih =>
    exact ih (hreach.step step.1 step.2) (gathered_perform hreach.wellKept h step.1 step.2)

theorem gathered_run (settings : SyncSettings) (store : Store) (nextConflict : Nat)
    (run : List (Int × Operation)) :
    Gathered ((start settings store nextConflict).performAll run) fun id =>
      (start settings store nextConflict).arrivals id [] run := by
  have hstart : Gathered (start settings store nextConflict) fun _ => [] := by
    refine ⟨fun _ _ hl => ?_, fun _ _ hl => ?_⟩
    · cases hl
    · cases hl
  exact gathered_performAll (.start settings store nextConflict) hstart run

theorem Reachable.window_nodup (h : Reachable c) (hl : c.live? id = some l) :
    (l.window.map (·.control)).Nodup := by
  obtain ⟨settings, store, nextConflict, run, rfl⟩ := h.exists_run
  rw [(gathered_run settings store nextConflict run).window id l hl]
  exact nodup_lastWrites _

theorem Reachable.window_members (h : Reachable c) (hl : c.live? id = some l) (hw : w ∈ l.window) :
    w.control ∈ l.group.members := by
  obtain ⟨settings, store, nextConflict, run, rfl⟩ := h.exists_run
  exact (gathered_run settings store nextConflict run).members id l hl w hw

end Coordinator

end LinkedControls
