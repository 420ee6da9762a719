import LinkedControls.Proofs.Sync.Mirror
import LinkedControls.Proofs.Sync.Serials

/-!
Pauses. The timers that are due before the end of a pause act in it one after the other, and are gone
when it is over. As no timer is due later than the time of the windows after the last operation, a pause
of that length leaves all groups at rest.
-/

namespace LinkedControls

namespace Coordinator

variable {c d : Coordinator} {l : LiveGroup} {id : String} {now : Int} {op : Operation} {t : Timer}

theorem timers_closeWindow (c : Coordinator) (id : String) (now : Int) :
    (c.closeWindow id now).1.timers = c.timers := by
  refine closeWindow_induction (P := fun d => d.timers = c.timers) rfl rfl (fun l last => ?_)
    fun d l p hd => hd
  unfold settle
  split <;> rfl

theorem timers_fire (c : Coordinator) (t : Timer) (now : Int) :
    (c.fire t now).1.timers = c.timers.filter (·.serial != t.serial) := by
  have hstop : (c.stopTimer (some t.serial)).timers = c.timers.filter (·.serial != t.serial) :=
    List.filter_congr fun u _ => by simp [bne]
  rcases fire_cases c t now with ⟨he, -⟩ | ⟨l, -, -, -, he⟩
  · rw [he, hstop]
  · rw [he, timers_closeWindow]
    exact hstop

def expiries (c : Coordinator) (now : Int) : List (Int × Operation) :=
  (Session.dueTimers c now).map fun t => (t.due, .expire t)

theorem mem_dueTimers : t ∈ Session.dueTimers c now ↔ t ∈ c.timers ∧ t.due ≤ now := by
  rw [Session.dueTimers, List.mem_mergeSort, List.mem_filter, decide_eq_true_iff]

theorem timers_expire (ht : t ∈ c.timers) (now : Int) :
    (c.perform now (.expire t)).timers = c.timers.filter (·.serial != t.serial) := by
  rw [perform, if_pos ht, timers_fire]

theorem mem_timers_of_rest {ts : List Timer} (ht : t ∈ c.timers) (hn : ((t :: ts).map (·.serial)).Nodup)
    (hmem : ∀ u ∈ ts, u ∈ c.timers) (now : Int) :
    ∀ u ∈ ts, u ∈ (c.perform now (.expire t)).timers := by
  intro u hu
  rw [timers_expire ht, List.mem_filter, bne_iff_ne]
  refine ⟨hmem u hu, fun hserial => ?_⟩
  exact (List.nodup_cons.mp hn).1 (List.mem_map.mpr ⟨u, hu, hserial⟩)

theorem not_mem_timers_performAll {ts : List Timer} (hmem : ∀ t ∈ ts, t ∈ c.timers)
    (hn : (ts.map (·.serial)).Nodup) {u : Timer}
    (hu : u ∈ (c.performAll (ts.map fun t => (t.due, .expire t))).timers) : u ∈ c.timers ∧ u ∉ ts := by
  induction ts generalizing c with
  | nil => exact ⟨hu, List.not_mem_nil⟩
  | cons t rest ih =>
    obtain ⟨ht, hrest⟩ := List.forall_mem_cons.mp hmem
    have hstep := ih (mem_timers_of_rest ht hn hrest t.due) (List.nodup_cons.mp hn).2 hu
    rw [timers_expire ht, List.mem_filter, bne_iff_ne] at hstep
    obtain ⟨⟨hu, hserial⟩, hno⟩ := hstep
    refine ⟨hu, fun hin => ?_⟩
    rcases List.mem_cons.mp hin with rfl | hin
    · exact hserial rfl
    · exact hno hin

theorem nodup_dueTimers (hn : (c.timers.map (·.serial)).Nodup) (now : Int) :
    ((Session.dueTimers c now).map (·.serial)).Nodup := by
  have hdue : ((c.timers.filter fun t => t.due ≤ now).map (·.serial)).Nodup :=
    hn.sublist (List.filter_sublist.map _)
  exact ((List.mergeSort_perm _ _).map _).nodup_iff.mpr hdue

theorem timers_expiries (hn : (c.timers.map (·.serial)).Nodup)
    (ht : t ∈ (c.performAll (c.expiries now)).timers) : t ∈ c.timers ∧ now < t.due := by
  obtain ⟨hmem, hno⟩ := not_mem_timers_performAll (fun t ht => (mem_dueTimers.mp ht).1)
    (nodup_dueTimers hn now) ht
  exact ⟨hmem, lt_of_not_ge fun hle => hno (mem_dueTimers.mpr ⟨hmem, hle⟩)⟩

theorem mayPerform_of_loads (h : op.loads = false) : c.mayPerform op = true := by
  cases op with
  | loadGroups stored => cases h
  | _ => rfl

theorem loadsFirst_of_loads {run : List (Int × Operation)} (h : ∀ entry ∈ run, entry.2.loads = false) :
    c.loadsFirst run = true := by
  induction run generalizing c with
  | nil => rfl
  | cons entry rest ih =>
    obtain ⟨hentry, hrest⟩ := List.forall_mem_cons.mp h
    exact Bool.and_eq_true_iff.mpr ⟨mayPerform_of_loads hentry, ih hrest⟩

theorem kept_of_loads {run : List (Int × Operation)} (h : ∀ entry ∈ run, entry.2.loads = false)
    (settings : SyncSettings) (store : Store) (nextConflict : Nat) :
    Kept ((start settings store nextConflict).performAll run) settings fun id =>
      (start settings store nextConflict).ledger id [] run :=
  kept_performAll (.start settings store nextConflict)
    ⟨rfl, clockwork_start settings store nextConflict, fun _ _ hl => by cases hl⟩
    (loadsFirst_of_loads h)

theorem ledger_append (c : Coordinator) (id : String) (log : List Competing)
    (run more : List (Int × Operation)) :
    c.ledger id log (run ++ more) = (c.performAll run).ledger id (c.ledger id log run) more := by
  induction run generalizing c log with
  | nil => rfl
  | cons entry rest ih => exact ih ..

/-- Every timer is due by the time that a window opened now would close. -/
structure Punctual (c : Coordinator) (now : Int) : Prop where
  clockwork : Clockwork c
  due : ∀ t ∈ c.timers, t.due ≤ now + c.settings.debounce

theorem punctual_start (settings : SyncSettings) (store : Store) (nextConflict : Nat) (now : Int) :
    Punctual (start settings store nextConflict) now :=
  ⟨clockwork_start settings store nextConflict, fun _ ht => absurd ht List.not_mem_nil⟩

namespace Punctual

theorem perform (h : Punctual c now) (hwk : WellKept c.roster) {time : Int} (htime : time ≤ now)
    (hop : op.loads = false) : Punctual (c.perform time op) now := by
  have hlogged := logged_perform hwk h.clockwork time (mayPerform_of_loads hop)
  refine ⟨hlogged.clockwork, fun t ht => ?_⟩
  rw [hlogged.settings]
  rcases accepted_cases c time op with ⟨id, w, hacc⟩ | hnone
  · -- the only new timer is that of the window which the write is in
    obtain ⟨-, l, store, hl, -, hd⟩ := perform_of_accepted hwk hacc
    obtain rfl := id_of_live? hl
    have hstore : Clockwork { c with store := store } :=
      h.clockwork.steady (steady_of_groups rfl rfl rfl rfl)
    rw [hd, timers_note hstore hl, List.mem_append] at ht
    rcases ht with ht | ht
    · exact h.due t (List.mem_filter.mp ht).1
    · obtain rfl := List.mem_singleton.mp ht
      have hnew : w.time ≤ now := time_accepted hacc ▸ htime
      exact Int.add_le_add_right hnew _
  · exact h.due t ((turn_perform hwk h.clockwork (mayPerform_of_loads hop) hnone).timers.subset ht)

theorem performAll (h : Punctual c now) (hreach : Reachable c) {run : List (Int × Operation)}
    (hrun : ∀ step ∈ run, step.1 ≤ now ∧ step.2.loads = false) : Punctual (c.performAll run) now := by
  induction run generalizing c with
  | nil => exact h
  | cons step rest ih =>
    obtain ⟨hstep, hrest⟩ := List.forall_mem_cons.mp hrun
    exact ih (h.perform hreach.wellKept hstep.1 hstep.2) (hreach.step step.1 step.2) hrest

theorem mono (h : Punctual c now) {later : Int} (hle : now ≤ later) : Punctual c later :=
  ⟨h.clockwork, fun t ht => (h.due t ht).trans (Int.add_le_add_right hle _)⟩

theorem timers_eq_nil (h : Punctual c now) {later : Int} (hlater : now + c.settings.debounce ≤ later) :
    (c.performAll (c.expiries later)).timers = [] := by
  refine List.eq_nil_iff_forall_not_mem.mpr fun t ht => ?_
  obtain ⟨hmem, hlt⟩ := timers_expiries h.clockwork.serials ht
  exact absurd hlt ((h.due t hmem).trans hlater).not_gt

end Punctual

theorem Clockwork.at_rest (h : Clockwork c) (hnone : c.timers = []) (hl : c.live? id = some l) :
    l.window = [] ∧ l.phase = .idle := by
  rcases h.ticks id l hl with ⟨hwindow, hphase, -⟩ | ⟨last, serial, -, -, -, -, hts⟩
  · exact ⟨hwindow, hphase⟩
  · rw [timersOf, hnone] at hts
    cases hts

end Coordinator

namespace Session

open Coordinator

variable {s : Session}

theorem coordinator_commit (s : Session) (w : Writes) :
    (s.commit w).2.coordinator = s.coordinator := by
  unfold commit
  split <;> rfl

theorem now_commit (s : Session) (w : Writes) : (s.commit w).2.now = s.now := by
  unfold commit
  split <;> rfl

theorem fire_of_mem {t : Timer} (ht : t ∈ s.coordinator.timers) :
    (s.fire t).coordinator = s.coordinator.perform t.due (.expire t) := by
  rw [Coordinator.perform, if_pos ht]
  exact coordinator_commit _ _

theorem coordinator_foldl_fire {ts : List Timer} (hmem : ∀ t ∈ ts, t ∈ s.coordinator.timers)
    (hn : (ts.map (·.serial)).Nodup) : (ts.foldl fire s).coordinator =
      s.coordinator.performAll (ts.map fun t => (t.due, .expire t)) := by
  induction ts generalizing s with
  | nil => rfl
  | cons t rest ih =>
    obtain ⟨ht, hrest⟩ := List.forall_mem_cons.mp hmem
    have hfired := fire_of_mem ht
    have hstep := ih (s := s.fire t) (hfired ▸ mem_timers_of_rest ht hn hrest t.due)
      (List.nodup_cons.mp hn).2
    rw [List.foldl_cons, hstep, hfired]
    rfl

theorem coordinator_wait (h : s.coordinator.Reachable) (ms : Nat) : (s.wait ms).coordinator =
    s.coordinator.performAll (s.coordinator.expiries (s.now + ms)) :=
  coordinator_foldl_fire (fun _ ht => (mem_dueTimers.mp ht).1) (nodup_dueTimers h.attributed.serials _)

end Session

end LinkedControls
