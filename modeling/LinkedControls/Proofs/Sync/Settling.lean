import LinkedControls.Proofs.Sync.Chronicle
import LinkedControls.Proofs.Sync.Detection
import LinkedControls.Proofs.Sync.Scripting
import LinkedControls.Proofs.Sync.Sending
import LinkedControls.Sync.Status

/-!
How a script ends. Its last pause is longer than any timer has to wait, so that all groups are at rest;
and as nothing but its timer closes the window of a group while the steps go on, every change that a
group has taken in is still on its ledger when the window closes.
-/

namespace LinkedControls

namespace Coordinator

variable {c d : Coordinator} {l k : LiveGroup} {id control : String} {op : Operation} {now time : Int}
  {w last : Competing} {run : List (Int × Operation)} {settings : SyncSettings}
  {logs : String → List Competing}

theorem roster_perform_of_step (h : op.ofStep = true) (now : Int) :
    (c.perform now op).roster = c.roster := by
  cases op with
  | change control v origin =>
    exact after_induction (P := fun d => d.roster = c.roster) rfl fun r hr => roster_handleChange hr
  | resolve id v resolver =>
    exact after_induction (P := fun d => d.roster = c.roster) rfl fun r hr => roster_resolveConflict hr
  | expire t =>
    simp only [perform]
    split
    · exact roster_fire t now
    · rfl
  | _ => cases h

theorem closes_of_interrupts (hc : Clockwork c) (hop : op.ofStep = true) (hl : c.live? id = some l)
    (h : c.interrupts id op = true) : c.Closes op l := by
  cases op with
  | expire t =>
    simp only [interrupts, Bool.and_eq_true, List.contains_iff_mem, beq_iff_eq] at h
    obtain ⟨ht, rfl⟩ := h
    obtain ⟨k, hk, -, hgen, he⟩ := hc.of_timer ht
    obtain rfl := Option.some.inj (hk.symm.trans hl)
    have hid := id_of_live? hl
    exact ⟨hid ▸ hl, he, ht, hid.symm, hgen.symm⟩
  | change control v origin => cases h
  | resolve id v resolver => cases h
  | _ => cases hop

theorem ends_of_not_closes (hc : Clockwork c) (hop : op.ofStep = true) (hl : c.live? id = some l)
    (hno : ¬ c.Closes op l) (now : Int) : c.ends now id op = false := by
  have hinterrupts : c.interrupts id op = false :=
    Bool.eq_false_iff.mpr (mt (closes_of_interrupts hc hop hl) hno)
  rw [ends, hinterrupts, membersOf?_of_roster (roster_perform_of_step hop now), bne_self_eq_false]
  rfl

theorem exists_live?_perform (hop : op.ofStep = true) (hl : c.live? id = some l) (now : Int) :
    ∃ k, (c.perform now op).live? id = some k := by
  have hroster := roster_perform_of_step (c := c) hop now
  have hmembers := membersOf?_of_roster hroster id
  rw [membersOf?, membersOf?, hl] at hmembers
  obtain ⟨k, hk, -⟩ := Option.map_eq_some_iff.mp hmembers
  exact ⟨k, hk⟩

theorem mem_ledger_of_not_closes (hc : Clockwork c) (hop : op.ofStep = true)
    (hl : c.live? id = some l) (hno : ¬ c.Closes op l) {log : List Competing}
    (hw : w ∈ log ++ (c.accepted now id op).toList) : w ∈ c.ledger id log [(now, op)] := by
  rw [ledger, ends_of_not_closes hc hop hl hno now]
  exact hw

theorem accepted_of_handleChange {v : Value} {r : Change × Coordinator}
    (h : c.handleChange control v .user now = .ok r) (hl : c.liveOf? control = some l)
    (he : l.group.enabled = true) : ∃ held, c.store.kept control v = .ok held ∧
      c.accepted now l.id (.change control v .user) = some ⟨control, held, now, .user⟩ := by
  obtain ⟨store, hwrite, -⟩ := handleChange_eq_ok h
  obtain ⟨_, held, -, hkept, -⟩ := Store.write_eq_ok hwrite
  refine ⟨held, hkept, ?_⟩
  simp only [accepted, hl, hkept, he, and_self, if_true]

theorem exists_closing (hreach : Reachable c) (h : Kept c settings logs) (hl : c.live? id = some l)
    (hw : w ∈ logs id) {later : Int} (hrun : ∀ entry ∈ run, Within later entry)
    (hend : ∀ k, (c.performAll run).live? id = some k → k.window = []) :
    ∃ mid t rest k, run = mid ++ (t.due, .expire t) :: rest ∧
      (c.performAll mid).Closes (.expire t) k ∧ k.id = id ∧ w ∈ c.ledger id (logs id) mid := by
  induction run generalizing c l logs with
  | nil =>
    -- the window is empty, but it has the last writes on a ledger with a write
    have hcontrol : w.control ∈ (lastWrites (logs id)).map (·.control) :=
      mem_controls_lastWrites.mpr (List.mem_map_of_mem hw)
    rw [← h.windows id l hl, hend l hl] at hcontrol
    cases hcontrol
  | cons entry rest ih =>
    obtain ⟨now, op⟩ := entry
    obtain ⟨hentry, hrest⟩ := List.forall_mem_cons.mp hrun
    by_cases hclose : c.Closes op l
    · cases op with
      | expire t =>
        obtain rfl : now = t.due := hentry.due t rfl
        exact ⟨[], t, rest, l, rfl, hclose, id_of_live? hl, hw⟩
      | flush id => exact absurd hentry.ofStep Bool.false_ne_true
      | _ => exact hclose.2.2.elim
    · obtain ⟨k, hk⟩ := exists_live?_perform hentry.ofStep hl now
      have hstep := kept_step h (logged_perform hreach.wellKept h.clockwork now
        (mayPerform_of_loads (loads_of_ofStep hentry.ofStep)))
      have hstill := mem_ledger_of_not_closes h.clockwork hentry.ofStep hl hclose
        (List.mem_append_left (c.accepted now id op).toList hw)
      obtain ⟨mid, t, rest, k, rfl, hclosing⟩ := ih (hreach.step now op) hstep hk hstill hrest hend
      exact ⟨(now, op) :: mid, t, rest, k, rfl, hclosing⟩

theorem exists_closing_of_accepted {v : Value} (hreach : Reachable c) (h : Kept c settings logs)
    (hl : c.live? id = some l) (hacc : c.accepted time id (.change control v .user) = some w)
    {later : Int} (hrun : ∀ entry ∈ run, Within later entry)
    (hend : ∀ k, (c.performAll ((time, .change control v .user) :: run)).live? id = some k →
      k.window = []) :
    ∃ mid t rest k, run = mid ++ (t.due, .expire t) :: rest ∧
      (c.performAll ((time, .change control v .user) :: mid)).Closes (.expire t) k ∧ k.id = id ∧
      w ∈ c.ledger id (logs id) ((time, .change control v .user) :: mid) := by
  have hop : Operation.ofStep (.change control v .user) = true := rfl
  have hno : ¬ c.Closes (.change control v .user) l := fun h => h.2.2
  obtain ⟨k, hk⟩ := exists_live?_perform hop hl time
  have hstep := kept_step h (logged_perform hreach.wellKept h.clockwork time
    (mayPerform_of_loads (loads_of_ofStep hop)))
  have hw : w ∈ logs id ++ (c.accepted time id (.change control v .user)).toList := by
    rw [hacc]
    exact List.mem_append_right _ (List.mem_singleton_self w)
  exact exists_closing (hreach.step time (.change control v .user)) hstep hk
    (mem_ledger_of_not_closes h.clockwork hop hl hno hw) hrun hend

structure Extends (c : Coordinator) (id : String) (d : Coordinator) : Prop where
  history : ∀ l, c.live? id = some l →
    ∃ k more, d.live? id = some k ∧ k.history = l.history.record more
  conflicts : ∀ j ∈ c.conflicts, j.group = id →
    ∃ j' ∈ d.conflicts, j'.group = id ∧ j'.values = j.values

theorem Extends.refl (c : Coordinator) (id : String) : Extends c id c :=
  ⟨fun l hl => ⟨l, [], hl, rfl⟩, fun j hj hgroup => ⟨j, hj, hgroup, rfl⟩⟩

theorem Extends.trans {e : Coordinator} (h : Extends c id d) (h' : Extends d id e) :
    Extends c id e := by
  refine ⟨fun l hl => ?_, fun j hj hgroup => ?_⟩
  · obtain ⟨k, more, hk, hhistory⟩ := h.history l hl
    obtain ⟨k', later, hk', hhistory'⟩ := h'.history k hk
    exact ⟨k', more ++ later, hk', by rw [hhistory', hhistory, History.record_append]⟩
  · obtain ⟨j', hj', hgroup', hvalues⟩ := h.conflicts j hj hgroup
    obtain ⟨i, hi, higroup, hivalues⟩ := h'.conflicts j' hj' hgroup'
    exact ⟨i, hi, higroup, hivalues.trans hvalues⟩

theorem enters_of_ofStep (hop : op.ofStep = true) : c.enters id op = false := by
  cases op with
  | createGroup g => cases hop
  | loadGroups stored => cases hop
  | _ => rfl

theorem extends_perform (hreach : Reachable c) (hop : op.ofStep = true) (hl : c.live? id = some l)
    (now : Int) : Extends c id (c.perform now op) := by
  obtain ⟨k, hk⟩ := exists_live?_perform hop hl now
  refine ⟨fun l hl => ?_, fun j hj hgroup => ?_⟩
  · obtain ⟨l', hl', hhistory⟩ := history_of_stays hreach.wellKept (enters_of_ofStep hop) hk
    obtain rfl := Option.some.inj (hl'.symm.trans hl)
    exact ⟨k, _, hk, hhistory⟩
  · cases turns_perform hreach.wellKept hreach.numbered hj now op with
    | kept hmem => exact ⟨j, hmem, hgroup, rfl⟩
    | settled j' hsettles hmem => exact ⟨j', hmem, hsettles.group_eq.trans hgroup, hsettles.values_eq⟩
    | gone hgone _ =>
      rw [hgroup, hk] at hgone
      cases hgone

theorem extends_performAll (hreach : Reachable c) (hl : c.live? id = some l)
    (hrun : ∀ entry ∈ run, entry.2.ofStep = true) : Extends c id (c.performAll run) := by
  induction run generalizing c l with
  | nil => exact .refl c id
  | cons entry rest ih =>
    obtain ⟨now, op⟩ := entry
    obtain ⟨hentry, hrest⟩ := List.forall_mem_cons.mp hrun
    obtain ⟨k, hk⟩ := exists_live?_perform hentry hl now
    exact (extends_perform hreach hentry hl now).trans (ih (hreach.step now op) hk hrest)

/-- What becomes of the writes in a window that closes, as it is on record in the end. If they compete, a
conflict lists them. Unless it waits for somebody to settle it, a value is sent to the other members, and
for each of them the history says whether the value got through. -/
structure Concludes (c : Coordinator) (now : Int) (op : Operation) (l : LiveGroup) (final : Coordinator) :
    Prop where
  disputed : l.group.mode ≠ .broadcast → Rivals l.window →
    ∃ k ∈ final.conflicts, k.group = l.id ∧ k.values = l.window
  sent : ¬ (l.group.mode ≠ .broadcast ∧ Rivals l.window ∧ l.group.policy = .manual) →
    ∃ k origin events later, final.live? l.id = some k ∧
      k.history = l.history.record (events ++ later) ∧ events ≠ [] ∧
      events.map (·.control) = l.group.members.filter (some · != origin) ∧
      ∀ e ∈ events, e.group = l.id ∧
        if e.propagated then (c.perform now op).store.valueOf e.control = e.after
        else (c.perform now op).store.get? e.control = c.store.get? e.control

theorem decision_eq_none_iff (hn : (l.window.map (·.control)).Nodup)
    (hlast : l.window.getLast? = some last) : c.decision l last = none ↔
      l.group.mode ≠ .broadcast ∧ Rivals l.window ∧ l.group.policy = .manual := by
  have hmem := List.mem_of_getLast? hlast
  rw [← compete_iff_rivals hn hmem, ← Mode.detectsConflicts_iff, decision]
  split
  next h =>
    rw [Bool.and_eq_true] at h
    rw [decide_eq_none (List.ne_nil_of_mem hmem)]
    simp [h]
  next h =>
    rw [Bool.and_eq_true] at h
    refine iff_of_false (Option.some_ne_none _) ?_
    rintro ⟨hmode, hcompete, -⟩
    exact h ⟨hcompete, hmode⟩

theorem Closes.exists_conflict (h : c.Closes op l) (hreach : Reachable c)
    (hlast : l.window.getLast? = some last) (hmode : l.group.mode ≠ .broadcast)
    (hrivals : Rivals l.window) (now : Int) :
    ∃ k ∈ (c.perform now op).conflicts, k.group = l.id ∧ k.values = l.window := by
  have hdetected : (compete l.window last && l.group.mode.detectsConflicts) = true := by
    rw [Bool.and_eq_true, compete_iff_rivals (hreach.window_nodup h.1) (List.mem_of_getLast? hlast)]
    exact ⟨hrivals, Mode.detectsConflicts_iff.mpr hmode⟩
  obtain ⟨id, hconflicts⟩ := h.conflicts hlast now
  have hlists : Lists (raised l last (c.decision l last) now id) l last :=
    lists_raised hlast hdetected id
  rw [newConflicts, if_pos hdetected] at hconflicts
  refine ⟨_, ?_, hlists.group, hlists.values⟩
  rw [hconflicts]
  exact List.mem_append_right _ (List.mem_singleton_self _)

theorem Closes.exists_events {origin : Option String} {v : Value} (h : c.Closes op l)
    (hreach : Reachable c) (hlast : l.window.getLast? = some last)
    (hdecision : c.decision l last = some (origin, v)) (now : Int) :
    ∃ k events, (c.perform now op).live? l.id = some k ∧ k.history = l.history.record events ∧
      events ≠ [] ∧ events.map (·.control) = l.group.members.filter (some · != origin) ∧
      ∀ e ∈ events, e.group = l.id ∧
        if e.propagated then (c.perform now op).store.valueOf e.control = e.after
        else (c.perform now op).store.get? e.control = c.store.get? e.control := by
  obtain ⟨k, hk, hlogs⟩ := h.logs now
  obtain ⟨hstore, -⟩ := h.sent hlast hdecision now
  have hparcel := h.parcel?
  rw [hlast, Option.bind_some, hdecision, Option.map_some] at hparcel
  have hrecorded := recorded_of_parcel h.1 hparcel
  have haccounts := accounts_propagate l.group c.rules ⟨origin, last.control, v⟩ c.store
  rw [← hrecorded] at haccounts
  refine ⟨k, _, hk, hlogs.history, recorded_ne_nil hreach.wellKept h.1 hparcel, haccounts.controls,
    fun e he => ⟨(haccounts.named e he).1, ?_⟩⟩
  rw [hstore]
  split
  next hyes => exact haccounts.taken e he hyes
  next hno => exact haccounts.refused e he (Bool.eq_false_iff.mpr hno)

theorem Closes.concludes (h : c.Closes op l) (hreach : Reachable c)
    (hlast : l.window.getLast? = some last) (now : Int)
    (hrun : ∀ entry ∈ run, entry.2.ofStep = true) :
    Concludes c now op l ((c.perform now op).performAll run) := by
  obtain ⟨k, hk, -⟩ := h.logs now
  have hrecord := extends_performAll (hreach.step now op) hk hrun
  refine ⟨fun hmode hrivals => ?_, fun hsent => ?_⟩
  · obtain ⟨j, hj, hgroup, hvalues⟩ := h.exists_conflict hreach hlast hmode hrivals now
    obtain ⟨j', hj', hgroup', hvalues'⟩ := hrecord.conflicts j hj hgroup
    exact ⟨j', hj', hgroup', hvalues'.trans hvalues⟩
  · rw [← decision_eq_none_iff (c := c) (hreach.window_nodup h.1) hlast] at hsent
    obtain ⟨⟨origin, v⟩, hdecision⟩ := Option.ne_none_iff_exists'.mp hsent
    obtain ⟨k, events, hk, hhistory, hevents⟩ := h.exists_events hreach hlast hdecision now
    obtain ⟨k', later, hk', hhistory'⟩ := hrecord.history k hk
    refine ⟨k', origin, events, later, hk', ?_, hevents⟩
    rw [hhistory', hhistory, History.record_append]

end Coordinator

namespace Script

open Coordinator

variable {script : Script} {settings : SyncSettings} {store : Store} {now : Int} {s : Session}
  {id : String} {l : LiveGroup} {w : Competing} {done rest : List (Int × Operation)}

theorem punctual_runUntil (script : Script) (settings : SyncSettings) (store : Store) (now : Int)
    (steps : List ScriptStep) :
    Punctual ((start settings store 0).performAll (script.runUntil settings store now steps))
      (now + ScriptStep.pauses steps) :=
  ((punctual_start settings store 0 now).mono (by omega)).performAll (.start settings store 0)
    fun _ hentry => of_mem_runUntil hentry

theorem timers_run (script : Script) (settings : SyncSettings) (store : Store) (now : Int) :
    ((start settings store 0).performAll (script.run settings store now)).timers = [] := by
  have hstart := Reachable.start settings store 0
  rw [run, performAll_append]
  refine (script.punctual_runUntil settings store now script.steps).timers_eq_nil ?_
  rw [settings_performAll hstart]
  simp only [start]
  omega

theorem kept_run (hrun : script.run settings store now = done ++ rest) :
    Kept ((start settings store 0).performAll done) settings fun id =>
      (start settings store 0).ledger id [] done :=
  kept_of_loads (fun _ hentry => loads_of_mem_run (hrun ▸ List.mem_append_left _ hentry)) settings store 0

theorem at_rest_run (hl : ((start settings store 0).performAll (script.run settings store now)).live?
    id = some l) : l.window = [] ∧ l.phase = .idle :=
  (kept_run (List.append_nil _).symm).clockwork.at_rest (script.timers_run settings store now) hl

theorem exists_closing_of_change {control : String} {v : Value} {time later : Int}
    (hrun : script.run settings store now = done ++ (time, .change control v .user) :: rest)
    (hrest : ∀ entry ∈ rest, Within later entry)
    (hl : ((start settings store 0).performAll done).live? id = some l)
    (hacc : ((start settings store 0).performAll done).accepted time id (.change control v .user) =
      some w) :
    ∃ mid t more k, rest = mid ++ (t.due, .expire t) :: more ∧
      let closed := done ++ (time, .change control v .user) :: mid
      Closes ((start settings store 0).performAll closed) (.expire t) k ∧ k.id = id ∧
        w ∈ (start settings store 0).ledger id [] closed := by
  have hreach := (Reachable.start settings store 0).performAll done
  simp only [performAll_append, ledger_append]
  refine exists_closing_of_accepted hreach (kept_run hrun) hl hacc hrest fun k hk => ?_
  rw [← performAll_append, ← hrun] at hk
  exact (at_rest_run hk).1

theorem concludes_run {t : Timer}
    (hrun : script.run settings store now = done ++ (t.due, .expire t) :: rest)
    (hrest : ∀ entry ∈ rest, entry.2.ofStep = true)
    (hcloses : Closes ((start settings store 0).performAll done) (.expire t) l)
    (hw : w ∈ (start settings store 0).ledger l.id [] done) :
    Concludes ((start settings store 0).performAll done) t.due (.expire t) l
      ((start settings store 0).performAll (script.run settings store now)) := by
  have hreach := (Reachable.start settings store 0).performAll done
  obtain ⟨last, hlast⟩ : ∃ last, l.window.getLast? = some last := by
    rw [(kept_run hrun).windows l.id l hcloses.1, getLast?_lastWrites]
    exact ⟨_, List.getLast?_eq_some_getLast (List.ne_nil_of_mem hw)⟩
  have hend : (start settings store 0).performAll (script.run settings store now) =
      ((start settings store 0).performAll done).performAll ((t.due, .expire t) :: rest) := by
    rw [hrun, performAll_append]
  rw [hend]
  exact hcloses.concludes hreach hlast t.due hrest

theorem replay_settles (h : script.replay settings now = .ok s) :
    (∀ g ∈ s.coordinator.sortedGroups,
      ∃ status, s.coordinator.status g.id = .ok status ∧ status.phase = .idle) ∧
    (∀ l ∈ s.coordinator.groups, l.window = []) ∧
    ∃ store, Store.ofDeclarations script.controls = .ok store ∧
      s.coordinator = (start settings store 0).performAll (script.run settings store now) ∧
      ∀ front pause control value back,
        script.steps = front ++ ⟨pause, .change control value .user⟩ :: back →
        let before := script.runBefore settings store now front pause
        let reached := (start settings store 0).performAll before
        let time := now + ScriptStep.pauses front + pause
        ∃ kind after, script.kinds.lookup control = some kind ∧
          let change : Operation := .change control (Value.ofLoose value kind) .user
          script.run settings store now = before ++ (time, change) :: after ∧
          ∀ l, reached.liveOf? control = some l → l.group.enabled = true →
            ∃ held mid t rest k, reached.store.kept control (Value.ofLoose value kind) = .ok held ∧
              after = mid ++ (t.due, .expire t) :: rest ∧
              let done := before ++ (time, change) :: mid
              let ledger := (start settings store 0).ledger l.id [] done
              let c := (start settings store 0).performAll done
              c.Closes (.expire t) k ∧ k.id = l.id ∧ k.window = lastWrites ledger ∧
                ⟨control, held, time, .user⟩ ∈ ledger ∧
                Concludes c t.due (.expire t) k s.coordinator := by
  obtain ⟨store, hstore, hcoordinator⟩ := coordinator_replay h
  have hstart := Reachable.start settings store 0
  have hreach : s.coordinator.Reachable := hcoordinator ▸ hstart.performAll _
  have hrest : ∀ l ∈ s.coordinator.groups, l.window = [] ∧ l.phase = .idle := fun l hl =>
    at_rest_run (hcoordinator ▸ live?_of_wellKept hreach.wellKept hl)
  refine ⟨fun g hg => ?_, fun l hl => (hrest l hl).1, store, hstore, hcoordinator, ?_⟩
  · obtain ⟨l, hl, rfl⟩ := List.mem_map.mp (List.mem_mergeSort.mp hg)
    have hneed : s.coordinator.need l.group.id = .ok l :=
      need_of_live? (live?_of_wellKept hreach.wellKept hl)
    have hstatus : s.coordinator.status l.group.id = .ok ⟨l.group.id, l.group.enabled, l.phase,
        s.coordinator.pendingConflicts l.group.id, l.group.lastSync, l.history.events.length⟩ := by
      rw [status, hneed]
      rfl
    exact ⟨_, hstatus, (hrest l hl).2⟩
  · intro front pause control value back hsteps before reached time
    obtain ⟨kind, hkind, hasked, r, htaken⟩ := change_of_replay h hstore hsteps
    obtain ⟨after, later, hrun, hafter⟩ := run_eq_runBefore hsteps hasked
    refine ⟨kind, after, hkind, hrun, fun l hl he => ?_⟩
    obtain ⟨held, hkept, hacc⟩ := accepted_of_handleChange htaken hl he
    have hlive := live?_of_wellKept (hstart.performAll before).wellKept (mem_of_liveOf? hl)
    obtain ⟨mid, t, rest, k, rfl, hcloses, hid, hw⟩ := exists_closing_of_change hrun hafter hlive hacc
    have hsplit : script.run settings store now =
        (before ++ (time, .change control (Value.ofLoose value kind) .user) :: mid) ++
          (t.due, .expire t) :: rest := by
      rw [hrun, List.append_assoc, List.cons_append]
    have hsteps : ∀ entry ∈ rest, entry.2.ofStep = true := fun entry hentry =>
      (hafter entry (List.mem_append_right _ (List.mem_cons_of_mem _ hentry))).ofStep
    have hwindow := (kept_run hsplit).windows k.id k hcloses.1
    have hconcludes := concludes_run hsplit hsteps hcloses (hid ▸ hw)
    rw [← hcoordinator] at hconcludes
    exact ⟨held, mid, t, rest, k, hkept, rfl, hcloses, hid, hid ▸ hwindow, hw, hconcludes⟩

def labels : Group :=
  ⟨"labels", "labels", ["label", "labelCopy"], .bidirectional, none, .manual, true, none⟩

def twoGroups : Script where
  controls := [⟨"label", .text, .text "a"⟩, ⟨"labelCopy", .text, .null⟩, ⟨"note", .text, .null⟩,
    ⟨"noteCopy", .text, .null⟩]
  groups := [labels,
    ⟨"notes", "notes", ["note", "noteCopy"], .bidirectional, none, .latestWins, true, none⟩]
  rules := []
  combinators := []
  steps := [⟨0, .change "label" (.text "x") .user⟩, ⟨50, .change "labelCopy" (.text "y") .user⟩,
    ⟨500, .change "note" (.text "n") .user⟩, ⟨100, .resolve "labels" (.text "z")⟩]

def twoGroupsStore : Store :=
  ⟨[⟨"label", .text, .text "a"⟩, ⟨"labelCopy", .text, .null⟩, ⟨"note", .text, .null⟩,
    ⟨"noteCopy", .text, .null⟩], 4, []⟩

def openLabels : LiveGroup :=
  ⟨labels, .empty 100, .pendingPropagation, [⟨"label", .text "x", 0, .user⟩], some 0, 1⟩

theorem replay_settles_twoGroups :
    ∃ s run t k, twoGroups.replay .default 0 = .ok s ∧ (∀ l ∈ s.coordinator.groups, l.window = []) ∧
      k.id = "labels" ∧ k.window = lastWrites ((start .default twoGroupsStore 0).ledger "labels" [] run) ∧
      ⟨"labelCopy", .text "y", 50, .user⟩ ∈ (start .default twoGroupsStore 0).ledger "labels" [] run ∧
      Concludes ((start .default twoGroupsStore 0).performAll run) t.due (.expire t) k s.coordinator := by
  have hok : (twoGroups.replay .default 0).isOk = true := by decide +kernel
  cases h : twoGroups.replay .default 0 with
  | error e =>
    rw [h] at hok
    cases hok
  | ok s =>
    obtain ⟨-, hwindows, store, hstore, -, hchanges⟩ := replay_settles h
    have hdeclared : Store.ofDeclarations twoGroups.controls = .ok twoGroupsStore := by decide +kernel
    obtain rfl : twoGroupsStore = store := Except.ok.inj (hdeclared.symm.trans hstore)
    obtain ⟨kind, after, hkind, -, hsettles⟩ := hchanges [⟨0, .change "label" (.text "x") .user⟩] 50
      "labelCopy" (.text "y") _ rfl
    obtain rfl : Kind.text = kind := Option.some.inj hkind
    obtain ⟨held, mid, t, rest, k, hkept, -, -, hid, hwindow, hw, hconcludes⟩ :=
      hsettles openLabels (by decide +kernel) rfl
    have hheld : ((start .default twoGroupsStore 0).performAll (twoGroups.runBefore .default
        twoGroupsStore 0 [⟨0, .change "label" (.text "x") .user⟩] 50)).store.kept "labelCopy"
          (Value.ofLoose (.text "y") .text) = .ok (.text "y") := by decide +kernel
    obtain rfl : Value.text "y" = held := Except.ok.inj (hheld.symm.trans hkept)
    exact ⟨s, _, t, k, rfl, hwindows, hid, hwindow, hw, hconcludes⟩

end Script

end LinkedControls
