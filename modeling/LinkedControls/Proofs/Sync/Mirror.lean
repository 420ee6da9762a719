import LinkedControls.Proofs.Sync.Calls
import LinkedControls.Sync.Session

/-!
The repository beside a coordinator. While it works, it holds the definitions that the coordinator
holds, whatever operations follow one another.
-/

namespace LinkedControls

open Coordinator

def Repository.definition? (r : Repository) (id : String) : Option Group :=
  (r.get? id).map Group.undated

namespace Session

variable {s : Session} {op : Operation}

/-- The session after an operation. Groups are loaded from its repository, whatever list the operation
brings along. -/
def perform (s : Session) : Operation → Session
  | .createGroup g => (s.run (·.createGroup g)).2
  | .updateGroup g => (s.run (·.updateGroup g)).2
  | .deleteGroup id => (s.run (·.deleteGroup id)).2
  | .addMember id control => (s.run (·.addMember id control)).2
  | .removeMember id control => (s.run (·.removeMember id control)).2
  | .setEnabled id enabled => (s.run (·.setEnabled id enabled)).2
  | .loadGroups _ => s.loadGroups.2
  | .addRule r => (s.act (·.addRule r)).2
  | .removeRule id => (s.act (·.removeRule id)).2
  | .setCombinator id f => (s.act fun c => (c.setCombinator id f).map ((), ·)).2
  | .change control v origin => (s.act (·.handleChange control v origin s.now)).2
  | .flush id => (s.run (·.flush id s.now)).2
  | .resolve id v resolver => (s.act (·.resolveConflict id v resolver s.now)).2
  | .ignore id => (s.act (·.ignoreConflict id s.now)).2
  | .shutdown => { s with coordinator := s.coordinator.shutdown }
  | .expire t => if t ∈ s.coordinator.timers then s.fire t else s
  | .act a => (s.change fun store => (store.apply a).map (·.1)).2

inductive Reachable : Session → Prop
  | start (settings : SyncSettings) (store : Store) (now : Int) : Reachable (.start settings store now)
  | perform {s : Session} (op : Operation) : Reachable s → Reachable (s.perform op)
  | wait {s : Session} (ms : Nat) : Reachable s → Reachable (s.wait ms)

def written (r : Repository) (w : Writes) : Repository :=
  saveAll (w.deletes.foldl (fun r id => (r.delete id).2) r) w.saves

theorem written_eq_callAll (r : Repository) (w : Writes) : written r w = r.callAll w.calls := by
  rw [Repository.callAll, Writes.calls, List.foldl_append, List.foldl_map, List.foldl_map]
  rfl

theorem sound_written {r : Repository} (h : r.Sound) (w : Writes) : (written r w).Sound := by
  rw [written_eq_callAll]
  exact h.callAll w.calls

theorem get?_written {r : Repository} (h : r.Sound) (w : Writes) (id : String) :
    (written r w).get? id = w.onto r.get? id := by
  rw [written_eq_callAll, Repository.get?_callAll h, onto_eq]

theorem definition?_written {r : Repository} (h : r.Sound) (w : Writes) (id : String) :
    (written r w).definition? id = w.upon r.definition? id := by
  rw [Repository.definition?, get?_written h, Writes.undated_onto]
  rfl

theorem commit_of_working (h : s.service = .working) (w : Writes) :
    s.commit w = (.ok (), { s with repository := written s.repository w }) := by
  obtain ⟨deletes, saves⟩ := w
  cases deletes with
  | nil =>
    cases saves with
    | nil => rfl
    | cons g rest => simp only [commit, h, written]
  | cons id rest => simp only [commit, h, written]

/-- The time at which an operation is carried out: a timer acts when it is due. -/
def clock (s : Session) : Operation → Int
  | .expire t => t.due
  | _ => s.now

def conclude (s : Session) : Except SyncError (Outcome Unit) → Session
  | .ok o => { s with coordinator := o.next, repository := written s.repository o.writes }
  | .error _ => s

theorem run_eq_conclude {α : Type} (hs : s.service = .working)
    (f : Coordinator → Except SyncError (Outcome α)) :
    (s.run f).2 = s.conclude ((f s.coordinator).map Outcome.silent) := by
  unfold Session.run
  cases ho : f s.coordinator with
  | error e => rfl
  | ok o =>
    simp only [Except.map, conclude, Outcome.silent]
    rw [commit_of_working (s := { s with coordinator := o.next }) hs]

theorem act_eq_conclude {ε α : Type} (s : Session) (f : Coordinator → Except ε (α × Coordinator)) :
    (s.act f).2 = s.conclude (.ok ⟨(), s.coordinator.after (·.2) (f s.coordinator), .none⟩) := by
  unfold Session.act
  cases f s.coordinator with
  | error e => rfl
  | ok a => rfl

theorem fire_eq_conclude (hs : s.service = .working) (t : Timer) : s.fire t =
    s.conclude (.ok ⟨(), (s.coordinator.fire t t.due).1, (s.coordinator.fire t t.due).2⟩) := by
  unfold Session.fire
  dsimp only
  rw [commit_of_working (s := { s with coordinator := (s.coordinator.fire t t.due).1 }) hs]
  rfl

theorem map_silent_unit (r : Except SyncError (Outcome Unit)) : r.map Outcome.silent = r := by
  cases r with
  | error e => rfl
  | ok o => rfl

theorem perform_eq_conclude (hs : s.service = .working) (hop : op.loads = false) :
    s.perform op = s.conclude (s.coordinator.issue (s.clock op) op) := by
  cases op with
  | createGroup g => exact run_eq_conclude hs (·.createGroup g)
  | updateGroup g => exact run_eq_conclude hs (·.updateGroup g)
  | deleteGroup id => exact (run_eq_conclude hs _).trans (congrArg s.conclude (map_silent_unit _))
  | addMember id control => exact run_eq_conclude hs (·.addMember id control)
  | removeMember id control => exact run_eq_conclude hs (·.removeMember id control)
  | setEnabled id enabled => exact run_eq_conclude hs (·.setEnabled id enabled)
  | loadGroups stored => cases hop
  | addRule r => exact act_eq_conclude s (·.addRule r)
  | removeRule id => exact act_eq_conclude s (·.removeRule id)
  | setCombinator id f =>
    refine (act_eq_conclude s _).trans ?_
    simp only [issue, Coordinator.perform]
    cases s.coordinator.setCombinator id f with
    | error e => rfl
    | ok d => rfl
  | change control v origin => exact act_eq_conclude s (·.handleChange control v origin s.now)
  | flush id => exact (run_eq_conclude hs _).trans (congrArg s.conclude (map_silent_unit _))
  | resolve id v resolver => exact act_eq_conclude s (·.resolveConflict id v resolver s.now)
  | ignore id => exact act_eq_conclude s (·.ignoreConflict id s.now)
  | shutdown => rfl
  | expire t =>
    simp only [Session.perform, issue, clock]
    split
    · exact fire_eq_conclude hs t
    · rfl
  | act a =>
    simp only [Session.perform, Session.change, issue, Coordinator.perform, Session.store]
    cases s.coordinator.store.apply a with
    | error e => rfl
    | ok r => rfl

structure Mirrored (s : Session) : Prop where
  working : s.service = .working
  wellKept : WellKept s.coordinator.roster
  sound : s.repository.Sound
  same : ∀ id, s.repository.definition? id = s.coordinator.definition? id

namespace Mirrored

theorem start (settings : SyncSettings) (store : Store) (now : Int) :
    Mirrored (.start settings store now) :=
  ⟨rfl, .nil, Repository.sound_empty, fun _ => rfl⟩

theorem conclude (h : s.Mirrored) {o : Outcome Unit} (hwk : WellKept o.next.roster)
    (hrecords : Records s.coordinator o.writes o.next) : Mirrored (s.conclude (.ok o)) := by
  refine ⟨h.working, hwk, sound_written h.sound o.writes, fun id => ?_⟩
  calc (written s.repository o.writes).definition? id
      = o.writes.upon s.repository.definition? id := definition?_written h.sound o.writes id
    _ = o.writes.upon s.coordinator.definition? id := by rw [funext h.same]
    _ = o.next.definition? id := (hrecords id).symm

theorem fire (h : s.Mirrored) (t : Timer) : Mirrored (s.fire t) := by
  rw [fire_eq_conclude h.working]
  refine h.conclude ?_ (leaves_fire s.coordinator t t.due).records
  rw [roster_fire]
  exact h.wellKept

theorem wait (h : s.Mirrored) (ms : Nat) : Mirrored (s.wait ms) := by
  have hfired : Mirrored ((dueTimers s.coordinator (s.now + ms)).foldl Session.fire s) :=
    List.foldlRecOn _ _ h fun _ hs t _ => hs.fire t
  exact ⟨hfired.working, hfired.wellKept, hfired.sound, hfired.same⟩

theorem loadGroups_eq (h : s.Mirrored) :
    s.coordinator.loadGroups s.repository.groups = (0, s.coordinator) := by
  refine loadGroups_of_owned fun g hg hvalid => ?_
  have hheld : s.coordinator.definition? g.id = some g.undated := by
    rw [← h.same, Repository.definition?, Repository.get?, StoredGroups.find?, find?_key h.sound hg]
    rfl
  rw [definition?_eq] at hheld
  obtain ⟨l, hl, hsame⟩ := Option.map_eq_some_iff.mp hheld
  obtain ⟨m, hm⟩ := List.exists_mem_of_length_pos (Nat.zero_lt_two.trans_le (Group.two_le_of_isValid hvalid))
  have hml : m ∈ l.group.undated.members := by
    rw [hsame]
    exact hm
  exact ⟨m, hm, owns_of_mem (mem_of_live? hl) hml⟩

theorem loadGroups (h : s.Mirrored) : Mirrored s.loadGroups.2 := by
  unfold Session.loadGroups
  split
  · exact h
  · rw [h.loadGroups_eq]
    exact h

theorem perform (h : s.Mirrored) (op : Operation) : Mirrored (s.perform op) := by
  cases hloads : op.loads with
  | true =>
    cases op with
    | loadGroups stored => exact h.loadGroups
    | _ => cases hloads
  | false =>
    rw [perform_eq_conclude h.working hloads]
    cases ho : s.coordinator.issue (s.clock op) op with
    | error e => exact h
    | ok o =>
      refine h.conclude ?_ (records_issue h.wellKept hloads ho)
      exact perform_of_issue ho ▸ wellKept_perform h.wellKept _ op

end Mirrored

theorem Reachable.mirrored (h : s.Reachable) : s.Mirrored := by
  induction h with
  | start settings store now => exact .start settings store now
  | perform op _ ih => exact ih.perform op
  | wait ms _ ih => exact ih.wait ms

theorem Reachable.performAll (h : s.Reachable) (ops : List Operation) :
    Reachable (ops.foldl Session.perform s) :=
  List.foldlRecOn ops _ h fun _ hs op _ => hs.perform op

theorem repository_mirrors_coordinator (h : s.Reachable) :
    (s.repository.groups.map (·.undated)).Perm (s.coordinator.groups.map (·.group.undated)) ∧
      (s.repository.groups.map (·.id)).Nodup ∧
      ∀ id, (s.repository.get? id).map (·.undated) = (s.coordinator.group? id).map (·.undated) := by
  have hm := h.mirrored
  have hids : ((s.repository.groups.map (·.undated)).map (·.id)).Nodup := by
    rw [List.map_map]
    exact hm.sound
  have hids' : (s.coordinator.definitions.map (·.id)).Nodup := by
    rw [definitions, List.map_map]
    exact ids_nodup hm.wellKept
  have hsame (id : String) : (s.repository.groups.map (·.undated)).find? (·.id == id) =
      s.coordinator.definitions.find? (·.id == id) := by
    rw [List.find?_map]
    exact hm.same id
  refine ⟨perm_of_find?_key hids hids' hsame, hm.sound, fun id => ?_⟩
  rw [group?, Option.map_map]
  exact (hm.same id).trans (definition?_eq _ id)

/-- One group loses two members at a time: it lives on after the first two, and the next two leave it
with one. Another is dissolved in between. -/
def moves : List Operation := [
  .createGroup ⟨"g", "g", ["a", "b", "c", "d", "e"], .bidirectional, none, .latestWins, true, none⟩,
  .createGroup ⟨"k", "k", ["p", "q"], .masterSlave, some "p", .latestWins, true, none⟩,
  .createGroup ⟨"h", "h", ["x", "a", "b"], .broadcast, none, .merge, true, none⟩,
  .addMember "h" "q",
  .setEnabled "h" false,
  .updateGroup ⟨"h", "i", ["x", "c", "d"], .bidirectional, none, .manual, true, some 7⟩]

theorem repository_mirrors_coordinator_moves :
    Reachable ((moves.take 4).foldl perform (.start .default .empty 0)) ∧
      (((moves.take 4).foldl perform (.start .default .empty 0)).repository.groups.map
        (·.undated)).Perm [
          ⟨"g", "g", ["c", "d", "e"], .bidirectional, none, .latestWins, true, none⟩,
          ⟨"h", "h", ["x", "a", "b", "q"], .broadcast, none, .merge, true, none⟩] ∧
      Reachable (moves.foldl perform (.start .default .empty 0)) ∧
      ((moves.foldl perform (.start .default .empty 0)).repository.groups.map (·.undated)).Perm
        [⟨"h", "i", ["x", "c", "d"], .bidirectional, none, .manual, true, none⟩] := by
  have hstart := Reachable.start .default .empty 0
  have h := hstart.performAll (moves.take 4)
  have h' := hstart.performAll moves
  refine ⟨h, (repository_mirrors_coordinator h).1.trans (.of_eq ?_), h',
    (repository_mirrors_coordinator h').1.trans (.of_eq ?_)⟩
  · decide
  · decide

end Session

end LinkedControls
