import LinkedControls.Proofs.Sync.Mirror

/-!
Operations whose calls to the repository are made later, with other operations and their calls in
between. In the end the repository holds what the last calls made have left, and the coordinator what the
last calls issued would have left.
-/

namespace LinkedControls

structure Traffic where
  coordinator : Coordinator
  repository : Repository
  /-- The calls that each operation has not made yet. -/
  outstanding : List (List RepositoryCall)
  /-- All calls of all operations, in the order of the operations. -/
  issued : List RepositoryCall
  /-- The calls that have been made, in the order in which they were made. -/
  made : List RepositoryCall
deriving DecidableEq

namespace Traffic

open Coordinator

inductive Step
  | perform (now : Int) (op : Operation)
  /-- An operation makes its next call. -/
  | call (place : Nat)
deriving DecidableEq

def start (c : Coordinator) (r : Repository) : Traffic := ⟨c, r, [], [], []⟩

def step (t : Traffic) : Step → Traffic
  | .perform now op =>
      match t.coordinator.issue now op with
      | .error _ => t
      | .ok o =>
          { t with
            coordinator := o.next
            outstanding := t.outstanding ++ [o.writes.calls]
            issued := t.issued ++ o.writes.calls }
  | .call place =>
      match t.outstanding[place]? with
      | some (k :: rest) =>
          { t with
            repository := t.repository.call k
            outstanding := t.outstanding.set place rest
            made := t.made ++ [k] }
      | _ => t

def steps (t : Traffic) (run : List Step) : Traffic := run.foldl step t

def Step.loads : Step → Bool
  | .perform _ op => op.loads
  | .call _ => false

def Settled (t : Traffic) : Prop := ∀ calls ∈ t.outstanding, calls = []

def Mirrors (t : Traffic) : Prop :=
  (t.repository.groups.map (·.undated)).Perm (t.coordinator.groups.map (·.group.undated))

variable {t : Traffic} {c : Coordinator} {r : Repository} {run : List Step}

theorem flatten_perm_set {α : Type} {tasks : List (List α)} {place : Nat} {k : α} {rest : List α}
    (h : tasks[place]? = some (k :: rest)) :
    tasks.flatten.Perm (k :: (tasks.set place rest).flatten) := by
  induction tasks generalizing place with
  | nil => cases h
  | cons task tasks ih =>
    cases place with
    | zero =>
      obtain rfl := Option.some.inj h
      exact .refl _
    | succ place =>
      have hrest := (ih h).append_left task
      exact hrest.trans List.perm_middle

structure Tracked (c : Coordinator) (r : Repository) (t : Traffic) : Prop where
  reachable : Reachable t.coordinator
  definitions : ∀ id, t.coordinator.definition? id =
    ((left? t.issued id).map (·.map Group.undated)).getD (c.definition? id)
  repository : t.repository = r.callAll t.made
  calls : (t.made ++ t.outstanding.flatten).Perm t.issued

theorem tracked_start (hc : Reachable c) (r : Repository) : Tracked c r (start c r) :=
  ⟨hc, fun _ => rfl, rfl, .refl _⟩

theorem Tracked.perform (h : Tracked c r t) (now : Int) {op : Operation} (hop : op.loads = false) :
    Tracked c r (t.step (.perform now op)) := by
  simp only [step]
  cases ho : t.coordinator.issue now op with
  | error e => exact h
  | ok o =>
    have hrecords := records_issue h.reachable.wellKept hop ho
    have hnext : Reachable o.next := perform_of_issue ho ▸ h.reachable.step now op
    refine ⟨hnext, fun id => ?_, h.repository, ?_⟩
    · rw [hrecords id, upon_eq, h.definitions, left?_append]
      cases left? o.writes.calls id with
      | some k => rfl
      | none => rfl
    · simp only [List.flatten_append, List.flatten_singleton, ← List.append_assoc]
      exact h.calls.append_right _

theorem Tracked.call (h : Tracked c r t) (place : Nat) : Tracked c r (t.step (.call place)) := by
  simp only [step]
  split
  · next k rest hplace =>
    refine ⟨h.reachable, h.definitions, ?_, ?_⟩
    · rw [h.repository, Repository.callAll, Repository.callAll, List.foldl_concat]
    · have hmoved := (flatten_perm_set hplace).append_left t.made
      rw [List.append_assoc, List.singleton_append]
      exact hmoved.symm.trans h.calls
  · exact h

theorem Tracked.steps (h : Tracked c r t) (hrun : ∀ s ∈ run, s.loads = false) :
    Tracked c r (t.steps run) := by
  induction run generalizing t with
  | nil => exact h
  | cons s rest ih =>
    have hs := hrun s List.mem_cons_self
    have hrest : ∀ s ∈ rest, s.loads = false := fun s hm => hrun s (List.mem_cons_of_mem _ hm)
    cases s with
    | perform now op => exact ih (h.perform now hs) hrest
    | call place => exact ih (h.call place) hrest

theorem Tracked.made_perm (h : Tracked c r t) (hdone : t.Settled) : t.made.Perm t.issued := by
  have hnone : t.outstanding.flatten = [] := List.flatten_eq_nil_iff.mpr hdone
  have hcalls := h.calls
  rwa [hnone, List.append_nil] at hcalls

theorem Tracked.mirrors_iff (h : Tracked c r t) (hr : r.Sound) :
    t.Mirrors ↔ ∀ id, t.repository.definition? id = t.coordinator.definition? id := by
  have hsound : t.repository.Sound := h.repository ▸ hr.callAll t.made
  have hids : ((t.repository.groups.map (·.undated)).map (·.id)).Nodup := by
    rw [List.map_map]
    exact hsound
  have hids' : (t.coordinator.definitions.map (·.id)).Nodup := by
    rw [Coordinator.definitions, List.map_map]
    exact ids_nodup h.reachable.wellKept
  have hfind (id : String) :
      (t.repository.groups.map (·.undated)).find? (·.id == id) = t.repository.definition? id := by
    rw [List.find?_map]
    rfl
  constructor
  · intro hm id
    rw [← hfind]
    exact find?_key_perm hids hm
  · intro hsame
    refine perm_of_find?_key hids hids' fun id => ?_
    rw [hfind, hsame]
    rfl

theorem mirrors_iff_last_calls (hc : Reachable c) (hr : r.Sound)
    (hsame : ∀ id, r.definition? id = c.definition? id) (hrun : ∀ s ∈ run, s.loads = false)
    (ht : (start c r).steps run = t) (hdone : t.Settled) :
    t.made.Perm t.issued ∧
      (∀ id, t.repository.get? id = (left? t.made id).getD (r.get? id)) ∧
      (t.Mirrors ↔ ∀ id, (left? t.made id).map (·.map Group.undated) =
        (left? t.issued id).map (·.map Group.undated)) ∧
      ((∀ id, t.made.filter (·.id == id) = t.issued.filter (·.id == id)) →
        t.Mirrors ∧ ∀ id, t.repository.get? id = (left? t.issued id).getD (r.get? id)) := by
  have h : Tracked c r t := ht ▸ (tracked_start hc r).steps hrun
  have hperm := h.made_perm hdone
  have hget (id : String) : t.repository.get? id = (left? t.made id).getD (r.get? id) := by
    rw [h.repository, Repository.get?_callAll hr]
  have hiff : t.Mirrors ↔ ∀ id, (left? t.made id).map (·.map Group.undated) =
      (left? t.issued id).map (·.map Group.undated) := by
    rw [h.mirrors_iff hr]
    refine forall_congr' fun id => ?_
    have hnone : left? t.made id = none ↔ left? t.issued id = none := by
      rw [left?_eq_none, left?_eq_none]
      exact forall_congr' fun k => imp_congr_left hperm.mem_iff
    rw [Repository.definition?, hget, h.definitions, ← hsame, Repository.definition?]
    cases hmade : left? t.made id with
    | none => rw [hnone.mp hmade]; simp
    | some g =>
      cases hissued : left? t.issued id with
      | none => rw [hnone.mpr hissued] at hmade; cases hmade
      | some g' => simp
  refine ⟨hperm, hget, hiff, fun horder => ⟨hiff.mpr fun id => ?_, fun id => ?_⟩⟩
  · rw [left?_congr_filter (horder id)]
  · rw [hget, left?_congr_filter (horder id)]

def linkedPair : Group := ⟨"g", "g", ["a", "b"], .bidirectional, none, .latestWins, true, none⟩

def otherPair : Group := ⟨"h", "h", ["c", "d"], .broadcast, none, .latestWins, true, none⟩

def sentPair : Group := { linkedPair with lastSync := some 301 }

def pausedPair : Group := { sentPair with enabled := false }

def twoInputs : Coordinator :=
  (Coordinator.start .default .empty 0).performAll [
    (0, .act (.register "a" .text (.text ""))), (0, .act (.register "b" .text (.text "")))]

def saving : List Step := [
  .perform 0 (.createGroup linkedPair),
  .call 0,
  .perform 1 (.change "a" (.text "x") .user),
  .perform 301 (.expire ⟨0, "g", 1, 301⟩)]

def overtakenSave : List Step := saving ++ [
  .perform 302 (.createGroup otherPair),
  .call 3,
  .perform 303 (.setEnabled "g" false),
  .call 2,
  .call 4]

theorem mirrors_iff_last_calls_overtakenSave :
    Reachable twoInputs ∧ ((start twoInputs .empty).steps overtakenSave).Settled ∧
      ((start twoInputs .empty).steps overtakenSave).made ≠
        ((start twoInputs .empty).steps overtakenSave).issued ∧
      ((start twoInputs .empty).steps overtakenSave).repository.get? "g" =
        some pausedPair ∧
      ((start twoInputs .empty).steps overtakenSave).Mirrors := by
  have hreach : Reachable twoInputs := (Reachable.start _ _ _).performAll _
  have hdone : ((start twoInputs .empty).steps overtakenSave).Settled := by
    unfold Settled
    decide
  have horder : ∀ id,
      ((start twoInputs .empty).steps overtakenSave).made.filter (·.id == id) =
        ((start twoInputs .empty).steps overtakenSave).issued.filter (·.id == id) := by
    intro id
    have hmade : ((start twoInputs .empty).steps overtakenSave).made =
        [.save linkedPair, .save otherPair, .save sentPair, .save pausedPair] := by decide
    have hissued : ((start twoInputs .empty).steps overtakenSave).issued =
        [.save linkedPair, .save sentPair, .save otherPair, .save pausedPair] := by decide
    rw [hmade, hissued]
    by_cases hid : "g" = id
    · subst hid
      decide
    · simp [List.filter_cons, RepositoryCall.id, linkedPair, sentPair, pausedPair, hid]
  obtain ⟨-, -, -, hordered⟩ := mirrors_iff_last_calls hreach Repository.sound_empty (fun _ => rfl)
    (by decide) rfl hdone
  obtain ⟨hmirrors, hget⟩ := hordered horder
  exact ⟨hreach, hdone, by decide, (hget "g").trans (by decide), hmirrors⟩

def overtakenDeletion : List Step := saving ++ [.perform 400 (.deleteGroup "g"), .call 3, .call 2]

theorem overtakenDeletion_not_mirrored :
    Reachable twoInputs ∧ ((start twoInputs .empty).steps overtakenDeletion).Settled ∧
      ((start twoInputs .empty).steps overtakenDeletion).coordinator.groups = [] ∧
      ((start twoInputs .empty).steps overtakenDeletion).repository.groups =
        [sentPair] ∧
      ¬ ((start twoInputs .empty).steps overtakenDeletion).Mirrors := by
  refine ⟨(Reachable.start _ _ _).performAll _, ?_, by decide, by decide +kernel, ?_⟩
  · unfold Settled
    decide
  · unfold Mirrors
    decide +kernel

end Traffic

end LinkedControls
