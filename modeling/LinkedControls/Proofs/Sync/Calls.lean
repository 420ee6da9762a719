import LinkedControls.Proofs.Repository.Storing
import LinkedControls.Proofs.Sync.Recording

/-!
The calls that writes are made of, one for each deletion and each save. Under every id a repository
holds what the last call about it has left there.
-/

namespace LinkedControls

inductive RepositoryCall
  | delete (id : String)
  | save (g : Group)
deriving DecidableEq

namespace RepositoryCall

def id : RepositoryCall → String
  | .delete id => id
  | .save g => g.id

def content : RepositoryCall → Option Group
  | .delete _ => none
  | .save g => some g

end RepositoryCall

def Writes.calls (w : Writes) : List RepositoryCall := w.deletes.map .delete ++ w.saves.map .save

def left? (calls : List RepositoryCall) (id : String) : Option (Option Group) :=
  (calls.reverse.find? (·.id == id)).map (·.content)

variable {calls more : List RepositoryCall} {k : RepositoryCall} {id : String}

theorem left?_append : left? (calls ++ more) id = (left? more id).or (left? calls id) := by
  rw [left?, List.reverse_append, List.find?_append, Option.map_or]
  rfl

theorem left?_cons :
    left? (k :: calls) id = (left? calls id).or (if id = k.id then some k.content else none) := by
  rw [← List.singleton_append, left?_append]
  congr 1
  by_cases hid : id = k.id
  · simp [left?, hid]
  · simp [left?, hid, Ne.symm hid]

theorem left?_eq_none : left? calls id = none ↔ ∀ k ∈ calls, k.id ≠ id := by
  simp [left?]

theorem left?_congr_filter (h : calls.filter (·.id == id) = more.filter (·.id == id)) :
    left? calls id = left? more id := by
  have hfilter (ks : List RepositoryCall) :
      left? ks id = (ks.filter (·.id == id)).reverse.head?.map (·.content) := by
    rw [left?, ← List.filter_reverse, List.head?_filter]
  rw [hfilter, hfilter, h]

namespace Repository

variable {r : Repository}

def call (r : Repository) : RepositoryCall → Repository
  | .delete id => (r.delete id).2
  | .save g => r.save g

def callAll (r : Repository) (calls : List RepositoryCall) : Repository := calls.foldl call r

theorem Sound.call (h : r.Sound) (k : RepositoryCall) : (r.call k).Sound := by
  cases k with
  | delete id => exact h.delete id
  | save g => exact h.save g

theorem Sound.callAll (h : r.Sound) (calls : List RepositoryCall) : (r.callAll calls).Sound :=
  List.foldlRecOn calls _ h fun _ hr k _ => hr.call k

theorem get?_call (h : r.Sound) (k : RepositoryCall) (id : String) :
    (r.call k).get? id = if id = k.id then k.content else r.get? id := by
  cases k with
  | delete i => exact get?_delete
  | save g => exact get?_save h

theorem get?_callAll (h : r.Sound) (calls : List RepositoryCall) (id : String) :
    (r.callAll calls).get? id = (left? calls id).getD (r.get? id) := by
  induction calls generalizing r with
  | nil => rfl
  | cons k rest ih =>
    rw [callAll, List.foldl_cons, ← callAll, ih (h.call k), get?_call h, left?_cons]
    cases left? rest id with
    | some g => rfl
    | none => split <;> rfl

end Repository

theorem left?_deletes (ids : List String) :
    left? (ids.map .delete) id = if id ∈ ids then some none else none := by
  induction ids with
  | nil => rfl
  | cons i rest ih =>
    rw [List.map_cons, left?_cons, ih]
    by_cases hid : id = i
    · subst hid
      by_cases hrest : id ∈ rest
      · simp [hrest]
      · simp [hrest, RepositoryCall.id, RepositoryCall.content]
    · simp [hid, RepositoryCall.id]

theorem left?_saves (w : Writes) : left? (w.saves.map .save) id = (w.saved? id).map some := by
  rw [left?, ← List.map_reverse, List.find?_map, Option.map_map, Writes.saved?]
  rfl

theorem left?_calls (w : Writes) :
    left? w.calls id = ((w.saved? id).map some).or (if id ∈ w.deletes then some none else none) := by
  rw [Writes.calls, left?_append, left?_saves, left?_deletes]

theorem onto_eq (w : Writes) (held : String → Option Group) (id : String) :
    w.onto held id = (left? w.calls id).getD (held id) := by
  rw [left?_calls, Writes.onto]
  cases w.saved? id with
  | some g => rfl
  | none =>
    by_cases hid : id ∈ w.deletes
    · simp [hid]
    · simp [hid]

theorem upon_eq (w : Writes) (held : String → Option Group) (id : String) :
    w.upon held id = ((left? w.calls id).map (·.map Group.undated)).getD (held id) := by
  rw [left?_calls, Writes.upon]
  cases w.saved? id with
  | some g => rfl
  | none =>
    by_cases hid : id ∈ w.deletes
    · simp [hid]
    · simp [hid]

def Outcome.silent {α : Type} (o : Outcome α) : Outcome Unit := ⟨(), o.next, o.writes⟩

def Operation.loads : Operation → Bool
  | .loadGroups _ => true
  | _ => false

/-- The operations after which a group may be stored with another time of its last sync than it has in
memory. -/
def Operation.redates : Operation → Bool
  | .updateGroup _ => true
  | .resolve .. => true
  | _ => false

namespace Coordinator

variable {c d : Coordinator} {w : Writes} {op : Operation} {now : Int} {o : Outcome Unit}

def issue (c : Coordinator) (now : Int) : Operation → Except SyncError (Outcome Unit)
  | .createGroup g => (c.createGroup g).map Outcome.silent
  | .updateGroup g => (c.updateGroup g).map Outcome.silent
  | .deleteGroup id => c.deleteGroup id
  | .addMember id control => (c.addMember id control).map Outcome.silent
  | .removeMember id control => (c.removeMember id control).map Outcome.silent
  | .setEnabled id enabled => (c.setEnabled id enabled).map Outcome.silent
  | .flush id => c.flush id now
  | .expire t => .ok (if t ∈ c.timers then ⟨(), (c.fire t now).1, (c.fire t now).2⟩ else ⟨(), c, .none⟩)
  | op => .ok ⟨(), c.perform now op, .none⟩

theorem after_map_silent {α : Type} (c : Coordinator) (r : Except SyncError (Outcome α)) :
    c.after (·.next) (r.map Outcome.silent) = c.after (·.next) r := by
  cases r with
  | error e => rfl
  | ok o => rfl

theorem perform_eq_issue (c : Coordinator) (now : Int) (op : Operation) :
    c.perform now op = c.after (·.next) (c.issue now op) := by
  cases op with
  | createGroup g => exact (after_map_silent c _).symm
  | updateGroup g => exact (after_map_silent c _).symm
  | addMember id control => exact (after_map_silent c _).symm
  | removeMember id control => exact (after_map_silent c _).symm
  | setEnabled id enabled => exact (after_map_silent c _).symm
  | expire t =>
    simp only [perform, issue, after]
    split <;> rfl
  | _ => rfl

theorem perform_of_issue (h : c.issue now op = .ok o) : c.perform now op = o.next := by
  rw [perform_eq_issue, h]
  rfl

theorem silent_eq_ok {α : Type} {r : Except SyncError (Outcome α)}
    (h : r.map Outcome.silent = .ok o) : ∃ a, r = .ok a ∧ o = a.silent := by
  cases r with
  | error e => cases h
  | ok a => exact ⟨a, rfl, (Except.ok.inj h).symm⟩

theorem leaves_silent {α : Type} {r : Except SyncError (Outcome α)}
    (h : r.map Outcome.silent = .ok o) (hr : ∀ a, r = .ok a → Leaves c a.writes a.next) :
    Leaves c o.writes o.next := by
  obtain ⟨a, ha, rfl⟩ := silent_eq_ok h
  exact hr a ha

theorem leaves_still (h : .ok ⟨(), d, .none⟩ = (.ok o : Except SyncError (Outcome Unit)))
    (hd : ∀ id, d.group? id = c.group? id) : Leaves c o.writes o.next := by
  cases h
  exact hd

theorem definitions_after {ε α : Type} {next : α → Coordinator} {r : Except ε α}
    (h : ∀ a, r = .ok a → (next a).definitions = c.definitions) :
    (c.after next r).definitions = c.definitions :=
  after_induction (P := fun d => d.definitions = c.definitions) rfl h

theorem group?_after {ε α : Type} {next : α → Coordinator} {r : Except ε α}
    (h : ∀ a, r = .ok a → ∀ id, (next a).group? id = c.group? id) (id : String) :
    (c.after next r).group? id = c.group? id :=
  after_induction (P := fun d => ∀ id, d.group? id = c.group? id) (fun _ => rfl) h id

theorem group?_handleChange {control : String} {v : Value} {origin : Origin}
    {r : Change × Coordinator} (hwk : WellKept c.roster)
    (hr : c.handleChange control v origin now = .ok r) (id : String) :
    r.2.group? id = c.group? id := by
  obtain ⟨store, -, ⟨he, -⟩ | ⟨-, l, hl, -, he⟩⟩ := handleChange_eq_ok hr
  · rw [he]
    rfl
  · have hlive : Coordinator.live? { c with store := store } l.id = some l :=
      live?_of_wellKept hwk (mem_of_liveOf? hl)
    rw [he]
    by_cases hid : id = l.id
    · rw [hid, group?_of_live? (live?_note hlive _ now)]
      exact (group?_of_live? hlive).symm
    · exact group?_congr (live?_note_of_ne hid _ now)

theorem leaves_issue (hwk : WellKept c.roster) (hload : op.loads = false) (hop : op.redates = false)
    (ho : c.issue now op = .ok o) : Leaves c o.writes o.next := by
  cases op with
  | createGroup g => exact leaves_silent ho fun _ => leaves_createGroup hwk
  | deleteGroup id => exact leaves_deleteGroup ho
  | addMember id control => exact leaves_silent ho fun _ => leaves_addMember hwk
  | removeMember id control => exact leaves_silent ho fun _ => leaves_removeMember
  | setEnabled id enabled => exact leaves_silent ho fun _ => leaves_setEnabled
  | addRule r =>
    refine leaves_still ho (group?_after fun a ha => ?_)
    obtain ⟨_, -, -, -, -, hd⟩ := addRule_eq_ok ha
    rw [hd]
    exact fun _ => rfl
  | removeRule id =>
    refine leaves_still ho (group?_after fun a ha => ?_)
    rw [(removeRule_eq_ok ha).2.2]
    exact fun _ => rfl
  | setCombinator id f =>
    refine leaves_still ho (group?_after fun d hd => ?_)
    obtain ⟨_, -, rfl⟩ := setCombinator_eq_ok hd
    exact fun _ => rfl
  | change control v origin => exact leaves_still ho (group?_after fun _ => group?_handleChange hwk)
  | flush id => exact leaves_flush ho
  | ignore id =>
    refine leaves_still ho (group?_after fun a ha => ?_)
    obtain ⟨_, -, hd⟩ := ignoreConflict_eq_ok ha
    rw [hd]
    exact fun _ => rfl
  | shutdown =>
    refine leaves_still ho (shutdown_induction (P := fun d => ∀ id, d.group? id = c.group? id)
      (fun _ => rfl) fun d l _ hd id => ?_)
    exact group?_cancel.trans (hd id)
  | expire t =>
    simp only [issue] at ho
    split at ho
    · cases ho
      exact leaves_fire c t now
    · cases ho
      exact .refl c
  | act a => exact leaves_still ho (group?_after fun _ _ _ => rfl)
  | loadGroups stored => cases hload
  | _ => cases hop

theorem records_issue (hwk : WellKept c.roster) (hop : op.loads = false)
    (ho : c.issue now op = .ok o) : Records c o.writes o.next := by
  cases hredates : op.redates with
  | false => exact (leaves_issue hwk hop hredates ho).records
  | true =>
    cases op with
    | updateGroup g =>
      obtain ⟨a, ha, rfl⟩ := silent_eq_ok ho
      exact records_updateGroup hwk ha
    | resolve id v resolver =>
      cases ho
      exact .of_definitions (definitions_after fun _ => definitions_resolveConflict)
    | _ => cases hredates

end Coordinator

end LinkedControls
