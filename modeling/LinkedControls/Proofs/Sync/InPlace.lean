import LinkedControls.Failure
import LinkedControls.Proofs.Store.InPlace
import LinkedControls.Proofs.Sync.Calls

/-!
Operations as they work in place on a coordinator and its repository, one step after the other, where
a step that fails leaves what the steps before it have done. All the same an operation that fails leaves
no trace, unless it fails because the repository has refused a call. What cannot fail on its way, such as
the closing of a window, is one step.
-/

namespace LinkedControls

structure Workplace where
  coordinator : Coordinator
  repository : Repository
  refusal : Nat → Option RepositoryError

def Workplace.served (w : Workplace) : Workplace :=
  { w with refusal := fun n => w.refusal (n + 1) }

abbrev Work := EStateM Failure Workplace

namespace Work

open Coordinator (expelWrites)

def coordinator : Work Coordinator := return (← get).coordinator

def adjust (f : Coordinator → Coordinator) : Work Unit :=
  modify fun w => { w with coordinator := f w.coordinator }

def check {α : Type} : Except SyncError α → Work α
  | .ok a => pure a
  | .error e => throw (.sync e)

def need (id : String) : Work LiveGroup := do check ((← coordinator).need id)

def admitted : Work Repository := do
  let w ← get
  set w.served
  match w.refusal 0 with
  | some e => throw (.sync e.toSyncError)
  | none => return w.repository

def call (k : RepositoryCall) : Work Unit := do
  let r ← admitted
  modify fun w => { w with repository := r.call k }

def callAll : List RepositoryCall → Work Unit
  | [] => pure ()
  | k :: rest => do
      call k
      callAll rest

def persist (w : Writes) : Work Unit := callAll w.calls

def onStore {α : Type} (x : Store.InPlace α) : Work α := do
  let (answer, store) := x.on (← coordinator).store
  adjust fun c => { c with store := store }
  match answer with
  | .ok a => return a
  | .error e => throw (.store e)

def expel (control : String) (l : LiveGroup) : Work (Option Group) := do
  let g := l.group.without control
  adjust fun c => c.cancel l
  adjust fun c => c.update l.id fun k => { k with group := g }
  adjust fun c => { c with rules := c.rules.filter fun r => !r.touches l.id control }
  if g.isValid then return some g
  adjust fun c => c.drop l
  return none

def detachFrom (control : String) : List String → Writes → Work Writes
  | [], w => return w
  | id :: rest, w => do
      match (← coordinator).live? id with
      | none => detachFrom control rest w
      | some l => detachFrom control rest (w.andThen (expelWrites id (← expel control l)))

def detach (control keep : String) : Work Writes := do
  let owners := (← coordinator).groups.filter fun l => l.id != keep && l.group.contains control
  detachFrom control (owners.map (·.id)) .none

def detachAll (keep : String) : List String → Writes → Work Writes
  | [], w => return w
  | control :: rest, w => do detachAll keep rest (w.andThen (← detach control keep))

def createGroup (g : Group) : Work Unit := do
  check g.validate
  if ((← coordinator).live? g.id).isSome then
    throw (.sync (.invalidGroup g.id "a group with this id already exists"))
  let w ← detachAll g.id g.members .none
  adjust fun c => c.takeIn g
  persist (w.andThen (.save g))

def updateGroup (g : Group) : Work Unit := do
  check g.validate
  let l ← need g.id
  adjust fun c => c.cancel l
  let w ← detachAll g.id g.members .none
  adjust fun c => { c with
    rules := c.rules.filter fun r =>
      r.group != g.id || (g.contains r.source && g.contains r.target) }
  adjust fun c => c.update g.id fun l =>
    { l with group := { g with lastSync := g.lastSync <|> l.group.lastSync } }
  persist (w.andThen (.save g))

def deleteGroup (id : String) : Work Unit := do
  let l ← need id
  adjust fun c => c.drop l
  persist (.delete id)

/-- The group is looked up once more after the control has left its old one. -/
def addMember (id control : String) : Work Unit := do
  if (← need id).group.contains control then return
  let w ← detach control id
  let l ← need id
  let g := { l.group with members := l.group.members ++ [control] }
  adjust fun c => c.cancel l
  adjust fun c => c.update id fun l => { l with group := g }
  persist (w.andThen (.save g))

def removeMember (id control : String) : Work Unit := do
  let l ← need id
  if !l.group.contains control then throw (.sync (.notAMember id control))
  persist (expelWrites id (← expel control l))

def setEnabled (id : String) (enabled : Bool) : Work Unit := do
  let l ← need id
  let g := { l.group with enabled := enabled }
  if !enabled then adjust fun c => c.cancel l
  adjust fun c => c.update id fun l => { l with group := g }
  persist (.save g)

def loadGroups : Work Unit := do
  let r ← admitted
  adjust fun c => (c.loadGroups r.groups).2

def addRule (r : Rule) : Work Unit := do
  let l ← need r.group
  if !l.group.contains r.source then throw (.sync (.notAMember r.group r.source))
  if !l.group.contains r.target then throw (.sync (.notAMember r.group r.target))
  if r.source = r.target then
    throw (.sync (.invalidGroup r.group "a rule needs distinct source and target controls"))
  adjust fun c => { c with
    rules := c.rules.filter fun s => !s.isFor r.group r.source r.target && s.id != r.id }
  adjust fun c => { c with rules := c.rules ++ [r] }

/-- The rule is taken out first, and then it turns out whether there was one. -/
def removeRule (id : String) : Work Unit := do
  let found := (← coordinator).rules.find? (·.id == id)
  adjust fun c => { c with rules := c.rules.filter (·.id != id) }
  match found with
  | none => throw (.sync (.ruleNotFound id))
  | some _ => return

def setCombinator (id : String) (f : Combinator) : Work Unit := do
  let _ ← need id
  adjust fun c => { c with combinators := (id, f) :: c.combinators.filter (·.1 != id) }

def change (control : String) (v : Value) (origin : Origin) (now : Int) : Work Unit := do
  match ← onStore (Store.dispatch (.write control v origin)) with
  | none => return
  | some change =>
      if origin ≠ .user then return
      match (← coordinator).liveOf? control with
      | none => return
      | some l =>
          if !l.group.enabled then return
          adjust fun c => c.update l.id fun k => { k with
            window := LiveGroup.gather k.window ⟨control, change.after, now, origin⟩
            phase := .pendingPropagation }
          adjust fun c => c.schedule l now

def closeWindow (id : String) (now : Int) : Work Writes := do
  let (c, w) := (← coordinator).closeWindow id now
  adjust fun _ => c
  return w

def flush (id : String) (now : Int) : Work Unit := do
  let l ← need id
  adjust fun c => c.stopTimer l.timer
  adjust fun c => c.update id fun l => { l with timer := none, generation := l.generation + 1 }
  if !l.group.enabled then return
  persist (← closeWindow id now)

def resolve (id : String) (v : Value) (resolver : String) (now : Int) : Work Unit := do
  match (← coordinator).conflict? id with
  | none => throw (.sync (.conflictNotFound id))
  | some k =>
      if !k.isPending then return
      adjust fun c => c.replaceConflict (k.resolve v resolver now)
      match (← coordinator).live? k.group with
      | none => return
      | some l =>
          if !l.group.enabled then return
          adjust fun c => c.send l ⟨none, k.control, v⟩ now
          adjust fun c => c.rephase l

def ignore (id : String) (now : Int) : Work Unit := do
  match (← coordinator).conflict? id with
  | none => throw (.sync (.conflictNotFound id))
  | some k => adjust fun c => c.replaceConflict (k.ignore now)

/-- Nobody waits for the writes of a timer, so their failure has no effect. -/
def expire (t : Timer) (now : Int) : Work Unit := do
  let c ← coordinator
  if t ∈ c.timers then
    adjust fun _ => (c.fire t now).1
    tryCatch (persist (c.fire t now).2) fun _ => pure ()

def operate (now : Int) : Operation → Work Unit
  | .createGroup g => createGroup g
  | .updateGroup g => updateGroup g
  | .deleteGroup id => deleteGroup id
  | .addMember id control => addMember id control
  | .removeMember id control => removeMember id control
  | .setEnabled id enabled => setEnabled id enabled
  | .loadGroups _ => loadGroups
  | .addRule r => addRule r
  | .removeRule id => removeRule id
  | .setCombinator id f => setCombinator id f
  | .change control v origin => change control v origin now
  | .flush id => flush id now
  | .resolve id v resolver => resolve id v resolver now
  | .ignore id => ignore id now
  | .shutdown => adjust Coordinator.shutdown
  | .expire t => expire t now
  | .act a => do
      let _ ← onStore (Store.dispatch a)

variable {α β : Type} {w v : Workplace} {c : Coordinator}

@[simp]
theorem run_coordinator : coordinator.run w = .ok w.coordinator w := rfl

@[simp]
theorem run_adjust (f : Coordinator → Coordinator) :
    (adjust f).run w = .ok ⟨⟩ { w with coordinator := f w.coordinator } := rfl

theorem run_check (a : α) : (check (.ok a)).run w = .ok a w := rfl

@[simp]
theorem run_throw (e : Failure) : (throw e : Work α).run w = .error e w := rfl

theorem run_bind_ok {x : Work α} {a : α} (h : x.run w = .ok a v) (f : α → Work β) :
    (x >>= f).run w = (f a).run v := by
  rw [EStateM.run_bind, h]

theorem run_bind_error {x : Work α} {e : Failure} (h : x.run w = .error e v) (f : α → Work β) :
    (x >>= f).run w = .error e v := by
  rw [EStateM.run_bind, h]

theorem run_need_of_live? {id : String} {l : LiveGroup} (h : w.coordinator.live? id = some l) :
    (need id).run w = .ok l w := by
  have hneed := Coordinator.need_of_live? h
  simp [need, hneed, check]

theorem run_need_of_unknown {id : String} (h : w.coordinator.live? id = none) :
    (need id).run w = .error (.sync (.groupNotFound id)) w := by
  simp [need, Coordinator.need, h, check]

end Work

namespace Coordinator

variable {c : Coordinator}

def still (c : Coordinator) : Outcome Unit := ⟨(), c, .none⟩

def report {ε α : Type} (wrap : ε → Failure) (outcome : α → Outcome Unit) :
    Except ε α → Except Failure (Outcome Unit)
  | .ok a => .ok (outcome a)
  | .error e => .error (wrap e)

def tried (c : Coordinator) (now : Int) : Operation → Except Failure (Outcome Unit)
  | .createGroup g => report .sync .silent (c.createGroup g)
  | .updateGroup g => report .sync .silent (c.updateGroup g)
  | .deleteGroup id => report .sync .silent (c.deleteGroup id)
  | .addMember id control => report .sync .silent (c.addMember id control)
  | .removeMember id control => report .sync .silent (c.removeMember id control)
  | .setEnabled id enabled => report .sync .silent (c.setEnabled id enabled)
  | .loadGroups stored => .ok (c.loadGroups stored).2.still
  | .addRule r => report .sync (·.2.still) (c.addRule r)
  | .removeRule id => report .sync (·.2.still) (c.removeRule id)
  | .setCombinator id f => report .sync still (c.setCombinator id f)
  | .change control v origin => report .store (·.2.still) (c.handleChange control v origin now)
  | .flush id => report .sync .silent (c.flush id now)
  | .resolve id v resolver => report .sync (·.2.still) (c.resolveConflict id v resolver now)
  | .ignore id => report .sync (·.2.still) (c.ignoreConflict id now)
  | .shutdown => .ok c.shutdown.still
  | .expire t =>
      .ok (if t ∈ c.timers then ⟨(), (c.fire t now).1, (c.fire t now).2⟩ else c.still)
  | .act a => report .store (fun r => { c with store := r.1 }.still) (c.store.apply a)

theorem after_report {ε α : Type} (c : Coordinator) (wrap : ε → Failure) (outcome : α → Outcome Unit)
    (r : Except ε α) :
    c.after (·.next) (report wrap outcome r) = c.after (fun a => (outcome a).next) r := by
  cases r with
  | error e => rfl
  | ok a => rfl

theorem perform_eq_tried (c : Coordinator) (now : Int) (op : Operation) :
    c.perform now op = c.after (·.next) (c.tried now op) := by
  cases op with
  | loadGroups stored => rfl
  | shutdown => rfl
  | expire t =>
    simp only [perform, tried, after]
    split <;> rfl
  | _ =>
    simp only [perform, tried, after_report]
    rfl

theorem filter_update {f : LiveGroup → LiveGroup} {id : String} (gs : List LiveGroup)
    (hf : ∀ l, l.id = id → (f l).id = id) :
    (gs.map fun l => if l.id == id then f l else l).filter (·.id != id) = gs.filter (·.id != id) := by
  induction gs with
  | nil => rfl
  | cons l gs ih =>
    rw [List.map_cons]
    by_cases hl : l.id = id
    · rw [List.filter_cons_of_neg (by simp [hl, hf]), List.filter_cons_of_neg (by simp [hl]), ih]
    · rw [if_neg (by simpa using hl), List.filter_cons_of_pos (by simpa using hl),
        List.filter_cons_of_pos (by simpa using hl), ih]

theorem filter_touches (rules : List Rule) (id control : String) :
    (rules.filter fun r => !r.touches id control).filter (·.group != id) =
      rules.filter (·.group != id) := by
  rw [List.filter_filter]
  refine List.filter_congr fun r _ => ?_
  cases hr : r.group == id with
  | true => simp [bne, hr]
  | false => simp [bne, hr, Rule.touches]

theorem drop_bereft (c : Coordinator) (l : LiveGroup) (control : String) :
    drop { (c.cancel l).update l.id (fun k => { k with group := l.group.without control }) with
      rules := c.rules.filter fun r => !r.touches l.id control } l = c.drop l := by
  have hgroups : ((c.cancel l).update l.id fun k =>
      { k with group := l.group.without control }).groups.filter (·.id != l.id) =
        c.groups.filter (·.id != l.id) :=
    (filter_update (f := fun k => { k with group := l.group.without control }) _
      fun _ _ => rfl).trans (filter_update (f := LiveGroup.reset) _ fun _ h => h)
  have htimers : (c.timers.filter fun t => some t.serial != l.timer).filter
      (fun t => some t.serial != l.timer) = c.timers.filter fun t => some t.serial != l.timer := by
    rw [List.filter_filter]
    simp only [Bool.and_self]
  unfold drop
  simp only [stopTimer, cancel, update] at hgroups ⊢
  simp only [hgroups, htimers, filter_touches]

end Coordinator

namespace Work

variable {w v : Workplace} {c : Coordinator} {g : Group} {id control keep : String} {l : LiveGroup}
  {now : Int}

def conclude (w : Workplace) : Except Failure (Outcome Unit) → EStateM.Result Failure Workplace Unit
  | .ok o => (persist o.writes).run { w with coordinator := o.next }
  | .error e => .error e w

theorem run_expel (w : Workplace) (control : String) (l : LiveGroup) : (expel control l).run w =
    .ok (w.coordinator.expel control l).2
      { w with coordinator := (w.coordinator.expel control l).1 } := by
  cases hv : (l.group.without control).isValid with
  | true =>
    simp only [expel, Coordinator.expel, hv, if_true]
    rfl
  | false =>
    have hdrop := Coordinator.drop_bereft w.coordinator l control
    simp only [Coordinator.expel, hv, Bool.false_eq_true, if_false]
    rw [← hdrop]
    simp only [expel, hv]
    rfl

theorem run_detach (hwk : WellKept w.coordinator.roster) (control keep : String) :
    (detach control keep).run w = .ok (w.coordinator.detach control keep).2
      { w with coordinator := (w.coordinator.detach control keep).1 } := by
  unfold detach Coordinator.detach
  rw [run_bind_ok run_coordinator]
  obtain hnone | ⟨l, hl, -, -, hone⟩ := Coordinator.owners_cases hwk control keep
  · rw [hnone]
    rfl
  · have hlive := Coordinator.live?_of_wellKept hwk hl
    simp only [hone, List.map_cons, List.map_nil, detachFrom, List.foldl_cons, List.foldl_nil]
    rw [run_bind_ok run_coordinator, hlive]
    simp only
    rw [run_bind_ok (run_expel w control l)]
    rfl

def depart (keep : String) : Coordinator × Writes → String → Coordinator × Writes
  | (c, w), control => ((c.detach control keep).1, w.andThen (c.detach control keep).2)

theorem run_departures (hwk : WellKept w.coordinator.roster) (keep : String)
    (controls : List String) (before : Writes) : (detachAll keep controls before).run w =
      .ok (controls.foldl (depart keep) (w.coordinator, before)).2
        { w with coordinator := (controls.foldl (depart keep) (w.coordinator, before)).1 } := by
  induction controls generalizing w before with
  | nil => rfl
  | cons control rest ih =>
    rw [detachAll, run_bind_ok (run_detach hwk control keep),
      ih (Coordinator.wellKept_detachAll hwk [control] keep)]
    rfl

theorem run_detachAll (hwk : WellKept w.coordinator.roster) (keep : String)
    (controls : List String) :
    (detachAll keep controls .none).run w = .ok (w.coordinator.detachAll controls keep).2
      { w with coordinator := (w.coordinator.detachAll controls keep).1 } :=
  run_departures hwk keep controls .none

open Coordinator

theorem run_createGroup (hwk : WellKept w.coordinator.roster) (g : Group) (now : Int) :
    (createGroup g).run w = conclude w (w.coordinator.tried now (.createGroup g)) := by
  unfold createGroup
  cases hv : g.validate with
  | error e =>
    have htried : w.coordinator.createGroup g = .error e := by
      rw [Coordinator.createGroup, hv]
      rfl
    rw [tried, htried]
    rfl
  | ok u =>
    cases hl : w.coordinator.live? g.id with
    | some l =>
      have htried : w.coordinator.createGroup g =
          .error (.invalidGroup g.id "a group with this id already exists") := by
        rw [Coordinator.createGroup, hv, hl]
        rfl
      rw [tried, htried]
      simp [check, hl]
      rfl
    | none =>
      rw [tried, createGroup_of_isValid (validate_eq_ok hv) hl]
      simp [check, hl, run_detachAll hwk]
      rfl

theorem run_updateGroup (hwk : WellKept w.coordinator.roster) (g : Group) (now : Int) :
    (updateGroup g).run w = conclude w (w.coordinator.tried now (.updateGroup g)) := by
  unfold updateGroup
  cases hv : g.validate with
  | error e =>
    have htried : w.coordinator.updateGroup g = .error e := by
      rw [Coordinator.updateGroup, hv]
      rfl
    rw [tried, htried]
    rfl
  | ok u =>
    cases hl : w.coordinator.live? g.id with
    | none =>
      have htried : w.coordinator.updateGroup g = .error (.groupNotFound g.id) := by
        rw [Coordinator.updateGroup, hv, Coordinator.need, hl]
        rfl
      rw [tried, htried]
      simp [check, run_need_of_unknown hl]
      rfl
    | some l =>
      have hwk' : WellKept (w.coordinator.cancel l).roster := by rwa [roster_cancel]
      have hdetach := run_detachAll (w := { w with coordinator := w.coordinator.cancel l }) hwk' g.id
        g.members
      rw [tried, updateGroup_of_isValid (validate_eq_ok hv) hl]
      rw [run_bind_ok (run_check u), run_bind_ok (run_need_of_live? hl),
        run_bind_ok (run_adjust fun c => c.cancel l), run_bind_ok hdetach]
      rfl

theorem run_deleteGroup (w : Workplace) (id : String) (now : Int) :
    (deleteGroup id).run w = conclude w (w.coordinator.tried now (.deleteGroup id)) := by
  unfold deleteGroup
  cases hl : w.coordinator.live? id with
  | none =>
    rw [run_bind_error (run_need_of_unknown hl), tried, Coordinator.deleteGroup, Coordinator.need, hl]
    rfl
  | some l =>
    rw [run_bind_ok (run_need_of_live? hl), tried, deleteGroup_of_live? hl]
    rfl

theorem run_addMember (hwk : WellKept w.coordinator.roster) (id control : String) (now : Int) :
    (addMember id control).run w = conclude w (w.coordinator.tried now (.addMember id control)) := by
  unfold addMember
  cases hl : w.coordinator.live? id with
  | none =>
    rw [run_bind_error (run_need_of_unknown hl), tried, Coordinator.addMember, Coordinator.need, hl]
    rfl
  | some l =>
    rw [run_bind_ok (run_need_of_live? hl)]
    by_cases hm : control ∈ l.group.members
    · rw [tried, addMember_of_mem hl hm]
      simp [Group.contains_of_mem hm]
      rfl
    · have hcontains := Group.contains_of_not_mem hm
      have hkeep : (w.coordinator.detach control id).1.live? id = some l :=
        (live?_detachAll_keep hwk [control]).trans hl
      have hneed := run_need_of_live?
        (w := { w with coordinator := (w.coordinator.detach control id).1 }) hkeep
      obtain rfl := id_of_live? hl
      rw [tried, addMember_of_not_mem hl hm]
      simp [hcontains, run_detach hwk, hneed]
      rfl

theorem run_removeMember (w : Workplace) (id control : String) (now : Int) :
    (removeMember id control).run w =
      conclude w (w.coordinator.tried now (.removeMember id control)) := by
  unfold removeMember
  cases hl : w.coordinator.live? id with
  | none =>
    rw [run_bind_error (run_need_of_unknown hl), tried, Coordinator.removeMember, Coordinator.need, hl]
    rfl
  | some l =>
    rw [run_bind_ok (run_need_of_live? hl)]
    by_cases hm : control ∈ l.group.members
    · rw [tried, removeMember_of_mem hl hm]
      simp [Group.contains_of_mem hm, run_expel]
      rfl
    · have hcontains := Group.contains_of_not_mem hm
      have htried : w.coordinator.removeMember id control = .error (.notAMember id control) := by
        rw [Coordinator.removeMember, need_of_live? hl]
        simp only [bind, Except.bind, hcontains]
        rfl
      rw [tried, htried]
      simp [hcontains]
      rfl

theorem run_setEnabled (w : Workplace) (id : String) (enabled : Bool) (now : Int) :
    (setEnabled id enabled).run w =
      conclude w (w.coordinator.tried now (.setEnabled id enabled)) := by
  unfold setEnabled
  cases hl : w.coordinator.live? id with
  | none =>
    rw [run_bind_error (run_need_of_unknown hl), tried, Coordinator.setEnabled, Coordinator.need, hl]
    rfl
  | some l =>
    obtain rfl := id_of_live? hl
    rw [run_bind_ok (run_need_of_live? hl), tried, setEnabled_eq hl]
    cases enabled with
    | true => rfl
    | false => rfl

theorem run_addRule (w : Workplace) (r : Rule) (now : Int) :
    (addRule r).run w = conclude w (w.coordinator.tried now (.addRule r)) := by
  unfold addRule
  rw [tried, Coordinator.addRule]
  cases hl : w.coordinator.live? r.group with
  | none =>
    rw [run_bind_error (run_need_of_unknown hl), Coordinator.need, hl]
    rfl
  | some l =>
    rw [run_bind_ok (run_need_of_live? hl), need_of_live? hl]
    cases hs : l.group.contains r.source with
    | false =>
      simp only [bind, Except.bind, hs]
      rfl
    | true =>
      cases ht : l.group.contains r.target with
      | false =>
        simp only [bind, Except.bind, hs, ht]
        rfl
      | true =>
        by_cases he : r.source = r.target
        · simp only [bind, Except.bind, ht, he]
          rfl
        · simp only [bind, Except.bind, hs, ht, he]
          rfl

theorem run_removeRule (w : Workplace) (id : String) (now : Int) :
    (removeRule id).run w = conclude w (w.coordinator.tried now (.removeRule id)) := by
  unfold removeRule
  rw [tried, Coordinator.removeRule]
  cases hr : w.coordinator.rules.find? (·.id == id) with
  | none =>
    have hkept : w.coordinator.rules.filter (·.id != id) = w.coordinator.rules :=
      List.filter_eq_self.mpr fun r h => by simpa using List.find?_eq_none.mp hr r h
    simp only [EStateM.run_bind, run_coordinator, run_adjust, hr, hkept]
    rfl
  | some r =>
    simp only [EStateM.run_bind, run_coordinator, run_adjust, hr]
    rfl

theorem run_setCombinator (w : Workplace) (id : String) (f : Combinator) (now : Int) :
    (setCombinator id f).run w = conclude w (w.coordinator.tried now (.setCombinator id f)) := by
  unfold setCombinator
  rw [tried, Coordinator.setCombinator]
  cases hl : w.coordinator.live? id with
  | none =>
    rw [run_bind_error (run_need_of_unknown hl), Coordinator.need, hl]
    rfl
  | some l =>
    rw [run_bind_ok (run_need_of_live? hl), need_of_live? hl]
    rfl

theorem run_onStore (w : Workplace) (a : Store.Action) :
    (onStore (Store.dispatch a)).run w = match w.coordinator.store.apply a with
      | .ok (store, change) => .ok change { w with coordinator := { w.coordinator with store := store } }
      | .error e => .error (.store e) w := by
  have hperform := Store.perform_eq w.coordinator.store a
  unfold Store.perform at hperform
  unfold onStore
  simp only [EStateM.run_bind, run_coordinator, hperform]
  cases w.coordinator.store.apply a with
  | error e => rfl
  | ok r => rfl

theorem run_change (w : Workplace) (control : String) (v : Value) (origin : Origin) (now : Int) :
    (change control v origin now).run w =
      conclude w (w.coordinator.tried now (.change control v origin)) := by
  have hwrite := run_onStore w (.write control v origin)
  unfold change
  rw [tried]
  cases hs : w.coordinator.store.write control v origin with
  | error e =>
    rw [Store.apply, hs] at hwrite
    rw [run_bind_error hwrite, handleChange_of_refused hs]
    rfl
  | ok r =>
    obtain ⟨store, change⟩ := r
    rw [Store.apply, hs] at hwrite
    rw [run_bind_ok hwrite]
    cases hl : w.coordinator.liveOf? control with
    | none =>
      have hl' : Coordinator.liveOf? { w.coordinator with store := store } control = none := hl
      rw [handleChange_of_free hs hl]
      by_cases ho : origin = .user
      · simp only [ho, ne_eq, not_true_eq_false, if_false, EStateM.run_bind, run_coordinator, hl']
        rfl
      · simp only [ho, ne_eq, not_false_eq_true, if_true]
        rfl
    | some l =>
      have hl' : Coordinator.liveOf? { w.coordinator with store := store } control = some l := hl
      rw [handleChange_of_owned hs hl]
      by_cases ho : origin = .user
      · subst ho
        cases he : l.group.enabled with
        | false =>
          simp only [ne_eq, not_true_eq_false, if_false, EStateM.run_bind, run_coordinator, hl', he]
          rfl
        | true =>
          simp only [ne_eq, not_true_eq_false, if_false, EStateM.run_bind, run_coordinator, hl', he]
          rfl
      · simp only [ho, ne_eq, not_false_eq_true, if_true]
        rfl

theorem run_flush (w : Workplace) (id : String) (now : Int) :
    (flush id now).run w = conclude w (w.coordinator.tried now (.flush id)) := by
  unfold flush
  rw [tried, Coordinator.flush]
  cases hl : w.coordinator.live? id with
  | none =>
    rw [run_bind_error (run_need_of_unknown hl), Coordinator.need, hl]
    rfl
  | some l =>
    rw [run_bind_ok (run_need_of_live? hl), need_of_live? hl]
    simp only [bind, Except.bind]
    cases he : l.group.enabled with
    | false => rfl
    | true => rfl

theorem run_resolve (w : Workplace) (id : String) (v : Value) (resolver : String) (now : Int) :
    (resolve id v resolver now).run w =
      conclude w (w.coordinator.tried now (.resolve id v resolver)) := by
  unfold resolve
  rw [tried, resolveConflict, run_bind_ok run_coordinator]
  cases hk : w.coordinator.conflict? id with
  | none => rfl
  | some k =>
    cases hp : k.isPending with
    | false =>
      simp only [hp]
      rfl
    | true =>
      simp only [hp, Bool.not_true, Bool.false_eq_true, if_false, EStateM.run_bind, run_adjust,
        run_coordinator, Conflict.group_resolve, Conflict.control_resolve]
      cases hl : (w.coordinator.replaceConflict (k.resolve v resolver now)).live? k.group with
      | none => rfl
      | some l =>
        cases he : l.group.enabled with
        | false =>
          simp only [he]
          rfl
        | true =>
          simp only [he]
          rfl

theorem run_ignore (w : Workplace) (id : String) (now : Int) :
    (ignore id now).run w = conclude w (w.coordinator.tried now (.ignore id)) := by
  unfold ignore
  rw [tried, ignoreConflict, run_bind_ok run_coordinator]
  cases hk : w.coordinator.conflict? id with
  | none => rfl
  | some k => rfl

theorem run_act (w : Workplace) (now : Int) (a : Store.Action) :
    (operate now (.act a)).run w = conclude w (w.coordinator.tried now (.act a)) := by
  rw [operate, EStateM.run_bind, run_onStore, tried]
  cases w.coordinator.store.apply a with
  | error e => rfl
  | ok r => rfl

def left : EStateM.Result Failure Workplace α → Workplace
  | .ok _ v => v
  | .error _ v => v

theorem run_admitted_of_refused {refused : RepositoryError} (h : w.refusal 0 = some refused) :
    admitted.run w = .error (.sync refused.toSyncError) w.served := by
  simp only [admitted, EStateM.run_bind, EStateM.run_get, EStateM.run_set, h]
  rfl

theorem run_admitted_of_granted (h : w.refusal 0 = none) :
    admitted.run w = .ok w.repository w.served := by
  simp only [admitted, EStateM.run_bind, EStateM.run_get, EStateM.run_set, h]
  rfl

theorem callAll_cases (w : Workplace) (calls : List RepositoryCall) :
    ∃ u : Workplace, u.coordinator = w.coordinator ∧
      ((callAll calls).run w = .ok () u ∨
        ∃ m, (callAll calls).run w = .error (.sync (.repository m)) u) := by
  induction calls generalizing w with
  | nil => exact ⟨w, rfl, .inl rfl⟩
  | cons k rest ih =>
    cases hw : w.refusal 0 with
    | some refused =>
      have hcall : (call k).run w = .error (.sync refused.toSyncError) w.served :=
        run_bind_error (run_admitted_of_refused hw) _
      exact ⟨w.served, rfl, .inr ⟨refused.message, run_bind_error hcall _⟩⟩
    | none =>
      have hcall : (call k).run w = .ok () { w.served with repository := w.repository.call k } :=
        run_bind_ok (run_admitted_of_granted hw) _
      obtain ⟨u, hu, hrun⟩ := ih { w.served with repository := w.repository.call k }
      refine ⟨u, hu, ?_⟩
      rwa [callAll, run_bind_ok hcall]

theorem coordinator_persist (w : Workplace) (writes : Writes) :
    (left ((persist writes).run w)).coordinator = w.coordinator := by
  obtain ⟨u, hu, hrun | ⟨m, hrun⟩⟩ := callAll_cases w writes.calls
  · exact (congrArg (fun r => (left r).coordinator) hrun).trans hu
  · exact (congrArg (fun r => (left r).coordinator) hrun).trans hu

theorem conclude_eq_error {r : Except Failure (Outcome Unit)} {e : Failure}
    (h : conclude w r = .error e v) (hother : ∀ m, e ≠ .sync (.repository m)) :
    r = .error e ∧ v = w := by
  cases r with
  | error e' =>
    cases h
    exact ⟨rfl, rfl⟩
  | ok o =>
    obtain ⟨u, -, hrun | ⟨m, hrun⟩⟩ := callAll_cases { w with coordinator := o.next } o.writes.calls
    · cases hrun.symm.trans h
    · cases hrun.symm.trans h
      exact absurd rfl (hother m)

theorem run_operate (hwk : WellKept w.coordinator.roster) (op : Operation) :
    (operate now op).run w = match op with
      | .loadGroups _ => loadGroups.run w
      | .expire t => (expire t now).run w
      | op => conclude w (w.coordinator.tried now op) := by
  cases op with
  | createGroup g => exact run_createGroup hwk g now
  | updateGroup g => exact run_updateGroup hwk g now
  | deleteGroup id => exact run_deleteGroup w id now
  | addMember id control => exact run_addMember hwk id control now
  | removeMember id control => exact run_removeMember w id control now
  | setEnabled id enabled => exact run_setEnabled w id enabled now
  | loadGroups stored => rfl
  | addRule r => exact run_addRule w r now
  | removeRule id => exact run_removeRule w id now
  | setCombinator id f => exact run_setCombinator w id f now
  | change control v origin => exact run_change w control v origin now
  | flush id => exact run_flush w id now
  | resolve id v resolver => exact run_resolve w id v resolver now
  | ignore id => exact run_ignore w id now
  | shutdown => rfl
  | expire t => rfl
  | act a => exact run_act w now a

theorem run_quietly (x : Work Unit) (w : Workplace) :
    (tryCatch x fun _ => pure ()).run w = .ok () (left (x.run w)) := by
  cases h : x.run w with
  | ok a v =>
    have hx : x w = .ok a v := h
    simp only [tryCatch, tryCatchThe, MonadExceptOf.tryCatch, EStateM.tryCatch, EStateM.run, hx, left]
  | error e v =>
    have hx : x w = .error e v := h
    simp only [tryCatch, tryCatchThe, MonadExceptOf.tryCatch, EStateM.tryCatch, EStateM.run, hx, left]
    rfl

theorem run_expire (w : Workplace) (t : Timer) (now : Int) :
    ∃ u : Workplace, (expire t now).run w = .ok () u ∧
      u.coordinator = w.coordinator.perform now (.expire t) := by
  unfold expire
  rw [run_bind_ok run_coordinator, perform]
  by_cases ht : t ∈ w.coordinator.timers
  · rw [if_pos ht, if_pos ht, run_bind_ok (run_adjust _)]
    exact ⟨_, run_quietly _ _, coordinator_persist _ _⟩
  · rw [if_neg ht, if_neg ht]
    exact ⟨w, rfl, rfl⟩

theorem reachable_operate (h : Reachable w.coordinator) (now : Int) (op : Operation) :
    Reachable (left ((operate now op).run w)).coordinator := by
  rw [run_operate h.wellKept]
  split
  next stored =>
    cases hw : w.refusal 0 with
    | some refused =>
      rw [loadGroups, run_bind_error (run_admitted_of_refused hw)]
      exact h
    | none =>
      rw [loadGroups, run_bind_ok (run_admitted_of_granted hw)]
      exact h.step now (.loadGroups w.repository.groups)
  next t =>
    obtain ⟨u, hrun, hu⟩ := run_expire w t now
    rw [hrun, left, hu]
    exact h.step now (.expire t)
  next =>
    have hnext := perform_eq_tried w.coordinator now op
    cases ho : w.coordinator.tried now op with
    | error e => exact h
    | ok o =>
      rw [ho] at hnext
      have hleft : (left (conclude w (.ok o))).coordinator = w.coordinator.perform now op :=
        (coordinator_persist _ o.writes).trans hnext.symm
      rw [hleft]
      exact h.step now op

theorem run_operate_eq_error (hwk : WellKept w.coordinator.roster) {now : Int} {op : Operation} {e : Failure}
    (hrun : (operate now op).run w = .error e v) (hother : ∀ m, e ≠ .sync (.repository m)) :
    w.coordinator.tried now op = .error e ∧ v = w := by
  rw [run_operate hwk] at hrun
  split at hrun
  next stored =>
    cases hw : w.refusal 0 with
    | some refused =>
      rw [loadGroups, run_bind_error (run_admitted_of_refused hw)] at hrun
      cases hrun
      exact absurd rfl (hother refused.message)
    | none =>
      rw [loadGroups, run_bind_ok (run_admitted_of_granted hw)] at hrun
      cases hrun
  next t =>
    obtain ⟨u, hdone, -⟩ := run_expire w t now
    cases hdone.symm.trans hrun
  next => exact conclude_eq_error hrun hother

def operateAll (w : Workplace) (ops : List (Int × Operation)) : Workplace :=
  ops.foldl (fun w entry => left ((operate entry.1 entry.2).run w)) w

theorem reachable_operateAll (h : Reachable w.coordinator) (ops : List (Int × Operation)) :
    Reachable (operateAll w ops).coordinator := by
  induction ops generalizing w with
  | nil => exact h
  | cons entry ops ih => exact ih (reachable_operate h entry.1 entry.2)

theorem operateAll_without_failure (h : Reachable w.coordinator)
    (before after : List (Int × Operation)) {now : Int} {op : Operation} {e : Failure}
    (hrun : (operate now op).run (operateAll w before) = .error e v)
    (hother : ∀ m, e ≠ .sync (.repository m)) :
    operateAll w (before ++ (now, op) :: after) = operateAll w (before ++ after) := by
  obtain ⟨-, rfl⟩ := run_operate_eq_error (reachable_operateAll h before).wellKept hrun hother
  have hleft : left ((operate now op).run (operateAll w before)) = operateAll w before := by rw [hrun, left]
  simp only [operateAll, List.foldl_append, List.foldl_cons] at hleft ⊢
  rw [hleft]

theorem failure_leaves_no_trace (h : Reachable w.coordinator) (now : Int) (op : Operation)
    {e : Failure} (hrun : (operate now op).run w = .error e v)
    (hother : ∀ m, e ≠ .sync (.repository m)) :
    w.coordinator.tried now op = .error e ∧ v = w :=
  run_operate_eq_error h.wellKept hrun hother

def midWindow : Workplace where
  coordinator := (start .default .empty 0).performAll [
    (0, .act (.register "a" .boolean .null)),
    (0, .createGroup ⟨"g", "g", ["a", "b"], .bidirectional, none, .manual, true, none⟩),
    (1, .change "a" (.boolean true) .user)]
  repository := ⟨[⟨"g", "g", ["a", "b"], .bidirectional, none, .manual, true, none⟩]⟩
  refusal := fun _ => none

theorem failure_leaves_no_trace_midWindow :
    Reachable midWindow.coordinator ∧
      (operate 2 (.change "a" (.text "maybe") .user)).run midWindow =
        .error (.store (.typeMismatch "a" .boolean "text")) midWindow ∧
      midWindow.coordinator.tried 2 (.change "a" (.text "maybe") .user) =
        .error (.store (.typeMismatch "a" .boolean "text")) := by
  have hreach : Reachable midWindow.coordinator := (Reachable.start _ _ _).performAll _
  have hrun : (operate 2 (.change "a" (.text "maybe") .user)).run midWindow =
      .error (.store (.typeMismatch "a" .boolean "text")) midWindow := rfl
  exact ⟨hreach, hrun, (failure_leaves_no_trace hreach 2 _ hrun fun _ => by simp).1⟩

end Work

end LinkedControls
