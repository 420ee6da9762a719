import LinkedControls.Sync.Membership
import LinkedControls.Sync.Window

namespace LinkedControls

/-- What can happen to a coordinator. The last two are the expiry of a running timer and an action of
the host on the store, past the coordinator. -/
inductive Operation
  | createGroup (g : Group)
  | updateGroup (g : Group)
  | deleteGroup (id : String)
  | addMember (id control : String)
  | removeMember (id control : String)
  | setEnabled (id : String) (enabled : Bool)
  | loadGroups (stored : List Group)
  | addRule (r : Rule)
  | removeRule (id : String)
  | setCombinator (id : String) (f : Combinator)
  | change (control : String) (v : Value) (origin : Origin)
  | flush (id : String)
  | resolve (conflict : String) (v : Value) (resolver : String)
  | ignore (conflict : String)
  | shutdown
  | expire (t : Timer)
  | act (a : Store.Action)
deriving DecidableEq

namespace Coordinator

def after {ε α : Type} (c : Coordinator) (next : α → Coordinator) : Except ε α → Coordinator
  | .ok a => next a
  | .error _ => c

/-- The state after an operation at a given time. A timer that has been stopped does not act. -/
def perform (c : Coordinator) (now : Int) : Operation → Coordinator
  | .createGroup g => c.after (·.next) (c.createGroup g)
  | .updateGroup g => c.after (·.next) (c.updateGroup g)
  | .deleteGroup id => c.after (·.next) (c.deleteGroup id)
  | .addMember id control => c.after (·.next) (c.addMember id control)
  | .removeMember id control => c.after (·.next) (c.removeMember id control)
  | .setEnabled id enabled => c.after (·.next) (c.setEnabled id enabled)
  | .loadGroups stored => (c.loadGroups stored).2
  | .addRule r => c.after (·.2) (c.addRule r)
  | .removeRule id => c.after (·.2) (c.removeRule id)
  | .setCombinator group f => c.after id (c.setCombinator group f)
  | .change control v origin => c.after (·.2) (c.handleChange control v origin now)
  | .flush id => c.after (·.next) (c.flush id now)
  | .resolve id v resolver => c.after (·.2) (c.resolveConflict id v resolver now)
  | .ignore id => c.after (·.2) (c.ignoreConflict id now)
  | .shutdown => c.shutdown
  | .expire t => if t ∈ c.timers then (c.fire t now).1 else c
  | .act a => c.after (fun r => { c with store := r.1 }) (c.store.apply a)

def performAll (c : Coordinator) (run : List (Int × Operation)) : Coordinator :=
  run.foldl (fun c step => c.perform step.1 step.2) c

theorem performAll_append (c : Coordinator) (run more : List (Int × Operation)) :
    c.performAll (run ++ more) = (c.performAll run).performAll more := by
  simp [performAll]

inductive Reachable : Coordinator → Prop
  | start (settings : SyncSettings) (store : Store) (nextConflict : Nat) :
      Reachable (.start settings store nextConflict)
  | step {c : Coordinator} (now : Int) (op : Operation) :
      Reachable c → Reachable (c.perform now op)

theorem Reachable.performAll {c : Coordinator} (h : Reachable c) (run : List (Int × Operation)) :
    Reachable (c.performAll run) := by
  induction run generalizing c with
  | nil => exact h
  | cons step rest ih => exact ih (h.step step.1 step.2)

theorem Reachable.exists_run {c : Coordinator} (h : Reachable c) :
    ∃ settings store nextConflict run,
      c = (Coordinator.start settings store nextConflict).performAll run := by
  induction h with
  | start settings store nextConflict => exact ⟨settings, store, nextConflict, [], rfl⟩
  | step now op _ ih =>
    obtain ⟨settings, store, nextConflict, run, rfl⟩ := ih
    refine ⟨settings, store, nextConflict, run ++ [(now, op)], ?_⟩
    rw [performAll_append]
    rfl

theorem after_induction {ε α : Type} {P : Coordinator → Prop} {c : Coordinator}
    {next : α → Coordinator} {r : Except ε α} (hc : P c) (hok : ∀ a, r = .ok a → P (next a)) :
    P (c.after next r) := by
  cases r with
  | ok a => exact hok a rfl
  | error e => exact hc

end Coordinator

end LinkedControls
