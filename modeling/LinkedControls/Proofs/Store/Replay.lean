import LinkedControls.Proofs.Keyed
import LinkedControls.Proofs.Store.InPlace

/-!
The log of changes against the store. A registration is kept with the length that the log had when it
was made; what the log says after that about its control leads, one change after the other, from the
registered value to the value that the store holds.
-/

namespace LinkedControls

def Control.follow (c : Control) (change : Change) : Control :=
  if change.control = c.id then { c with value := change.after } else c

theorem Control.follow_id (c : Control) (change : Change) : (c.follow change).id = c.id := by
  unfold follow
  split <;> rfl

theorem foldl_follow_id (changes : List Change) (c : Control) :
    (changes.foldl Control.follow c).id = c.id := by
  induction changes generalizing c with
  | nil => rfl
  | cons change changes ih => rw [List.foldl_cons, ih, c.follow_id]

theorem replaceControl_eq_map {c d : Control} {cs : List Control} (h : (cs.map (·.id)).Nodup)
    (hd : d ∈ cs) (hid : d.id = c.id) :
    replaceControl c cs = cs.map fun e => if e.id = c.id then c else e := by
  induction cs with
  | nil => cases hd
  | cons e cs ih =>
    obtain ⟨hnew, hrest⟩ := List.nodup_cons.mp h
    unfold replaceControl
    split
    next he =>
      have hothers : cs.map (fun f => if f.id = c.id then c else f) = cs := by
        refine (List.map_congr_left fun f hf => if_neg fun hfc => hnew ?_).trans cs.map_id
        exact List.mem_map.mpr ⟨f, hf, hfc.trans he.symm⟩
      rw [List.map_cons, if_pos he, hothers]
    next he =>
      have hmem : d ∈ cs := (List.mem_cons.mp hd).resolve_left fun hde => he (hde ▸ hid)
      rw [List.map_cons, if_neg he, ih hrest hmem]

structure Registration where
  control : Control
  seen : Nat

namespace Registration

def replay (r : Registration) (log : List Change) : Control :=
  (log.drop r.seen).foldl Control.follow r.control

def changes (r : Registration) (log : List Change) : List Change :=
  (log.drop r.seen).filter (·.control == r.control.id)

def Chained (r : Registration) (log : List Change) (last : Value) : Prop :=
  (r.changes log).map (·.before) ++ [last] = r.control.value :: (r.changes log).map (·.after)

variable {r : Registration} {log : List Change} {change : Change}

@[simp]
theorem replay_id : (r.replay log).id = r.control.id := foldl_follow_id _ _

theorem replay_append (hseen : r.seen ≤ log.length) :
    r.replay (log ++ [change]) = (r.replay log).follow change := by
  simp [replay, List.drop_append_of_le_length hseen]

theorem changes_append (hseen : r.seen ≤ log.length) :
    r.changes (log ++ [change]) =
      if change.control = r.control.id then r.changes log ++ [change] else r.changes log := by
  by_cases h : change.control = r.control.id <;>
    simp [changes, List.drop_append_of_le_length hseen, h]

theorem replay_new (c : Control) : replay ⟨c, log.length⟩ log = c := by
  simp [replay]

theorem chained_new (c : Control) : Chained ⟨c, log.length⟩ log c.value := by
  simp [Chained, changes]

theorem Chained.append (h : r.Chained log (r.replay log).value) (hseen : r.seen ≤ log.length)
    (hbefore : change.control = r.control.id → change.before = (r.replay log).value) :
    r.Chained (log ++ [change]) (r.replay (log ++ [change])).value := by
  rw [Chained, changes_append hseen, replay_append hseen, Control.follow, replay_id]
  split
  next hid =>
    rw [List.map_append, List.map_append, List.map_singleton, hbefore hid, h]
    rfl
  next => exact h

end Registration

namespace Store

/-- A store, with the registrations of the controls that it holds, all changes that it has published,
its version right after each of them, and the number of actions that have succeeded. -/
structure Journal where
  store : Store
  registrations : List Registration
  published : List Change
  stamps : List UInt64
  successes : Nat

namespace Journal

def start : Journal := ⟨.empty, [], [], [], 0⟩

def enrolled (j : Journal) (s' : Store) : Action → List Registration
  | .register id _ _ => j.registrations ++ (s'.get? id).toList.map (⟨·, j.published.length⟩)
  | .write _ _ _ => j.registrations
  | .deregister id => j.registrations.filter (·.control.id != id)
  | .clear => []

def next (j : Journal) (a : Action) : Journal :=
  match j.store.perform a with
  | (.error _, s') => { j with store := s' }
  | (.ok change, s') =>
      { store := s'
        registrations := j.enrolled s' a
        published := j.published ++ change.toList
        stamps := j.stamps ++ change.toList.map fun _ => s'.version
        successes := j.successes + 1 }

def ofActions (actions : List Action) : Journal := actions.foldl next start

variable {j : Journal} {a : Action} {s' : Store} {change : Option Change}

theorem next_of_step (h : j.store.Step a change s') :
    j.next a =
      ⟨s', j.enrolled s' a, j.published ++ change.toList,
        j.stamps ++ change.toList.map fun _ => s'.version, j.successes + 1⟩ := by
  rw [next, perform_eq_ok.mpr h]

theorem next_of_error {e : StoreError} (h : (j.store.perform a).1 = .error e) : j.next a = j := by
  have hstore := perform_eq_error h
  unfold next
  split
  next s' hr =>
    obtain rfl : s' = j.store := by simpa [hr] using hstore
    rfl
  next hr => simp [hr] at h

theorem store_next : (j.next a).store = (j.store.perform a).2 := by
  unfold next
  split <;> simp [*]

/-- The versions count the successful actions, as far as 64 bits go. -/
structure Numbered (j : Journal) : Prop where
  stamps : j.published.map (·.version) = j.stamps
  version : j.store.version = UInt64.ofNat j.successes
  bounded : j.successes < UInt64.size → ∀ change ∈ j.published, change.version.toNat ≤ j.successes
  rising : j.successes < UInt64.size → j.published.Pairwise (·.version < ·.version)

theorem Numbered.start : Numbered .start :=
  ⟨rfl, rfl, fun _ _ h => absurd h List.not_mem_nil, fun _ => .nil⟩

theorem Numbered.next (h : j.Numbered) (hstep : j.store.Step a change s') : (j.next a).Numbered := by
  rw [next_of_step hstep]
  have hversion : s'.version = UInt64.ofNat (j.successes + 1) := by
    rw [hstep.version, h.version, UInt64.ofNat_add]
    rfl
  have hnew : ∀ c ∈ change.toList, c.version = s'.version := by
    cases hstep <;> simp
  have hnat (hsize : j.successes + 1 < UInt64.size) : s'.version.toNat = j.successes + 1 := by
    rw [hversion, UInt64.toNat_ofNat_of_lt' hsize]
  have hold (hsize : j.successes + 1 < UInt64.size) {c : Change} (hc : c ∈ j.published) :
      c.version.toNat < s'.version.toNat := by
    have hbound := h.bounded (Nat.lt_of_succ_lt hsize) c hc
    rw [hnat hsize]
    exact Nat.lt_succ_of_le hbound
  refine ⟨?_, hversion, fun hsize c hc => ?_, fun hsize => ?_⟩
  · rw [List.map_append, h.stamps, List.map_congr_left hnew]
  · rw [← hnat hsize]
    rcases List.mem_append.mp hc with hc | hc
    · exact (hold hsize hc).le
    · rw [hnew c hc]
  · refine List.pairwise_append.mpr ⟨h.rising (Nat.lt_of_succ_lt hsize), ?_, fun c hc d hd => ?_⟩
    · cases change <;> simp
    · rw [hnew d hd]
      exact UInt64.lt_iff_toNat_lt.mpr (hold hsize hc)

end Journal

structure Accounted (s : Store) (rs : List Registration) (log : List Change) : Prop where
  seen : ∀ r ∈ rs, r.seen ≤ log.length
  chained : ∀ r ∈ rs, r.Chained log (r.replay log).value
  replayed : s.controls = rs.map (·.replay log)

namespace Accounted

variable {s s' : Store} {rs : List Registration} {log : List Change} {r : Registration}

theorem get? (h : s.Accounted rs log) (hs : s.Sound) (hr : r ∈ rs) :
    s.get? r.control.id = some (r.replay log) := by
  have hmem : r.replay log ∈ s.controls := h.replayed ▸ List.mem_map.mpr ⟨r, hr, rfl⟩
  have hget := find?_key hs.nodup hmem
  rwa [Registration.replay_id] at hget

theorem enrol (h : s.Accounted rs log) (c : Control) (hs' : s'.controls = s.controls ++ [c]) :
    s'.Accounted (rs ++ [⟨c, log.length⟩]) log := by
  have cases {P : Registration → Prop} (hold : ∀ r ∈ rs, P r) (hnew : P ⟨c, log.length⟩) :
      ∀ r ∈ rs ++ [⟨c, log.length⟩], P r := by
    simpa [or_imp, forall_and] using And.intro hold hnew
  refine ⟨cases h.seen le_rfl, cases h.chained ?_, ?_⟩
  · rw [Registration.replay_new]
    exact Registration.chained_new c
  · rw [hs', h.replayed, List.map_append, List.map_singleton, Registration.replay_new]

theorem change (h : s.Accounted rs log) (hs : s.Sound) {c : Control} {change : Change}
    (hc : s.get? change.control = some c) (hbefore : change.before = c.value)
    (hs' : s'.controls = replaceControl { c with value := change.after } s.controls) :
    s'.Accounted rs (log ++ [change]) := by
  have hfound {r : Registration} (hr : r ∈ rs) (hid : change.control = r.control.id) :
      r.replay log = c := by
    have hget := h.get? hs hr
    rw [← hid, hc] at hget
    exact (Option.some.inj hget).symm
  refine ⟨fun r hr => ?_, fun r hr => ?_, ?_⟩
  · rw [List.length_append]
    exact Nat.le_add_right_of_le (h.seen r hr)
  · refine (h.chained r hr).append (h.seen r hr) fun hid => ?_
    rw [hbefore, hfound hr hid]
  · have hmap := replaceControl_eq_map (c := { c with value := change.after }) hs.nodup
      (mem_of_get? hc) rfl
    rw [hs', hmap, h.replayed, List.map_map]
    refine List.map_congr_left fun r hr => ?_
    rw [Registration.replay_append (h.seen r hr), Control.follow, Registration.replay_id,
      Function.comp_apply, Registration.replay_id]
    have hcid : c.id = change.control := id_of_get? hc
    by_cases hid : change.control = r.control.id
    · rw [if_pos hid, if_pos (hcid.trans hid).symm, hfound hr hid, hcid, hid]
    · rw [if_neg hid, if_neg fun hrc => hid (hrc.trans hcid).symm]

theorem strike (h : s.Accounted rs log) {id : String}
    (hs' : s'.controls = s.controls.filter (·.id != id)) :
    s'.Accounted (rs.filter (·.control.id != id)) log := by
  refine ⟨fun r hr => h.seen r (List.mem_of_mem_filter hr),
    fun r hr => h.chained r (List.mem_of_mem_filter hr), ?_⟩
  rw [hs', h.replayed, List.filter_map]
  refine congrArg (List.map _) (List.filter_congr fun r hr => ?_)
  simp

end Accounted

namespace Journal

variable {j : Journal} {a : Action} {s' : Store} {change : Option Change}

structure Faithful (j : Journal) : Prop where
  sound : j.store.Sound
  log : j.store.log = j.published
  numbered : j.Numbered
  accounted : j.store.Accounted j.registrations j.published

theorem Faithful.start : Faithful .start :=
  ⟨Reachable.empty.sound, rfl, .start, fun _ h => absurd h List.not_mem_nil,
    fun _ h => absurd h List.not_mem_nil, rfl⟩

theorem accounted_next (h : j.Faithful) (hstep : j.store.Step a change s') :
    s'.Accounted (j.enrolled s' a) (j.published ++ change.toList) := by
  cases hstep with
  | @register id k v w hnew hv =>
    have hget : List.find? (·.id == id) (j.store.controls ++ [⟨id, k, w⟩]) = some ⟨id, k, w⟩ := by
      rw [List.find?_append, show j.store.controls.find? (·.id == id) = none from hnew]
      simp
    rw [enrolled, Store.get?, hget, Option.toList_none, List.append_nil]
    exact h.accounted.enrol ⟨id, k, w⟩ rfl
  | write hc hv => exact h.accounted.change h.sound hc rfl rfl
  | deregister hc =>
    rw [enrolled, Option.toList_none, List.append_nil]
    exact h.accounted.strike rfl
  | clear =>
    exact ⟨fun _ hr => absurd hr List.not_mem_nil, fun _ hr => absurd hr List.not_mem_nil, rfl⟩

theorem Faithful.next (h : j.Faithful) (a : Action) : (j.next a).Faithful := by
  cases hanswer : (j.store.perform a).1 with
  | error e => rwa [next_of_error hanswer]
  | ok change =>
    have hstep : j.store.Step a change (j.store.perform a).2 := perform_eq_ok.mp (Prod.ext hanswer rfl)
    have hnumbered := h.numbered.next hstep
    rw [next_of_step hstep] at hnumbered ⊢
    exact ⟨h.sound.apply (apply_eq_ok.mpr hstep), hstep.log.trans (congrArg (· ++ _) h.log), hnumbered,
      accounted_next h hstep⟩

theorem Faithful.run (h : j.Faithful) (actions : List Action) :
    (actions.foldl Journal.next j).Faithful := by
  induction actions generalizing j with
  | nil => exact h
  | cons a rest ih => exact ih (h.next a)

theorem store_run (actions : List Action) :
    (actions.foldl next j).store = j.store.performAll actions := by
  induction actions generalizing j with
  | nil => rfl
  | cons a rest ih =>
    rw [List.foldl_cons, ih, store_next]
    rfl

end Journal

theorem log_replays (actions : List Action) :
    let j := Journal.ofActions actions
    j.store = Store.empty.performAll actions ∧
    j.store.log = j.published ∧
    j.published.map (·.version) = j.stamps ∧
    (j.successes < UInt64.size → j.published.Pairwise (·.version < ·.version)) ∧
    (∀ r ∈ j.registrations, ∃ c, j.store.get? r.control.id = some c ∧
      (r.changes j.published).map (·.before) ++ [c.value] =
        r.control.value :: (r.changes j.published).map (·.after)) ∧
    j.store.controls = j.registrations.map (·.replay j.published) := by
  intro j
  have h : j.Faithful := Journal.Faithful.start.run actions
  refine ⟨Journal.store_run actions, h.log, h.numbered.stamps, h.numbered.rising, fun r hr => ?_,
    h.accounted.replayed⟩
  exact ⟨_, h.accounted.get? h.sound hr, h.accounted.chained r hr⟩

theorem log_replays_registered_again :
    let j := Journal.ofActions [.register "a" .text (.text "p"), .write "a" (.text "q") .user,
      .write "b" (.text "x") .user, .write "a" (.text "r") .sync, .deregister "a",
      .register "a" .list (.text "s,t"), .write "a" .null .url]
    j.published.map (·.control) = ["a", "a", "a"] ∧ j.registrations.map (·.seen) = [2] ∧
    j.successes = 6 ∧ j.published.Pairwise (·.version < ·.version) :=
  ⟨by decide, by decide, by decide, (log_replays _).2.2.2.1 (by decide)⟩

end Store

end LinkedControls
