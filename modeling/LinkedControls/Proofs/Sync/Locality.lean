import LinkedControls.Proofs.Sync.Separation

/-!
What an operation that concerns one group depends on: it does the same wherever the same is held about
that group and its members, up to the ids of new conflicts and the serials of new timers.
-/

namespace LinkedControls

theorem Store.write_local {s s' : Store} {id : String} (h : s'.get? id = s.get? id) (v : Value)
    (origin : Origin) :
    (∃ e, s.write id v origin = .error e ∧ s'.write id v origin = .error e) ∨
      ∃ t a t' a', s.write id v origin = .ok (t, a) ∧ s'.write id v origin = .ok (t', a') ∧
        a'.before = a.before ∧ a'.after = a.after ∧
        ∀ m, s'.get? m = s.get? m → t'.get? m = t.get? m := by
  have hkept : s'.kept id v = s.kept id v := kept_congr (by rw [kindOf?, h, kindOf?])
  cases hk : s.kept id v with
  | error e => exact .inl ⟨e, write_eq_error.mpr hk, write_eq_error.mpr (hkept.trans hk)⟩
  | ok w =>
    obtain ⟨t, a, hw⟩ := write_of_kept hk origin
    obtain ⟨t', a', hw'⟩ := write_of_kept (hkept.trans hk) origin
    obtain ⟨c, _, hc, hkw, ha, -⟩ := write_eq_ok hw
    obtain ⟨c', _, hc', hkw', ha', -⟩ := write_eq_ok hw'
    obtain rfl := Option.some.inj (hc'.symm.trans (h.trans hc))
    obtain rfl := Except.ok.inj (hkw'.symm.trans (hkept.trans hkw))
    have hbefore : a'.before = a.before := by rw [ha, ha']
    have hafter : a'.after = a.after := by rw [ha, ha']
    refine .inr ⟨t, a, t', a', hw, hw', hbefore, hafter, fun m hm => ?_⟩
    rw [get?_write hw, get?_write hw', hm, h, hafter]

section

variable {g : Group} {rules rules' : List Rule} {p : Parcel} {s s' : Store}

theorem deliver_local {target : String}
    (hout : p.outgoing g rules' target = p.outgoing g rules target)
    (h : s'.get? target = s.get? target) :
    (deliver g rules' p s' target).2 = (deliver g rules p s target).2 ∧
      ∀ m, s'.get? m = s.get? m →
        (deliver g rules' p s' target).1.get? m = (deliver g rules p s target).1.get? m := by
  have hvalue := Store.valueOf_congr h
  rw [deliver, deliver, hout]
  cases p.outgoing g rules target with
  | error reason => exact ⟨by rw [hvalue], fun _ hm => hm⟩
  | ok v =>
    rcases Store.write_local h v .sync with
      ⟨e, he, he'⟩ | ⟨t, a, t', a', ht, ht', hbefore, hafter, hsame⟩
    · simp only [he, he', hvalue, true_and]
      exact fun _ hm => hm
    · simp only [ht, ht', hbefore, hafter, true_and]
      exact hsame

theorem deliverAll_local (hout : ∀ target, p.outgoing g rules' target = p.outgoing g rules target)
    {targets : List String} (h : ∀ m ∈ targets, s'.get? m = s.get? m) :
    (deliverAll g rules' p s' targets).2 = (deliverAll g rules p s targets).2 ∧
      ∀ m, s'.get? m = s.get? m →
        (deliverAll g rules' p s' targets).1.get? m = (deliverAll g rules p s targets).1.get? m := by
  induction targets generalizing s s' with
  | nil => exact ⟨rfl, fun _ hm => hm⟩
  | cons target rest ih =>
    obtain ⟨hevent, hstore⟩ := deliver_local (hout target) (h target List.mem_cons_self)
    obtain ⟨hevents, hstores⟩ := ih fun m hm => hstore m (h m (List.mem_cons_of_mem _ hm))
    simp only [deliverAll, hevent, hevents, true_and]
    exact fun m hm => hstores m (hstore m hm)

theorem find?_governs_filter (rules : List Rule) (group source target : String) :
    rules.find? (·.governs group source target) =
      (rules.filter (·.group == group)).find? (·.governs group source target) := by
  rw [List.find?_filter]
  congr 1
  funext r
  rcases eq_or_ne r.group group with hg | hg
  · simp [hg]
  · simp [hg, Rule.governs, Rule.isFor]

theorem propagate_local
    (hrules : rules'.filter (·.group == g.id) = rules.filter (·.group == g.id))
    (h : ∀ m ∈ g.members, s'.get? m = s.get? m) :
    (propagate s' g rules' p).2 = (propagate s g rules p).2 ∧
      ∀ m, s'.get? m = s.get? m →
        (propagate s' g rules' p).1.get? m = (propagate s g rules p).1.get? m := by
  have htargets : ∀ m ∈ p.targets g, s'.get? m = s.get? m := fun m hm =>
    h m (List.mem_filter.mp hm).1
  cases hp : p.isHeldBack g with
  | true =>
    rw [propagate_of_heldBack s rules hp, propagate_of_heldBack s' rules' hp]
    refine ⟨List.map_congr_left fun m hm => ?_, fun _ hm => hm⟩
    rw [holdBack, holdBack, Store.valueOf_congr (htargets m hm)]
  | false =>
    have hout (target : String) : p.outgoing g rules' target = p.outgoing g rules target := by
      rw [Parcel.outgoing, find?_governs_filter, hrules, ← find?_governs_filter, Parcel.outgoing]
    rw [propagate, propagate, hp]
    exact deliverAll_local hout htargets

end

def Conflict.blanked (known : List String) (k : Conflict) : Conflict :=
  if k.id ∈ known then k else { k with id := "" }

namespace Coordinator

variable {c d : Coordinator} {l k : LiveGroup} {id i control : String} {known members : List String}
  {op : Operation} {now : Int} {last : Competing}

def raised (l : LiveGroup) (last : Competing) (decision : Option (Option String × Value)) (now : Int)
    (id : String) : Conflict :=
  match decision with
  | some (_, v) =>
      (Conflict.pending id l.id last.control l.window).resolve v l.group.policy.name now
  | none => .pending id l.id last.control l.window

theorem addConflict_eq (c : Coordinator) (l : LiveGroup) (last : Competing)
    (decision : Option (Option String × Value)) (now : Int) :
    c.addConflict l last decision now = { c with
      conflicts := c.conflicts ++ [raised l last decision now (conflictId c.nextConflict)]
      nextConflict := c.nextConflict + 1 } := by
  cases decision with
  | none => rfl
  | some sent => rfl

theorem group_raised (l : LiveGroup) (last : Competing) (decision : Option (Option String × Value))
    (now : Int) (id : String) : (raised l last decision now id).group = l.id := by
  cases decision with
  | none => rfl
  | some sent => exact Conflict.group_resolve ..

theorem blanked_raised (hid : id ∉ known) {decision : Option (Option String × Value)} :
    (raised l last decision now id).blanked known = raised l last decision now "" := by
  cases decision with
  | none => exact if_neg hid
  | some sent => exact if_neg hid

structure InStep (known members : List String) (i : String) (c d : Coordinator) : Prop where
  alike : Alike i c d
  conflicts : (d.conflictsOf i).map (·.blanked known) = (c.conflictsOf i).map (·.blanked known)
  store : ∀ m ∈ members, d.store.get? m = c.store.get? m

theorem rulesFor_filter (rules : List Rule) (keep : Rule → Bool) (i : String) :
    (rules.filter keep).filter (·.group == i) = (rules.filter (·.group == i)).filter keep :=
  List.filter_comm ..

namespace InStep

theorem update (h : InStep known members i c d) {f : LiveGroup → LiveGroup}
    (hid : ∀ l, l.id = i → (f l).id = i) : InStep known members i (c.update i f) (d.update i f) := by
  refine ⟨⟨h.alike.settings, ?_, h.alike.rules, h.alike.combinator, h.alike.timers⟩, h.conflicts,
    h.store⟩
  rw [live?_update hid, live?_update hid, h.alike.live]

theorem stopTimer (h : InStep known members i c d) (timer : Option Nat) :
    InStep known members i (c.stopTimer timer) (d.stopTimer timer) := by
  refine ⟨⟨h.alike.settings, h.alike.live, h.alike.rules, h.alike.combinator, ?_⟩, h.conflicts,
    h.store⟩
  have htimers (e : Coordinator) : (e.stopTimer timer).timersOf i =
      (e.timersOf i).filter fun t => some t.serial != timer := List.filter_comm ..
  rw [htimers, htimers, h.alike.timers]

theorem cancel (h : InStep known members i c d) (hid : l.id = i) :
    InStep known members i (c.cancel l) (d.cancel l) := by
  subst hid
  exact (h.stopTimer l.timer).update fun _ hid => hid

theorem disarm (h : InStep known members i c d) (hid : l.id = i) :
    InStep known members i (c.disarm l) (d.disarm l) := by
  subst hid
  exact (h.stopTimer l.timer).update fun _ hid => hid

theorem drop (h : InStep known members i c d) (hid : l.id = i) :
    InStep known members i (c.drop l) (d.drop l) := by
  subst hid
  have hconflicts (e : Coordinator) : (e.drop l).conflictsOf l.id = [] := by
    simp [conflictsOf, Coordinator.drop, List.filter_filter]
  have hrules (e : Coordinator) : (e.drop l).rulesFor l.id = [] := by
    simp [rulesFor, Coordinator.drop, List.filter_filter]
  refine ⟨⟨h.alike.settings, ?_, ?_, ?_, (h.stopTimer l.timer).alike.timers⟩, ?_, h.store⟩
  · rw [live?_drop, live?_drop, if_pos rfl, if_pos rfl]
  · rw [hrules, hrules]
  · exact lookup_without_self.trans lookup_without_self.symm
  · rw [hconflicts, hconflicts]

theorem send (h : InStep known l.group.members i c d) (hid : l.id = i) (p : Parcel) (now : Int) :
    InStep known l.group.members i (c.send l p now) (d.send l p now) := by
  subst hid
  obtain ⟨hevents, hstores⟩ := propagate_local (p := p) h.alike.rules h.store
  have hsent : InStep known l.group.members l.id
      { c with store := (propagate c.store l.group c.rules p).1 }
      { d with store := (propagate d.store l.group d.rules p).1 } :=
    ⟨⟨h.alike.settings, h.alike.live, h.alike.rules, h.alike.combinator, h.alike.timers⟩,
      h.conflicts, fun m hm => hstores m (h.store m hm)⟩
  have hsend (e : Coordinator) : e.send l p now =
      ({ e with store := (propagate e.store l.group e.rules p).1 } : Coordinator).update l.id fun k =>
        recordSent k (propagate e.store l.group e.rules p).2 now := rfl
  rw [hsend, hsend, hevents]
  exact hsent.update fun _ hid => hid

theorem decision_eq (h : InStep known members l.id c d) (last : Competing) :
    d.decision l last = c.decision l last := by
  rw [decision, h.alike.combinator, decision]

theorem settle (h : InStep known members l.id c d) (hnew : conflictId c.nextConflict ∉ known)
    (hnew' : conflictId d.nextConflict ∉ known) (last : Competing) (now : Int) :
    InStep known members l.id (c.settle l last now).2 (d.settle l last now).2 := by
  rw [Coordinator.settle, Coordinator.settle, h.alike.combinator]
  split
  · simp only [addConflict_eq]
    refine ⟨⟨h.alike.settings, h.alike.live, h.alike.rules, h.alike.combinator, h.alike.timers⟩, ?_,
      h.store⟩
    have hraised (e : Coordinator) (j : Conflict) (hj : j.group = l.id) :
        (e.conflicts ++ [j]).filter (·.group == l.id) = e.conflictsOf l.id ++ [j] := by
      simp [conflictsOf, hj]
    rw [conflictsOf, conflictsOf, hraised d _ (group_raised ..), hraised c _ (group_raised ..),
      List.map_append, List.map_append, h.conflicts, List.map_singleton, List.map_singleton,
      blanked_raised hnew, blanked_raised hnew']
  · exact h

theorem closeWindow (h : InStep known l.group.members i c d) (hl : c.live? i = some l)
    (hnew : conflictId c.nextConflict ∉ known) (hnew' : conflictId d.nextConflict ∉ known)
    (now : Int) :
    InStep known l.group.members i (c.closeWindow i now).1 (d.closeWindow i now).1 := by
  obtain rfl := id_of_live? hl
  have hl' : d.live? l.id = some l := h.alike.live.trans hl
  have hcleared : InStep known l.group.members l.id (c.clearWindow l.id) (d.clearWindow l.id) :=
    h.update fun _ hid => hid
  cases hlast : l.window.getLast? with
  | none =>
    have hempty := List.getLast?_eq_none_iff.mp hlast
    rw [closeWindow_of_empty hl hempty, closeWindow_of_empty hl' hempty]
    exact hcleared
  | some last =>
    have hsettled := hcleared.settle hnew hnew' last now
    cases hdecision : c.decision l last with
    | none =>
      rw [closeWindow_of_waiting hl hlast hdecision,
        closeWindow_of_waiting hl' hlast ((h.decision_eq last).trans hdecision)]
      exact hsettled
    | some sent =>
      rw [closeWindow_of_sent hl hlast hdecision,
        closeWindow_of_sent hl' hlast ((h.decision_eq last).trans hdecision)]
      exact hsettled.send rfl _ now

theorem expel (h : InStep known members i c d) (hid : l.id = i) (control : String) :
    InStep known members i (c.expel control l).1 (d.expel control l).1 := by
  rcases expel_cases c control l with ⟨hv, he, -⟩ | ⟨hv, he⟩
  · rcases expel_cases d control l with ⟨-, he', -⟩ | ⟨hv', -⟩
    · subst hid
      have hkept := (h.cancel rfl).update (f := fun k => { k with group := l.group.without control })
        fun _ _ => rfl
      rw [he, he']
      refine ⟨⟨hkept.alike.settings, hkept.alike.live, ?_, hkept.alike.combinator,
        hkept.alike.timers⟩, hkept.conflicts, hkept.store⟩
      have hrules := congrArg (List.filter fun r => !r.touches l.id control) h.alike.rules
      rw [rulesFor, rulesFor, ← rulesFor_filter, ← rulesFor_filter] at hrules
      exact hrules
    · exact absurd hv (by simp [hv'])
  · rcases expel_cases d control l with ⟨hv', -, -⟩ | ⟨-, he'⟩
    · exact absurd hv' (by simp [hv])
    · rw [he, he']
      exact h.drop hid

theorem replaceConflict (h : InStep known members i c d) {j : Conflict}
    (hc : ∀ k ∈ c.conflicts, k.id = j.id → k.group = j.group)
    (hd : ∀ k ∈ d.conflicts, k.id = j.id → k.group = j.group)
    (hsame : d.conflictsOf i = c.conflictsOf i) :
    InStep known members i (c.replaceConflict j) (d.replaceConflict j) := by
  refine ⟨⟨h.alike.settings, h.alike.live, h.alike.rules, h.alike.combinator, h.alike.timers⟩, ?_,
    h.store⟩
  rw [conflictsOf_replaceConflict hc, conflictsOf_replaceConflict hd, hsame]

end InStep

structure Resembles (known members : List String) (i : String) (c d : Coordinator) : Prop where
  live : (d.live? i).map LiveGroup.seen = (c.live? i).map LiveGroup.seen
  rules : d.rulesFor i = c.rulesFor i
  combinator : d.combinator? i = c.combinator? i
  conflicts : (d.conflictsOf i).map (·.blanked known) = (c.conflictsOf i).map (·.blanked known)
  due : (d.timersOf i).map (·.due) = (c.timersOf i).map (·.due)
  store : ∀ m ∈ members, d.store.get? m = c.store.get? m

theorem InStep.resembles (h : InStep known members i c d) : Resembles known members i c d :=
  ⟨by rw [h.alike.live], h.alike.rules, h.alike.combinator, h.conflicts, by rw [h.alike.timers],
    h.store⟩

theorem InStep.note (h : InStep known members l.id c d) (hl : c.live? l.id = some l) (w : Competing)
    (now : Int) : Resembles known members l.id (c.note l w now) (d.note l w now) := by
  have hl' : d.live? l.id = some l := h.alike.live.trans hl
  have htimers (e : Coordinator) : (e.note l w now).timersOf l.id =
      (e.stopTimer l.timer).timersOf l.id ++ [e.freshTimer l now] := by
    have hfresh : [e.freshTimer l now].filter (·.group == l.id) = [e.freshTimer l now] := by
      simp [freshTimer]
    have hnoted : (e.note l w now).timers = (e.stopTimer l.timer).timers ++ [e.freshTimer l now] := rfl
    rw [timersOf, hnoted, List.filter_append, hfresh, timersOf]
  refine ⟨?_, h.alike.rules, h.alike.combinator, h.conflicts, ?_, h.store⟩
  · rw [live?_note hl, live?_note hl']
    rfl
  · rw [htimers, htimers, (h.stopTimer l.timer).alike.timers, List.map_append, List.map_append]
    simp [freshTimer, h.alike.settings]

structure Matches (i : String) (c d : Coordinator) : Prop where
  alike : Alike i c d
  conflicts : d.conflictsOf i = c.conflictsOf i
  store : ∀ m ∈ c.membersIn i, d.store.get? m = c.store.get? m

namespace Matches

theorem inStep (h : Matches i c d) (known : List String) : InStep known (c.membersIn i) i c d :=
  ⟨h.alike, by rw [h.conflicts], h.store⟩

theorem liveOf? (h : Matches l.id c d) (hc : Reachable c) (hd : Reachable d)
    (hl : c.liveOf? control = some l) : d.liveOf? control = some l := by
  have hlive := live?_of_wellKept hc.wellKept (mem_of_liveOf? hl)
  have hmem : l ∈ d.groups := mem_of_live? (h.alike.live.trans hlive)
  exact find?_eq_of_contains hd.wellKept (fun _ hk => hk) hmem (mem_of_find?_contains hl)

theorem conflict? {j : Conflict} (h : Matches j.group c d) (hd : Reachable d)
    (hj : c.conflict? id = some j) : d.conflict? id = some j := by
  have hrecord : j ∈ c.conflictsOf j.group := List.mem_filter.mpr ⟨mem_of_conflict? hj, by simp⟩
  rw [← h.conflicts] at hrecord
  rw [← id_of_conflict? hj]
  exact conflict?_of_mem hd.numbered (List.mem_filter.mp hrecord).1

theorem addressed? (h : Matches i c d) (hc : Reachable c) (hd : Reachable d)
    (hop : c.addressed? op = some i) : d.addressed? op = some i := by
  cases op with
  | change control v origin =>
    obtain ⟨l, hl, rfl⟩ := Option.map_eq_some_iff.mp hop
    exact Option.map_eq_some_iff.mpr ⟨l, h.liveOf? hc hd hl, rfl⟩
  | resolve id v resolver =>
    obtain ⟨j, hj, rfl⟩ := Option.map_eq_some_iff.mp hop
    exact Option.map_eq_some_iff.mpr ⟨j, h.conflict? hd hj, rfl⟩
  | ignore id =>
    obtain ⟨j, hj, rfl⟩ := Option.map_eq_some_iff.mp hop
    exact Option.map_eq_some_iff.mpr ⟨j, h.conflict? hd hj, rfl⟩
  | _ => exact hop

theorem change (h : Matches l.id c d) (hc : Reachable c) (hd : Reachable d)
    (hl : c.liveOf? control = some l) (v : Value) (origin : Origin) (now : Int) :
    Resembles known (c.membersIn l.id) l.id (c.perform now (.change control v origin))
      (d.perform now (.change control v origin)) := by
  have hlive := live?_of_wellKept hc.wellKept (mem_of_liveOf? hl)
  have hl' := h.liveOf? hc hd hl
  have hcontrol := mem_membersIn_of_liveOf? hc.wellKept hl
  rcases Store.write_local (h.store control hcontrol) v origin with
    ⟨e, he, he'⟩ | ⟨t, a, t', a', ht, ht', -, hafter, hsame⟩
  · simp only [perform, handleChange_of_refused he, handleChange_of_refused he', after]
    exact (h.inStep known).resembles
  · have hstored : InStep known (c.membersIn l.id) l.id { c with store := t } { d with store := t' } :=
      ⟨⟨h.alike.settings, h.alike.live, h.alike.rules, h.alike.combinator, h.alike.timers⟩,
        (h.inStep known).conflicts, fun m hm => hsame m (h.store m hm)⟩
    simp only [perform, handleChange_of_owned ht hl, handleChange_of_owned ht' hl', after, hafter]
    split
    · exact hstored.note hlive _ now
    · exact hstored.resembles

theorem fire {t : Timer} (h : Matches t.group c d) (hnew : conflictId c.nextConflict ∉ known)
    (hnew' : conflictId d.nextConflict ∉ known) (now : Int) :
    InStep known (c.membersIn t.group) t.group (c.fire t now).1 (d.fire t now).1 := by
  have hstopped := (h.inStep known).stopTimer (some t.serial)
  rcases fire_cases c t now with ⟨he, hno⟩ | ⟨l, hl, hgeneration, henabled, he⟩
  · rcases fire_cases d t now with ⟨he', -⟩ | ⟨l, hl, hgeneration, henabled, -⟩
    · rw [he, he']
      exact hstopped
    · exact absurd ⟨hgeneration, henabled⟩ (hno l (h.alike.live.symm.trans hl))
  · rcases fire_cases d t now with ⟨-, hno⟩ | ⟨-, -, -, -, he'⟩
    · exact absurd ⟨hgeneration, henabled⟩ (hno l (h.alike.live.trans hl))
    · rw [he, he']
      rw [membersIn_of_live? hl] at hstopped ⊢
      have hcleared : ((c.stopTimer (some t.serial)).update t.group fun k =>
          { k with timer := none }).live? t.group = some { l with timer := none } :=
        live?_update_self (c := c.stopTimer (some t.serial)) (fun _ hid => hid) hl
      have hupdated := hstopped.update (f := fun k => { k with timer := none }) fun _ hid => hid
      exact hupdated.closeWindow (l := { l with timer := none }) hcleared hnew hnew' now

theorem flush {o : Outcome Unit} (h : Matches i c d) (hnew : conflictId c.nextConflict ∉ known)
    (hnew' : conflictId d.nextConflict ∉ known) (ho : c.flush i now = .ok o) :
    ∃ o', d.flush i now = .ok o' ∧ InStep known (c.membersIn i) i o.next o'.next := by
  obtain ⟨l, hl, hcases⟩ := flush_eq_ok ho
  have hl' := h.alike.live.trans hl
  have hdisarmed := (h.inStep known).disarm (id_of_live? hl)
  rcases hcases with ⟨hoff, he⟩ | ⟨hon, he⟩
  · exact ⟨_, flush_of_paused hl' hoff now, he ▸ hdisarmed⟩
  · refine ⟨_, flush_of_enabled hl' hon now, ?_⟩
    obtain rfl := id_of_live? hl
    obtain ⟨generation, hlive⟩ := (unwound_disarm hl).live
    rw [membersIn_of_live? hl] at hdisarmed ⊢
    rw [he]
    exact hdisarmed.closeWindow (l := { l with timer := none, generation := generation }) hlive hnew
      hnew' now

theorem replaceConflict {j j' : Conflict} (h : Matches j.group c d) (hc : Reachable c)
    (hd : Reachable d) (hj : c.conflict? id = some j) (hid : j'.id = j.id)
    (hgroup : j'.group = j.group) :
    InStep known (c.membersIn j.group) j.group (c.replaceConflict j') (d.replaceConflict j') := by
  refine (h.inStep known).replaceConflict ?_ ?_ h.conflicts
  · rw [hid, hgroup]
    exact group_of_conflict_id hc.numbered (mem_of_conflict? hj)
  · rw [hid, hgroup]
    exact group_of_conflict_id hd.numbered (mem_of_conflict? (h.conflict? hd hj))

theorem resolve {j : Conflict} (h : Matches j.group c d) (hc : Reachable c) (hd : Reachable d)
    (hj : c.conflict? id = some j) (v : Value) (resolver : String) (now : Int) :
    InStep known (c.membersIn j.group) j.group (c.perform now (.resolve id v resolver))
      (d.perform now (.resolve id v resolver)) := by
  have hj' := h.conflict? hd hj
  cases hp : j.isPending with
  | false =>
    obtain ⟨hstands, -⟩ := settled_stands hc.numbered hj hp v resolver now
    obtain ⟨hstands', -⟩ := settled_stands hd.numbered hj' hp v resolver now
    simp only [perform, hstands, hstands', after]
    exact h.inStep known
  | true =>
    have hreplaced : InStep known (c.membersIn j.group) j.group
        (c.replaceConflict (j.resolve v resolver now)) (d.replaceConflict (j.resolve v resolver now)) :=
      h.replaceConflict hc hd hj (j.id_resolve v resolver now) (j.group_resolve v resolver now)
    by_cases hon : ∃ l, c.live? j.group = some l ∧ l.group.enabled = true
    · obtain ⟨l, hl, he⟩ := hon
      have hl' := h.alike.live.trans hl
      simp only [perform, resolveConflict_of_pending hj hp hl he,
        resolveConflict_of_pending hj' hp hl' he, after]
      have hid := id_of_live? hl
      rw [membersIn_of_live? hl] at hreplaced ⊢
      have hsent := hreplaced.send hid ⟨none, j.control, v⟩ now
      rw [rephase, rephase, hid]
      exact hsent.update fun _ hid => hid
    · have hoff : ∀ l, c.live? j.group = some l → l.group.enabled = false := fun l hl =>
        Bool.eq_false_iff.mpr fun he => hon ⟨l, hl, he⟩
      have hoff' : ∀ l, d.live? j.group = some l → l.group.enabled = false := h.alike.live ▸ hoff
      simp only [perform, resolveConflict_of_off hj hp hoff, resolveConflict_of_off hj' hp hoff', after]
      exact hreplaced

end Matches

theorem after_local {ε α : Type} {P : Coordinator → Coordinator → Prop} {next : α → Coordinator}
    {r r' : Except ε α} (hstay : P c d)
    (hok : ∀ a, r = .ok a → ∃ a', r' = .ok a' ∧ P (next a) (next a'))
    (hback : ∀ a', r' = .ok a' → ∃ a, r = .ok a) : P (c.after next r) (d.after next r') := by
  cases r with
  | ok a =>
    obtain ⟨a', rfl, h⟩ := hok a rfl
    exact h
  | error e =>
    cases r' with
    | ok a' =>
      obtain ⟨a, ha⟩ := hback a' rfl
      cases ha
    | error e' => exact hstay

theorem Matches.perform (h : Matches i c d) (hc : Reachable c) (hd : Reachable d)
    (hop : c.addressed? op = some i) (hnew : conflictId c.nextConflict ∉ known)
    (hnew' : conflictId d.nextConflict ∉ known) (now : Int) :
    Resembles known (c.membersIn i) i (c.perform now op) (d.perform now op) := by
  have hsame := h.inStep known
  cases op with
  | change control v origin =>
    obtain ⟨l, hl, rfl⟩ := Option.map_eq_some_iff.mp hop
    exact h.change hc hd hl v origin now
  | expire t =>
    obtain rfl := Option.some.inj hop
    have hrunning : t ∈ d.timers ↔ t ∈ c.timers := by
      have hof (e : Coordinator) : t ∈ e.timers ↔ t ∈ e.timersOf t.group := by simp [mem_timersOf]
      rw [hof, hof, h.alike.timers]
    simp only [Coordinator.perform, hrunning]
    split
    · exact (h.fire hnew hnew' now).resembles
    · exact hsame.resembles
  | flush id =>
    obtain rfl := Option.some.inj hop
    refine (after_local hsame (fun o ho => h.flush hnew hnew' ho) fun o' ho' => ?_).resembles
    obtain ⟨l, hl, -⟩ := flush_eq_ok ho'
    exact flush_of_live? (h.alike.live.symm.trans hl) now
  | resolve id v resolver =>
    obtain ⟨j, hj, rfl⟩ := Option.map_eq_some_iff.mp hop
    exact (h.resolve hc hd hj v resolver now).resembles
  | ignore id =>
    obtain ⟨j, hj, rfl⟩ := Option.map_eq_some_iff.mp hop
    simp only [Coordinator.perform, ignoreConflict_of_conflict? hj,
      ignoreConflict_of_conflict? (h.conflict? hd hj), after]
    exact (h.replaceConflict hc hd hj (Conflict.id_ignore now) (Conflict.group_ignore now)).resembles
  | setEnabled id enabled =>
    obtain rfl := Option.some.inj hop
    refine (after_local hsame (fun o ho => ?_) fun o' ho' => ?_).resembles
    · obtain ⟨l, hl, he⟩ := setEnabled_eq_ok ho
      have hid := id_of_live? hl
      refine ⟨_, setEnabled_eq (h.alike.live.trans hl) enabled, ?_⟩
      have hbefore : InStep known (c.membersIn id) id (if enabled then c else c.cancel l)
          (if enabled then d else d.cancel l) := by
        split
        · exact hsame
        · exact hsame.cancel hid
      rw [he, hid]
      exact hbefore.update fun _ _ => hid
    · obtain ⟨l, hl, -⟩ := setEnabled_eq_ok ho'
      exact setEnabled_of_live? (h.alike.live.symm.trans hl) enabled
  | removeMember id control =>
    obtain rfl := Option.some.inj hop
    refine (after_local hsame (fun o ho => ?_) fun o' ho' => ?_).resembles
    · obtain ⟨l, hl, hm, he⟩ := removeMember_eq_ok ho
      exact ⟨_, removeMember_of_mem (h.alike.live.trans hl) hm,
        he ▸ hsame.expel (id_of_live? hl) control⟩
    · obtain ⟨l, hl, hm, -⟩ := removeMember_eq_ok ho'
      exact ⟨_, removeMember_of_mem (h.alike.live.symm.trans hl) hm⟩
  | _ => cases hop

end Coordinator

end LinkedControls
