import LinkedControls.Proofs.Sync.Calls
import LinkedControls.Proofs.Sync.Loading
import LinkedControls.Proofs.Sync.Rulebook
import LinkedControls.Proofs.Sync.Sending
import LinkedControls.Sync.Status

/-!
Histories as parts of one long log for each group, which begins when the group comes into the
coordinator and gets the events of every sending. A history holds the newest ones.
-/

namespace LinkedControls

theorem History.record_append (h : History) (events more : List Event) :
    h.record (events ++ more) = (h.record events).record more :=
  List.foldl_append

theorem History.recent_eq (h : History) (limit : Option Nat) :
    h.recent limit = limit.elim h.events h.events.take := by
  cases limit with
  | none => rfl
  | some n => rfl

namespace Coordinator

variable {c d e : Coordinator} {l k : LiveGroup} {id i control : String} {op : Operation} {now : Int}
  {logs : String → List Event}

def enters (c : Coordinator) (id : String) : Operation → Bool
  | .createGroup g => g.id == id && g.isValid && (c.live? id).isNone
  | .loadGroups stored => (lastNamed id (c.admitted stored)).isSome
  | _ => false

def auditLog (c : Coordinator) (id : String) (log : List Event) :
    List (Int × Operation) → List Event
  | [] => log
  | (now, op) :: rest =>
      (c.perform now op).auditLog id (if c.enters id op then [] else log ++ c.recorded id op) rest

def Retains (c : Coordinator) (id : String) (d : Coordinator) : Prop :=
  ∀ k, d.live? id = some k → ∃ l, c.live? id = some l ∧ k.history = l.history

namespace Retains

theorem trans (h : Retains c id d) (h' : Retains d id e) : Retains c id e := by
  intro k hk
  obtain ⟨m, hm, hsame⟩ := h' k hk
  obtain ⟨l, hl, hsame'⟩ := h m hm
  exact ⟨l, hl, hsame.trans hsame'⟩

theorem of_live? (h : d.live? id = c.live? id) : Retains c id d := by
  intro k hk
  exact ⟨k, h.symm.trans hk, rfl⟩

theorem of_groups (h : d.groups = c.groups) : Retains c id d := .of_live? (live?_congr h)

theorem refl (c : Coordinator) (id : String) : Retains c id c := .of_groups rfl

end Retains

theorem retains_update {f : LiveGroup → LiveGroup} (hid : ∀ l, l.id = i → (f l).id = i)
    (hf : ∀ l, (f l).history = l.history) : Retains c id (c.update i f) := by
  intro k hk
  rw [live?_update hid] at hk
  split at hk
  · obtain ⟨l, hl, rfl⟩ := Option.map_eq_some_iff.mp hk
    exact ⟨l, hl, hf l⟩
  · exact ⟨k, hk, rfl⟩

theorem retains_cancel (c : Coordinator) (id : String) (l : LiveGroup) : Retains c id (c.cancel l) :=
  retains_update (c := c.stopTimer l.timer) (fun _ h => h) fun _ => rfl

theorem retains_drop (c : Coordinator) (id : String) (l : LiveGroup) : Retains c id (c.drop l) := by
  intro k hk
  rw [live?_drop] at hk
  split at hk
  · cases hk
  · exact ⟨k, hk, rfl⟩

theorem retains_expel (c : Coordinator) (id control : String) (l : LiveGroup) :
    Retains c id (c.expel control l).1 := by
  rcases expel_cases c control l with ⟨-, he, -⟩ | ⟨-, he⟩
  · have hgroup : Retains c id ((c.cancel l).update l.id fun k =>
        { k with group := l.group.without control }) :=
      (retains_cancel c id l).trans (retains_update (fun _ _ => rfl) fun _ => rfl)
    rw [he]
    exact hgroup.trans (.of_groups rfl)
  · rw [he]
    exact retains_drop c id l

theorem retains_detachAll (hwk : WellKept c.roster) (controls : List String) (keep : String) :
    Retains c id (c.detachAll controls keep).1 :=
  detachAll_of_expel hwk (.refl c id) (fun d l m _ hd _ _ _ => hd.trans (retains_expel d id m l))
    controls

theorem retains_redefine (c : Coordinator) (id : String) (g : Group) :
    Retains c id (c.redefine g) := by
  have hrules : Retains c id { c with
      rules := c.rules.filter fun r =>
        r.group != g.id || (g.contains r.source && g.contains r.target) } := .of_groups rfl
  exact hrules.trans (retains_update (fun _ _ => rfl) fun _ => rfl)

theorem retains_note (hl : c.live? l.id = some l) (w : Competing) (now : Int) :
    Retains c id (c.note l w now) := by
  intro k hk
  by_cases hid : id = l.id
  · rw [hid, live?_note hl] at hk
    exact ⟨l, hid ▸ hl, Option.some.inj hk ▸ rfl⟩
  · rw [live?_note_of_ne hid] at hk
    exact ⟨k, hk, rfl⟩

theorem retains_createGroup {g : Group} {o : Outcome Group} (hwk : WellKept c.roster)
    (henters : c.enters id (.createGroup g) = false) (ho : c.createGroup g = .ok o) :
    Retains c id o.next := by
  obtain ⟨hg, hnone, hnext⟩ := createGroup_eq_ok ho
  have hne : id ≠ g.id := by
    rintro rfl
    simp [enters, hg, hnone] at henters
  rw [hnext]
  refine (retains_detachAll hwk g.members g.id).trans (.of_live? ?_)
  rw [live?_takeIn, if_neg hne]

theorem retains_updateGroup {g : Group} {o : Outcome Group} (hwk : WellKept c.roster)
    (ho : c.updateGroup g = .ok o) : Retains c id o.next := by
  obtain ⟨-, l, -, hnext⟩ := updateGroup_eq_ok ho
  have hwk' : WellKept (c.cancel l).roster := by rwa [roster_cancel]
  rw [hnext]
  exact ((retains_cancel c id l).trans (retains_detachAll hwk' g.members g.id)).trans
    (retains_redefine _ id g)

theorem retains_addMember {o : Outcome Group} (hwk : WellKept c.roster)
    (ho : c.addMember i control = .ok o) : Retains c id o.next := by
  obtain ⟨l, -, ⟨-, hnext⟩ | ⟨-, hnext⟩⟩ := addMember_eq_ok ho
  · rw [hnext]
    exact .refl c id
  · have hdetached : Retains c id (c.detach control i).1 := retains_detachAll hwk [control] i
    rw [hnext]
    exact (hdetached.trans (retains_cancel _ id l)).trans
      (retains_update (fun _ _ => (rfl : l.group.id = l.id)) fun _ => rfl)

theorem retains_setEnabled {enabled : Bool} {o : Outcome Group}
    (ho : c.setEnabled i enabled = .ok o) : Retains c id o.next := by
  obtain ⟨l, -, hnext⟩ := setEnabled_eq_ok ho
  have hupdate (d : Coordinator) : Retains d id
      (d.update l.id fun k => { k with group := { l.group with enabled := enabled } }) :=
    retains_update (fun _ _ => rfl) fun _ => rfl
  rw [hnext]
  cases enabled with
  | true => exact hupdate c
  | false => exact (retains_cancel c id l).trans (hupdate _)

theorem retains_loadGroups {stored : List Group}
    (henters : c.enters id (.loadGroups stored) = false) : Retains c id (c.loadGroups stored).2 := by
  have hnone : lastNamed id (c.admitted stored) = none := Option.not_isSome_iff_eq_none.mp (by
    rw [enters] at henters
    simp [henters])
  refine .of_live? ?_
  rw [loadGroups_eq_admitted, live?_foldl_takeIn, hnone]
  rfl

theorem retains_handleChange {v : Value} {origin : Origin} {r : Change × Coordinator}
    (hwk : WellKept c.roster) (hr : c.handleChange control v origin now = .ok r) :
    Retains c id r.2 := by
  obtain ⟨store, -, ⟨he, -⟩ | ⟨-, l, hl, -, he⟩⟩ := handleChange_eq_ok hr
  · rw [he]
    exact .of_groups rfl
  · have hlive : Coordinator.live? { c with store := store } l.id = some l :=
      live?_of_wellKept hwk (mem_of_liveOf? hl)
    have hstore : Retains c id { c with store := store } := .of_groups rfl
    rw [he]
    exact hstore.trans (retains_note hlive _ now)

theorem retains_perform (hwk : WellKept c.roster) (hsends : op.sends = false)
    (henters : c.enters id op = false) (now : Int) : Retains c id (c.perform now op) := by
  have keep {ε α : Type} {next : α → Coordinator} {r : Except ε α}
      (hok : ∀ a, r = .ok a → Retains c id (next a)) : Retains c id (c.after next r) :=
    after_induction (.refl c id) hok
  cases op with
  | createGroup g => exact keep fun _ => retains_createGroup hwk henters
  | updateGroup g => exact keep fun _ => retains_updateGroup hwk
  | deleteGroup i =>
    refine keep fun o ho => ?_
    obtain ⟨l, -, hnext⟩ := deleteGroup_eq_ok ho
    exact hnext ▸ retains_drop c id l
  | addMember i control => exact keep fun _ => retains_addMember hwk
  | removeMember i control =>
    refine keep fun o ho => ?_
    obtain ⟨l, -, -, hnext⟩ := removeMember_eq_ok ho
    exact hnext ▸ retains_expel c id control l
  | setEnabled i enabled => exact keep fun _ => retains_setEnabled
  | loadGroups stored => exact retains_loadGroups henters
  | addRule r =>
    refine keep fun a ha => ?_
    obtain ⟨-, -, -, -, -, hd⟩ := addRule_eq_ok ha
    exact hd ▸ .of_groups rfl
  | removeRule i => exact keep fun a ha => (removeRule_eq_ok ha).2.2 ▸ .of_groups rfl
  | setCombinator i f =>
    refine keep fun d hd => ?_
    obtain ⟨-, -, rfl⟩ := setCombinator_eq_ok hd
    exact .of_groups rfl
  | change control v origin => exact keep fun _ => retains_handleChange hwk
  | ignore i =>
    refine keep fun a ha => ?_
    obtain ⟨_, -, hd⟩ := ignoreConflict_eq_ok ha
    exact hd ▸ .of_groups rfl
  | shutdown =>
    exact shutdown_induction (.refl c id) fun d l _ hd => hd.trans (retains_cancel d id l)
  | act a => exact keep fun _ _ => .of_groups rfl
  | _ => cases hsends

theorem recorded_of_not_sends (hsends : op.sends = false) : c.recorded id op = [] := by
  refine recorded_of_none (parcel?_of_sending ?_)
  cases op with
  | flush i => cases hsends
  | expire t => cases hsends
  | resolve j v resolver => cases hsends
  | _ => rfl

theorem definitions_of_sends (hsends : op.sends = true) (now : Int) :
    (c.perform now op).definitions = c.definitions := by
  cases op with
  | flush i => exact definitions_after fun _ => definitions_flush
  | expire t =>
    simp only [perform]
    split
    · exact definitions_fire t now
    · rfl
  | resolve j v resolver => exact definitions_after fun _ => definitions_resolveConflict
  | _ => cases hsends

theorem history_of_stays (hwk : WellKept c.roster) (henters : c.enters id op = false)
    (hk : (c.perform now op).live? id = some k) :
    ∃ l, c.live? id = some l ∧ k.history = l.history.record (c.recorded id op) := by
  cases hsends : op.sends with
  | false =>
    rw [recorded_of_not_sends hsends]
    exact retains_perform hwk hsends henters now k hk
  | true =>
    have hsame : (c.live? id).map (·.group.undated) = some k.group.undated := by
      rw [← definition?_eq, ← definition?_of_definitions (definitions_of_sends hsends now),
        definition?_of_live? hk]
    obtain ⟨l, hl, -⟩ := Option.map_eq_some_iff.mp hsame
    obtain ⟨k', hk', hlogs⟩ := logs_perform hl hsends now
    obtain rfl : k' = k := Option.some.inj (hk'.symm.trans hk)
    exact ⟨l, hl, id_of_live? hl ▸ hlogs.history⟩

theorem history_of_enters (hwk : WellKept c.roster) (henters : c.enters id op = true)
    (hk : (c.perform now op).live? id = some k) :
    k.history = .empty c.settings.historyLimit := by
  cases op with
  | createGroup g =>
    simp only [enters, Bool.and_eq_true, beq_iff_eq, Option.isNone_iff_eq_none] at henters
    obtain ⟨⟨rfl, hg⟩, hnone⟩ := henters
    rw [perform, createGroup_of_isValid hg hnone, after, live?_takeIn, if_pos rfl,
      (prunes_detachAll hwk g.members g.id).settings] at hk
    exact Option.some.inj hk ▸ rfl
  | loadGroups stored =>
    obtain ⟨g, hg⟩ := Option.isSome_iff_exists.mp henters
    rw [perform, loadGroups_eq_admitted, live?_foldl_takeIn, hg] at hk
    exact Option.some.inj hk ▸ rfl
  | _ => cases henters

def Chronicled (c : Coordinator) (logs : String → List Event) : Prop :=
  ∀ id l, c.live? id = some l → l.history = (History.empty c.settings.historyLimit).record (logs id)

theorem chronicled_perform (hwk : WellKept c.roster) (h : Chronicled c logs) (now : Int)
    (op : Operation) : Chronicled (c.perform now op) fun id =>
      if c.enters id op then [] else logs id ++ c.recorded id op := by
  intro id k hk
  rw [settings_perform hwk]
  cases henters : c.enters id op with
  | true =>
    simp only [henters, if_true]
    exact history_of_enters hwk henters hk
  | false =>
    obtain ⟨l, hl, hhistory⟩ := history_of_stays hwk henters hk
    simp only [henters, Bool.false_eq_true, if_false]
    rw [hhistory, h id l hl, History.record_append]

theorem chronicled_performAll (hreach : Reachable c) (h : Chronicled c logs)
    (run : List (Int × Operation)) :
    Chronicled (c.performAll run) fun id => c.auditLog id (logs id) run := by
  induction run generalizing c logs with
  | nil => exact h
  | cons step rest ih =>
    obtain ⟨now, op⟩ := step
    exact ih (hreach.step now op) (chronicled_perform hreach.wellKept h now op)

theorem settings_performAll (hreach : Reachable c) (run : List (Int × Operation)) :
    (c.performAll run).settings = c.settings := by
  induction run generalizing c with
  | nil => rfl
  | cons step rest ih =>
    exact (ih (hreach.step step.1 step.2)).trans (settings_perform hreach.wellKept step.1 step.2)

theorem group_of_mem_recorded {event : Event} (h : event ∈ c.recorded id op) : event.group = id := by
  unfold recorded at h
  split at h
  next l p hl _ =>
    exact ((accounts_propagate l.group c.rules p c.store).named event h).1.trans (id_of_live? hl)
  next => cases h

theorem group_of_mem_auditLog {log : List Event} (hlog : ∀ event ∈ log, event.group = id)
    {run : List (Int × Operation)} {event : Event} (h : event ∈ c.auditLog id log run) :
    event.group = id := by
  induction run generalizing c log with
  | nil => exact hlog event h
  | cons step rest ih =>
    refine ih (fun e he => ?_) h
    split at he
    · cases he
    · rcases List.mem_append.mp he with he | he
      · exact hlog e he
      · exact group_of_mem_recorded he

def newest (c : Coordinator) (id : String) (run : List (Int × Operation)) : List Event :=
  (c.auditLog id [] run).reverse.take (max c.settings.historyLimit 1)

theorem events_eq_newest {settings : SyncSettings} {store : Store} {nextConflict : Nat}
    {run : List (Int × Operation)}
    (hl : ((start settings store nextConflict).performAll run).live? id = some l) :
    l.history.events = (start settings store nextConflict).newest id run := by
  have hreach := Reachable.start settings store nextConflict
  have hstart : Chronicled (start settings store nextConflict) fun _ => [] := by
    intro i k hk
    cases hk
  rw [chronicled_performAll hreach hstart run id l hl, settings_performAll hreach,
    History.events_record (Nat.zero_le _), newest]
  exact congrArg _ (List.append_nil _)

theorem history_is_newest (settings : SyncSettings) (store : Store) (nextConflict : Nat)
    (run : List (Int × Operation)) (id : String) :
    let c := start settings store nextConflict
    let d := c.performAll run
    (∀ limit, d.history id limit = (d.need id).map fun _ =>
        limit.elim (c.newest id run) (c.newest id run).take) ∧
      (d.status id).map (·.historyLength) = (d.need id).map (fun _ => (c.newest id run).length) ∧
      ∀ event ∈ c.newest id run, event.group = id := by
  intro c d
  have hanswers : (∀ limit, d.history id limit = (d.need id).map (·.history.recent limit)) ∧
      (d.status id).map (·.historyLength) = (d.need id).map (·.history.events.length) := by
    unfold history status
    cases d.need id with
    | error e => exact ⟨fun _ => rfl, rfl⟩
    | ok l => exact ⟨fun _ => rfl, rfl⟩
  have hnewest (l : LiveGroup) (hl : d.need id = .ok l) : l.history.events = c.newest id run :=
    events_eq_newest (need_eq_ok hl)
  refine ⟨fun limit => ?_, ?_, fun event he => ?_⟩
  · rw [hanswers.1]
    cases hl : d.need id with
    | error e => rfl
    | ok l => exact congrArg Except.ok (hnewest l hl ▸ l.history.recent_eq limit)
  · rw [hanswers.2]
    cases hl : d.need id with
    | error e => rfl
    | ok l => exact congrArg Except.ok (hnewest l hl ▸ rfl)
  · have hmem := List.mem_reverse.mp (List.mem_of_mem_take he)
    exact group_of_mem_auditLog (fun _ h => absurd h List.not_mem_nil) hmem

end Coordinator

end LinkedControls
