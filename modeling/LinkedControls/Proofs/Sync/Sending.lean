import LinkedControls.Proofs.Sync.Accounting
import LinkedControls.Proofs.Sync.Agreement

/-!
What the operations that send leave in a group: the events of the sending, and the time as that of the
last one. The time is set by every sending, whether or not the value arrives anywhere.
-/

namespace LinkedControls

def Operation.sends : Operation → Bool
  | .flush _ => true
  | .expire _ => true
  | .resolve .. => true
  | _ => false

namespace Coordinator

variable {c d : Coordinator} {l k : LiveGroup} {id : String} {op : Operation} {now : Int} {p : Parcel}

def ruleSource? (c : Coordinator) (id : String) : Operation → Option String
  | .resolve j _ _ => (c.conflict? j).map (·.control)
  | _ => (c.live? id).bind fun l => l.window.getLast?.map (·.control)

def parcel? (c : Coordinator) (id : String) (op : Operation) : Option Parcel :=
  (c.sending? id op).bind fun sent => (c.ruleSource? id op).map (⟨sent.1, ·, sent.2⟩)

def recorded (c : Coordinator) (id : String) (op : Operation) : List Event :=
  match c.live? id, c.parcel? id op with
  | some l, some p => (propagate c.store l.group c.rules p).2
  | _, _ => []

theorem recorded_of_parcel (hl : c.live? id = some l) (hp : c.parcel? id op = some p) :
    c.recorded id op = (propagate c.store l.group c.rules p).2 := by
  simp only [recorded, hl, hp]

theorem recorded_of_none (hp : c.parcel? id op = none) : c.recorded id op = [] := by
  rw [recorded, hp]
  split
  · contradiction
  · rfl

structure Logs (c : Coordinator) (op : Operation) (now : Int) (l k : LiveGroup) : Prop where
  history : k.history = l.history.record (c.recorded l.id op)
  group : k.group = { l.group with
    lastSync := if (c.parcel? l.id op).isSome then some now else l.group.lastSync }

theorem Logs.of_sent (hl : c.live? l.id = some l) (hp : c.parcel? l.id op = some p)
    (hhistory : k.history = l.history.record (propagate c.store l.group c.rules p).2)
    (hgroup : k.group = { l.group with lastSync := some now }) : Logs c op now l k := by
  refine ⟨?_, ?_⟩
  · rw [hhistory, recorded_of_parcel hl hp]
  · rw [hgroup, hp]
    rfl

theorem Logs.of_silent (hp : c.parcel? l.id op = none) (hhistory : k.history = l.history)
    (hgroup : k.group = l.group) : Logs c op now l k := by
  refine ⟨?_, ?_⟩
  · rw [hhistory, recorded_of_none hp]
    rfl
  · rw [hgroup, hp]
    rfl

theorem Closes.parcel? (h : c.Closes op l) : c.parcel? l.id op =
    l.window.getLast?.bind fun last => (c.decision l last).map fun sent =>
      ⟨sent.1, last.control, sent.2⟩ := by
  have hwindow : c.sending? l.id op = c.closing? l.id op ∧
      c.ruleSource? l.id op = l.window.getLast?.map (·.control) := by
    obtain ⟨hl, -, hop⟩ := h
    cases op with
    | resolve j v resolver => exact hop.elim
    | _ => exact ⟨rfl, by simp only [ruleSource?, hl, Option.bind_some]⟩
  rw [Coordinator.parcel?, hwindow.1, hwindow.2, closing?, closes_iff.mp h, Option.bind_some,
    if_pos rfl]
  cases l.window.getLast? with
  | none => rfl
  | some last =>
    simp only [Option.bind_some]
    cases c.decision l last <;> rfl

theorem Closes.logs (h : c.Closes op l) (now : Int) :
    ∃ k, (c.perform now op).live? l.id = some k ∧ Logs c op now l k := by
  have hparcel := h.parcel?
  cases hlast : l.window.getLast? with
  | none =>
    obtain ⟨-, -, generation, hk⟩ := h.empty (List.getLast?_eq_none_iff.mp hlast) now
    rw [hlast, Option.bind_none] at hparcel
    exact ⟨_, hk, .of_silent hparcel rfl rfl⟩
  | some last =>
    rw [hlast, Option.bind_some] at hparcel
    cases hd : c.decision l last with
    | none =>
      obtain ⟨-, ⟨generation, hk⟩, -⟩ := h.waiting hlast hd now
      rw [hd, Option.map_none] at hparcel
      exact ⟨_, hk, .of_silent hparcel rfl rfl⟩
    | some sent =>
      obtain ⟨-, generation, hk⟩ := h.sent hlast hd now
      rw [hd, Option.map_some] at hparcel
      exact ⟨_, hk, .of_sent h.1 hparcel rfl rfl⟩

theorem parcel?_of_sending (h : c.sending? id op = none) : c.parcel? id op = none := by
  rw [parcel?, h, Option.bind_none]

theorem logs_of_closes (hsend : c.sending? l.id op = c.closing? l.id op) (hl : c.live? l.id = some l)
    (hidle : c.closes? op = none → ∃ k, (c.perform now op).live? l.id = some k ∧
      k.history = l.history ∧ k.group = l.group) :
    ∃ k, (c.perform now op).live? l.id = some k ∧ Logs c op now l k := by
  cases hop : c.closes? op with
  | none =>
    obtain ⟨k, hk, hhistory, hgroup⟩ := hidle hop
    have hsilent : c.sending? l.id op = none := by rw [hsend, closing?, hop, Option.bind_none]
    exact ⟨k, hk, .of_silent (parcel?_of_sending hsilent) hhistory hgroup⟩
  | some j =>
    have hclose := closes_iff.mpr hop
    by_cases hid : j.id = l.id
    · obtain rfl : j = l := Option.some.inj (hclose.1.symm.trans (hid ▸ hl))
      exact hclose.logs now
    · have hsilent : c.sending? l.id op = none := by
        rw [hsend, closing?, hop, Option.bind_some, if_neg hid]
      exact ⟨l, ((hclose.spares now).others l.id (Ne.symm hid)).trans hl,
        .of_silent (parcel?_of_sending hsilent) rfl rfl⟩

theorem logs_flush (hl : c.live? l.id = some l) (i : String) (now : Int) :
    ∃ k, (c.perform now (.flush i)).live? l.id = some k ∧ Logs c (.flush i) now l k := by
  refine logs_of_closes rfl hl fun hop => ?_
  refine after_induction (P := fun d => ∃ k, d.live? l.id = some k ∧ k.history = l.history ∧
    k.group = l.group) ⟨l, hl, rfl, rfl⟩ fun o ho => ?_
  obtain ⟨j, hj, ⟨-, hnext⟩ | ⟨he, -⟩⟩ := flush_eq_ok ho
  · rw [hnext]
    by_cases hid : l.id = j.id
    · obtain rfl : j = l := Option.some.inj (hj.symm.trans (id_of_live? hj ▸ hid ▸ hl))
      obtain ⟨generation, hk⟩ := (unwound_disarm hl).live
      exact ⟨_, hk, rfl, rfl⟩
    · have hj : c.live? j.id = some j := id_of_live? hj ▸ hj
      exact ⟨l, ((unwound_disarm hj).others l.id hid).trans hl, rfl, rfl⟩
  · rw [closes?, hj, Option.filter_some, he] at hop
    cases hop

theorem logs_expire (hl : c.live? l.id = some l) (t : Timer) (now : Int) :
    ∃ k, (c.perform now (.expire t)).live? l.id = some k ∧ Logs c (.expire t) now l k := by
  refine logs_of_closes rfl hl fun hop => ⟨l, ?_, rfl, rfl⟩
  by_cases ht : t ∈ c.timers
  · simp only [perform, ht, if_true]
    rcases fire_cases c t now with ⟨he, -⟩ | ⟨j, hj, hgeneration, he, -⟩
    · rw [he]
      exact hl
    · have hclose : c.Closes (.expire t) j := by
        obtain hid := id_of_live? hj
        exact ⟨hid ▸ hj, he, ht, hid.symm, hgeneration.symm⟩
      rw [closes_iff, hop] at hclose
      cases hclose
  · simp only [perform, ht, if_false]
    exact hl

theorem resolve_cases (c : Coordinator) (j : String) (v : Value) (resolver : String) (now : Int) :
    ((c.perform now (.resolve j v resolver)).groups = c.groups ∧
        ∀ id, c.sending? id (.resolve j v resolver) = none) ∨
      ∃ i l, c.conflict? j = some i ∧ i.isPending = true ∧ c.live? i.group = some l ∧
        l.group.enabled = true ∧ c.perform now (.resolve j v resolver) =
          ((c.replaceConflict (i.resolve v resolver now)).send l ⟨none, i.control, v⟩ now).rephase l := by
  by_cases hsends : ∃ i l, c.conflict? j = some i ∧ i.isPending = true ∧ c.live? i.group = some l ∧
      l.group.enabled = true
  · obtain ⟨i, l, hi, hp, hl, he⟩ := hsends
    refine .inr ⟨i, l, hi, hp, hl, he, ?_⟩
    simp only [perform, resolveConflict_of_pending hi hp hl he, after]
  · refine .inl ⟨?_, fun id => if_neg fun h => ?_⟩
    · refine after_induction (P := fun d => d.groups = c.groups) rfl fun r hr => ?_
      obtain ⟨i, hi, ⟨-, he⟩ | ⟨-, -, he⟩ | ⟨hp, l, hl, he, -⟩⟩ := resolveConflict_eq_ok hr
      · rw [he]
      · rw [he]
        rfl
      · exact absurd ⟨i, l, hi, hp, hl, he⟩ hsends
    · simp only [Bool.and_eq_true, Option.any_eq_true, beq_iff_eq] at h
      obtain ⟨⟨i, hi, hp, rfl⟩, l, hl, he⟩ := h
      exact hsends ⟨i, l, hi, hp, hl, he⟩

theorem logs_resolve (hl : c.live? l.id = some l) (j : String) (v : Value) (resolver : String)
    (now : Int) : ∃ k, (c.perform now (.resolve j v resolver)).live? l.id = some k ∧
      Logs c (.resolve j v resolver) now l k := by
  rcases resolve_cases c j v resolver now with ⟨hgroups, hsilent⟩ | ⟨i, m, hi, hp, hm, he, hd⟩
  · exact ⟨l, (live?_congr hgroups).trans hl,
      .of_silent (parcel?_of_sending (hsilent l.id)) rfl rfl⟩
  · rw [hd]
    by_cases hid : l.id = m.id
    · obtain rfl : m = l := Option.some.inj (hm.symm.trans (id_of_live? hm ▸ hid ▸ hl))
      have hgroup := (id_of_live? hm).symm
      have hparcel : c.parcel? m.id (.resolve j v resolver) = some ⟨none, i.control, v⟩ := by
        simp [parcel?, sending?, ruleSource?, hi, hp, hgroup, hl, he]
      exact ⟨_, live?_rephase (live?_send _ hl), .of_sent hl hparcel rfl rfl⟩
    · have hsilent : c.sending? l.id (.resolve j v resolver) = none := by
        have hne : i.group ≠ l.id := fun hg => hid (hg.symm.trans (id_of_live? hm).symm)
        simp [sending?, hi, hp, hne]
      refine ⟨l, ?_, .of_silent (parcel?_of_sending hsilent) rfl rfl⟩
      rw [live?_rephase_of_ne hid, live?_send_of_ne _ hid]
      exact hl

theorem logs_perform (hl : c.live? id = some l) (hop : op.sends = true) (now : Int) :
    ∃ k, (c.perform now op).live? id = some k ∧ Logs c op now l k := by
  obtain rfl := id_of_live? hl
  cases op with
  | flush i => exact logs_flush hl i now
  | expire t => exact logs_expire hl t now
  | resolve j v resolver => exact logs_resolve hl j v resolver now
  | _ => cases hop

def Arrives (c : Coordinator) (g : Group) (p : Parcel) : Prop :=
  p.isHeldBack g = false ∧ ∃ t ∈ p.targets g, ∃ v r,
    p.outgoing g c.rules t = .ok v ∧ c.store.write t v .sync = .ok r

theorem recorded_propagated_iff (hl : c.live? id = some l) (hp : c.parcel? id op = some p) :
    (∃ e ∈ c.recorded id op, e.propagated = true) ↔ c.Arrives l.group p := by
  have haccounts := accounts_propagate l.group c.rules p c.store
  rw [recorded_of_parcel hl hp]
  constructor
  · rintro ⟨e, he, hyes⟩
    obtain ⟨hfree, htaken⟩ := (haccounts.accepted e he).mp hyes
    have ht : e.control ∈ p.targets l.group := haccounts.controls ▸ List.mem_map_of_mem he
    exact ⟨hfree, e.control, ht, htaken⟩
  · rintro ⟨hfree, t, ht, htaken⟩
    rw [← haccounts.controls] at ht
    obtain ⟨e, he, rfl⟩ := List.mem_map.mp ht
    exact ⟨e, he, (haccounts.accepted e he).mpr ⟨hfree, htaken⟩⟩

theorem recorded_ne_nil (hwk : WellKept c.roster) (hl : c.live? id = some l)
    (hp : c.parcel? id op = some p) : c.recorded id op ≠ [] := by
  have hentry := hwk.two_le _ (List.mem_map_of_mem (mem_of_live? hl))
  obtain ⟨m, hm, hne⟩ := exists_other (nodup_of_live? hwk hl) hentry (p.origin.getD "")
  have ht : m ∈ p.targets l.group := by
    refine List.mem_filter.mpr ⟨hm, bne_iff_ne.mpr fun ho => hne ?_⟩
    rw [← ho, Option.getD_some]
  rw [recorded_of_parcel hl hp]
  intro hnil
  rw [← (accounts_propagate l.group c.rules p c.store).controls, hnil] at ht
  cases ht

theorem recorded_eq_nil_iff (hwk : WellKept c.roster) (hl : c.live? id = some l) :
    c.recorded id op = [] ↔ c.parcel? id op = none := by
  cases hp : c.parcel? id op with
  | none => exact iff_of_true (recorded_of_none hp) rfl
  | some p => exact iff_of_false (recorded_ne_nil hwk hl hp) (Option.some_ne_none p)

theorem stamped_iff_recorded (h : Reachable c) (hl : c.live? id = some l) (hop : op.sends = true)
    (now : Int) : ∃ k, (c.perform now op).live? id = some k ∧
      k.history = l.history.record (c.recorded id op) ∧
      k.group = { l.group with
        lastSync := if c.recorded id op = [] then l.group.lastSync else some now } ∧
      ((∃ e ∈ c.recorded id op, e.propagated = true) ↔
        ∃ p, c.parcel? id op = some p ∧ c.Arrives l.group p) ∧
      (l.group.lastSync ≠ some now →
        ((k.group.lastSync = some now ↔ ∃ e ∈ c.recorded id op, e.propagated = true) ↔
          ∀ p, c.parcel? id op = some p → c.Arrives l.group p)) := by
  obtain rfl := id_of_live? hl
  obtain ⟨k, hk, hlogs⟩ := logs_perform hl hop now
  refine ⟨k, hk, hlogs.history, ?_, ?_⟩
  · rw [hlogs.group, if_congr (recorded_eq_nil_iff h.wellKept hl) rfl rfl]
    cases c.parcel? l.id op <;> rfl
  · cases hp : c.parcel? l.id op with
    | none =>
      have hsync : k.group.lastSync = l.group.lastSync := by
        rw [hlogs.group, hp]
        rfl
      simp [recorded_of_none hp, hsync]
    | some p =>
      have hsync : k.group.lastSync = some now := by
        rw [hlogs.group, hp]
        rfl
      simp [recorded_propagated_iff hl hp, hsync]

def servant : Coordinator :=
  (start .default .empty 0).performAll [
    (0, .act (.register "m" .text (.text ""))),
    (0, .act (.register "s" .text (.text ""))),
    (0, .createGroup ⟨"g", "g", ["m", "s"], .masterSlave, some "m", .latestWins, true, none⟩),
    (1, .change "s" (.text "x") .user)]

def servantGroup : LiveGroup :=
  ⟨⟨"g", "g", ["m", "s"], .masterSlave, some "m", .latestWins, true, none⟩, .empty 100,
    .pendingPropagation, [⟨"s", .text "x", 1, .user⟩], some 0, 1⟩

theorem stamped_iff_recorded_servant : Reachable servant ∧
    servant.live? "g" = some servantGroup ∧
      ∃ k, (servant.perform 5 (.flush "g")).live? "g" = some k ∧
        ¬ (k.group.lastSync = some 5 ↔
          ∃ e ∈ servant.recorded "g" (.flush "g"), e.propagated = true) := by
  have h : Reachable servant := (Reachable.start ..).performAll _
  have hl : servant.live? "g" = some servantGroup := by decide
  have hop : (Operation.flush "g").sends = true := rfl
  obtain ⟨k, hk, -, -, -, hstamp⟩ := stamped_iff_recorded h hl hop 5
  have hp : servant.parcel? "g" (.flush "g") = some ⟨some "s", "s", .text "x"⟩ := by decide
  refine ⟨h, hl, k, hk, fun hiff => ?_⟩
  obtain ⟨hfree, -⟩ := (hstamp (by decide)).mp hiff _ hp
  revert hfree
  decide

theorem servant_stamps : Reachable servant ∧
    ((servant.perform 5 (.flush "g")).live? "g").map (fun k =>
      (k.group.lastSync, k.history.events.map fun e => (e.control, e.propagated))) =
        some (some 5, [("m", false)]) ∧
      (servant.perform 5 (.flush "g")).store = servant.store :=
  ⟨(Reachable.start ..).performAll _, by decide⟩

end Coordinator

end LinkedControls
