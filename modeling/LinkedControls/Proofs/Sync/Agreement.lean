import LinkedControls.Proofs.Sync.Linked
import Mathlib.Data.List.Induction

/-!
When the members of a linked group agree. After the last value that was sent to the group, nothing
happens to its members as long as the group is quiet, so all depends on that sending: the member that
the value was from must still have held it, for it is not written again.
-/

namespace LinkedControls

/-- The values that members end with will agree when a value is sent to them: the member that it is
from holds it, or all of them take it. -/
def Settles (s : Store) (members : List String) : Option String → Value → Prop
  | some o, v => s.valueOf o = v
  | none, v => (∀ m ∈ members, ∃ w, s.kept m v = .ok w) ∨ Agree s members

namespace Coordinator

variable {c d : Coordinator} {l k : LiveGroup} {id : String} {members : List String} {kind : Kind}
  {op : Operation}

def closing? (c : Coordinator) (id : String) (op : Operation) : Option (Option String × Value) :=
  (c.closes? op).bind fun l =>
    if l.id = id then l.window.getLast?.bind (c.decision l) else none

def sending? (c : Coordinator) (id : String) : Operation → Option (Option String × Value)
  | .resolve j v _ =>
      if (c.conflict? j).any (fun k => k.isPending && k.group == id) &&
        (c.live? id).any (·.group.enabled) then some (none, v)
      else none
  | op => c.closing? id op

def Allowed (members : List String) (kind : Kind) : Operation → Prop
  | .change control v .user => control ∈ members ∧ v.fits kind = true
  | .resolve _ v _ => v.fits kind = true
  | .flush _ => True
  | .expire _ => True
  | _ => False

inductive Course (c : Coordinator) (id : String) (members : List String) (l : LiveGroup)
    (op : Operation) (d : Coordinator) (k : LiveGroup) : Prop
  | noted (w : Competing) (window : k.window = LiveGroup.gather l.window w)
      (self : d.store.valueOf w.control = w.value)
      (others : ∀ i, i ≠ w.control → d.store.valueOf i = c.store.valueOf i)
  | waiting (window : k.window = [])
      (pending : ∃ j ∈ d.conflicts, j.group = id ∧ j.isPending = true)
  | sent (o : Option String) (v : Value) (sending : c.sending? id op = some (o, v))
      (window : k.window = [] ∨ k.window = l.window ∧ ∃ j by', op = .resolve j v by')
      (settled : Agree d.store members ↔ Settles c.store members o v)
  | still (silent : c.sending? id op = none) (window : k.window = l.window)
      (values : ∀ m ∈ members, d.store.valueOf m = c.store.valueOf m)
      (conflicts : ∀ j ∈ c.conflicts, j.group = id → j ∈ d.conflicts)
      (closes : c.Closes op l → l.window = [])

theorem Linked.change (h : Linked c id members kind l) (hwk : WellKept c.roster) {m : String}
    {v : Value} (hm : m ∈ members) (hv : v.fits kind = true) (now : Int) :
    ∃ k, Linked (c.perform now (.change m v .user)) id members kind k ∧
      Course c id members l (.change m v .user) (c.perform now (.change m v .user)) k := by
  obtain ⟨hmembers, henabled, hmode⟩ := h.group
  have hkept := Store.kept_of_fits (h.kinds m hm) hv
  obtain ⟨store, change, hwrite⟩ := Store.write_of_kept hkept .user
  obtain ⟨_, w, _, hw, hchange, _⟩ := Store.write_eq_ok hwrite
  obtain rfl : v = w := Except.ok.inj (hkept.symm.trans hw)
  have hlive : c.liveOf? m = some l :=
    find?_eq_of_contains hwk (fun _ hk => hk) (mem_of_live? h.live) (hmembers ▸ hm)
  have hafter : change.after = v := by rw [hchange]
  have hd : c.perform now (.change m v .user) =
      { c with store := store }.note l ⟨m, v, now, .user⟩ now := by
    simp only [perform, handleChange_of_write hwrite hlive henabled, after, hafter]
  have hid := id_of_live? h.live
  have hnoted : (c.perform now (.change m v .user)).live? id =
      some (l.noted ⟨m, v, now, .user⟩ c.nextTimer) := by
    rw [hd, ← hid]
    exact live?_note (c := { c with store := store }) (hid ▸ h.live) _ now
  refine ⟨_, ⟨hnoted, h.group, ?_, hd ▸ h.rules, ?_⟩, .noted ⟨m, v, now, .user⟩ rfl ?_ ?_⟩
  · intro w hw
    rcases List.mem_append.mp hw with hw | hw
    · exact h.window w (List.mem_filter.mp hw).1
    · obtain rfl := List.mem_singleton.mp hw
      exact ⟨hm, hv⟩
  · intro i hi
    rw [hd]
    exact (Store.kindOf?_write hwrite i).trans (h.kinds i hi)
  · rw [hd]
    exact (Store.valueOf_write_self hwrite).trans hafter
  · intro i hi
    rw [hd]
    exact Store.valueOf_congr (Store.get?_write_of_ne hwrite hi)

theorem Linked.settled (h : Linked c id members kind l) (hwk : WellKept c.roster)
    {o : Option String} {source : String} {v : Value}
    (ho : ∀ m, o = some m → m ∈ members ∧ v.fits kind = true) :
    Agree (propagate c.store l.group c.rules ⟨o, source, v⟩).1 members ↔
      Settles c.store members o v := by
  have hn := h.nodup hwk
  have htwo := h.two_le hwk
  obtain ⟨rfl, _, hmode⟩ := h.group
  have hmode : l.group.mode ≠ .masterSlave := by simp [hmode]
  have hid : l.group.id = id := id_of_live? h.live
  have hrules : ∀ r ∈ c.rules, r.group ≠ l.group.id := fun r hr he => h.rules r hr (he.trans hid)
  cases o with
  | none => exact agree_sent_to_all hn hmode hrules h.kinds
  | some m =>
    obtain ⟨hm, hv⟩ := ho m rfl
    exact agree_sent_from hn htwo hmode hrules h.kinds hm hv

theorem Linked.propagated (h : Linked c id members kind l) (hwk : WellKept c.roster) {p : Parcel}
    (hstore : d.store = (propagate c.store l.group c.rules p).1) (hrules : d.rules = c.rules)
    (hlive : d.live? id = some k)
    (hgroup : k.group.members = members ∧ k.group.enabled = true ∧ k.group.mode = .bidirectional)
    (hwindow : ∀ w ∈ k.window, w ∈ l.window) : Linked d id members kind k := by
  refine ⟨hlive, hgroup, fun w hw => h.window w (hwindow w hw), hrules ▸ h.rules, ?_⟩
  intro m hm
  have hn : l.group.members.Nodup := h.group.1 ▸ h.nodup hwk
  rw [hstore, kindOf?_propagate c.store c.rules p hn]
  exact h.kinds m hm

theorem Linked.close (h : Linked c id members kind l) (hwk : WellKept c.roster)
    (hclose : c.Closes op l) (hsend : c.sending? id op = c.closing? id op) (now : Int) :
    ∃ k, Linked (c.perform now op) id members kind k ∧
      Course c id members l op (c.perform now op) k := by
  have hid := id_of_live? h.live
  have hspares := hclose.spares now
  have hsends : c.sending? id op = l.window.getLast?.bind (c.decision l) := by
    rw [hsend, closing?, closes_iff.mp hclose, Option.bind_some, if_pos hid]
  cases hlast : l.window.getLast? with
  | none =>
    have hw := List.getLast?_eq_none_iff.mp hlast
    obtain ⟨hstore, hconflicts, generation, hlive⟩ := hclose.empty hw now
    rw [hid] at hlive
    refine ⟨_, ⟨hlive, h.group, by simp, hspares.rules ▸ h.rules, hstore ▸ h.kinds⟩,
      .still ?_ ?_ ?_ ?_ ?_⟩
    · rw [hsends, hlast, Option.bind_none]
    · exact hw.symm
    · exact fun _ _ => by rw [hstore]
    · exact fun _ hj _ => hconflicts ▸ hj
    · exact fun _ => hw
  | some last =>
    cases hd : c.decision l last with
    | none =>
      obtain ⟨hstore, ⟨generation, hlive⟩, hpending⟩ := hclose.waiting hlast hd now
      rw [hid] at hlive
      exact ⟨_, ⟨hlive, h.group, by simp, hspares.rules ▸ h.rules, hstore ▸ h.kinds⟩,
        .waiting rfl (hid ▸ hpending)⟩
    | some sent =>
      obtain ⟨o, v⟩ := sent
      obtain ⟨hstore, generation, hlive⟩ := hclose.sent hlast hd now
      rw [hid] at hlive
      refine ⟨_, h.propagated hwk hstore hspares.rules hlive h.group (by simp [recordSent]),
        .sent o v ?_ (.inl rfl) ?_⟩
      · rw [hsends, hlast, Option.bind_some, hd]
      · rw [hstore]
        refine h.settled hwk ?_
        rintro m rfl
        obtain ⟨w, hw, rfl, rfl⟩ := decision_mem hlast hd
        exact h.window w hw

theorem Linked.resolve (h : Linked c id members kind l) (hwk : WellKept c.roster)
    {j : Conflict} {conflict resolver : String} {v : Value} (hj : c.conflict? conflict = some j)
    (hp : j.isPending = true) (hg : j.group = id) (now : Int) :
    ∃ k, Linked (c.perform now (.resolve conflict v resolver)) id members kind k ∧
      Course c id members l (.resolve conflict v resolver)
        (c.perform now (.resolve conflict v resolver)) k := by
  obtain ⟨_, henabled, _⟩ := h.group
  have hid := id_of_live? h.live
  have hd : c.perform now (.resolve conflict v resolver) =
      ((c.replaceConflict (j.resolve v resolver now)).send l ⟨none, j.control, v⟩ now).rephase l := by
    simp only [perform, resolveConflict_of_pending hj hp (hg ▸ h.live) henabled, after]
  have hlive : (c.perform now (.resolve conflict v resolver)).live? id = some
      { recordSent l (propagate c.store l.group c.rules ⟨none, j.control, v⟩).2 now with
        phase := if l.window.isEmpty then .idle else .pendingPropagation } := by
    rw [hd, ← hid]
    exact live?_rephase (live?_send _ (hid ▸ h.live))
  have hstore : (c.perform now (.resolve conflict v resolver)).store =
      (propagate c.store l.group c.rules ⟨none, j.control, v⟩).1 := by
    rw [hd]
    rfl
  refine ⟨_, h.propagated hwk hstore (by rw [hd]; rfl) hlive h.group (fun _ hw => hw),
    .sent none v ?_ (.inr ⟨rfl, conflict, resolver, rfl⟩) ?_⟩
  · simp [sending?, hj, hp, hg, h.live, henabled]
  · rw [hstore]
    exact h.settled hwk (by simp)

theorem Linked.still (h : Linked c id members kind l) (hb : Bystands c id members d)
    (hsilent : c.sending? id op = none) (hclose : c.Closes op l → l.window = []) :
    ∃ k, Linked d id members kind k ∧ Course c id members l op d k := by
  obtain ⟨k, hk, hw⟩ := h.bystands hb
  exact ⟨k, hk, .still hsilent hw hb.values hb.conflicts hclose⟩

theorem Linked.wind (h : Linked c id members kind l) (hwk : WellKept c.roster) (now : Int)
    (hsend : c.sending? id op = c.closing? id op)
    (hidle : (∀ k, ¬ c.Closes op k) → Bystands c id members (c.perform now op)) :
    ∃ k, Linked (c.perform now op) id members kind k ∧
      Course c id members l op (c.perform now op) k := by
  cases hop : c.closes? op with
  | none =>
    have hno : ∀ k, ¬ c.Closes op k := by
      intro k hk
      rw [closes_iff, hop] at hk
      cases hk
    refine h.still (hidle hno) ?_ fun hc => absurd hc (hno l)
    rw [hsend, closing?, hop, Option.bind_none]
  | some k =>
    have hclose := closes_iff.mpr hop
    by_cases hid : k.id = id
    · have hk : c.live? id = some k := hid ▸ hclose.1
      obtain rfl : k = l := Option.some.inj (hk.symm.trans h.live)
      exact h.close hwk hclose hsend now
    · refine h.still (h.closes_other hwk hclose hid now) ?_ ?_
      · rw [hsend, closing?, hop, Option.bind_some, if_neg hid]
      · intro hc
        rw [closes_iff, hop] at hc
        obtain rfl := Option.some.inj hc
        exact absurd (id_of_live? h.live) hid

theorem Linked.step (h : Linked c id members kind l) (hwk : WellKept c.roster) (hnum : Numbered c)
    (hop : Allowed members kind op) (now : Int) :
    ∃ k, Linked (c.perform now op) id members kind k ∧
      Course c id members l op (c.perform now op) k := by
  cases op with
  | change m v origin =>
    cases origin with
    | user => exact h.change hwk hop.1 hop.2 now
    | _ => exact hop.elim
  | flush i => exact h.wind hwk now rfl (h.flush_other now)
  | expire t => exact h.wind hwk now rfl (expire_other now)
  | resolve conflict v resolver =>
    by_cases hj : ∃ j, c.conflict? conflict = some j ∧ j.isPending = true ∧ j.group = id
    · obtain ⟨j, hj, hp, hg⟩ := hj
      exact h.resolve hwk hj hp hg now
    · have hno : ∀ j, c.conflict? conflict = some j → j.isPending = true → j.group ≠ id :=
        fun j hk hp hg => hj ⟨j, hk, hp, hg⟩
      refine h.still (h.resolve_other hwk hnum now hno) ?_ (fun hc => hc.2.2.elim)
      cases hk : c.conflict? conflict with
      | none => simp [sending?, hk]
      | some j =>
        cases hp : j.isPending with
        | false => simp [sending?, hk, hp]
        | true => simp [sending?, hk, hno j hk hp]
  | _ => exact hop.elim

def Quiet (c : Coordinator) (id : String) : Prop :=
  (∀ l, c.live? id = some l → l.window = []) ∧
    ∀ k ∈ c.conflicts, k.group = id → k.isPending = false

def hasClosed (c : Coordinator) (id : String) : List (Int × Operation) → Bool
  | [] => false
  | (now, op) :: rest =>
      (c.closes? op).any (fun l => l.id == id && !l.window.isEmpty) ||
        (c.perform now op).hasClosed id rest

def lastSending (c : Coordinator) (id : String) :
    List (Int × Operation) → Option (Store × Option String × Value)
  | [] => none
  | (now, op) :: rest =>
      ((c.perform now op).lastSending id rest).or ((c.sending? id op).map (c.store, ·))

theorem hasClosed_concat (c : Coordinator) (run : List (Int × Operation)) (now : Int)
    (op : Operation) : c.hasClosed id (run ++ [(now, op)]) = (c.hasClosed id run ||
      ((c.performAll run).closes? op).any fun l => l.id == id && !l.window.isEmpty) := by
  induction run generalizing c with
  | nil => simp [hasClosed, performAll]
  | cons step rest ih =>
    simp only [List.cons_append, hasClosed, ih, Bool.or_assoc]
    rfl

theorem lastSending_concat (c : Coordinator) (run : List (Int × Operation)) (now : Int)
    (op : Operation) : c.lastSending id (run ++ [(now, op)]) =
      (((c.performAll run).sending? id op).map ((c.performAll run).store, ·)).or
        (c.lastSending id run) := by
  induction run generalizing c with
  | nil => simp [lastSending, performAll]
  | cons step rest ih =>
    simp only [List.cons_append, lastSending, ih, Option.or_assoc]
    rfl

theorem gather_ne_nil (window : List Competing) (w : Competing) : LiveGroup.gather window w ≠ [] := by
  simp [LiveGroup.gather]

theorem Linked.run (h : Linked c id members kind l) (hreach : Reachable c)
    (run : List (Int × Operation)) (hrun : ∀ s ∈ run, Allowed members kind s.2) :
    ∃ k, Linked (c.performAll run) id members kind k ∧
      (c.hasClosed id run = true → Quiet (c.performAll run) id →
        ∃ s o v, c.lastSending id run = some (s, o, v) ∧
          (Agree (c.performAll run).store members ↔ Settles s members o v)) := by
  -- from the right: the last step has sent, or it left alone what an earlier one sent
  induction run using List.reverseRecOn with
  | nil => exact ⟨l, h, fun hclosed => by cases hclosed⟩
  | append_singleton run step ih =>
    obtain ⟨now, op⟩ := step
    obtain ⟨j, hj, hquiet⟩ := ih fun s hs => hrun s (List.mem_append_left _ hs)
    have hr := hreach.performAll run
    have hop : Allowed members kind op := hrun (now, op) (by simp)
    obtain ⟨k, hk, hcourse⟩ := hj.step hr.wellKept hr.numbered hop now
    have hafter : c.performAll (run ++ [(now, op)]) = (c.performAll run).perform now op :=
      performAll_append c run [(now, op)]
    rw [hafter]
    refine ⟨k, hk, ?_⟩
    intro hclosed hq
    cases hcourse with
    | noted w window _ _ =>
      have hempty := hq.1 k hk.live
      exact absurd (window.symm.trans hempty) (gather_ne_nil j.window w)
    | waiting _ pending =>
      obtain ⟨i, hi, hg, hp⟩ := pending
      rw [hq.2 i hi hg] at hp
      cases hp
    | sent o v sending _ settled =>
      refine ⟨(c.performAll run).store, o, v, ?_, settled⟩
      rw [lastSending_concat, sending]
      rfl
    | still silent window values conflicts closes =>
      -- a silent step has closed no window with writes in it
      have hearlier : c.hasClosed id run = true := by
        rw [hasClosed_concat, Bool.or_eq_true] at hclosed
        rcases hclosed with hclosed | hclosed
        · exact hclosed
        · rw [Option.any_eq_true] at hclosed
          obtain ⟨i, hi, hopen⟩ := hclosed
          simp only [Bool.and_eq_true, beq_iff_eq, Bool.not_eq_true'] at hopen
          have hclose := closes_iff.mpr hi
          obtain rfl : i = j := Option.some.inj ((hopen.1 ▸ hclose.1).symm.trans hj.live)
          simp [closes hclose] at hopen
      have hq' : Quiet (c.performAll run) id := by
        refine ⟨?_, fun i hi hg => hq.2 i (conflicts i hi hg) hg⟩
        intro i hi
        obtain rfl := Option.some.inj (hj.live.symm.trans hi)
        exact window.symm.trans (hq.1 k hk.live)
      obtain ⟨s, o, v, hlast, hiff⟩ := hquiet hearlier hq'
      refine ⟨s, o, v, ?_, (agree_congr values).trans hiff⟩
      rw [lastSending_concat, silent, hlast]
      rfl

def Faithful (s : Store) (window : List Competing) : Prop :=
  ∀ w ∈ window, s.valueOf w.control = w.value

/-- A value that is from no member is one that the members take, and a conflict is resolved only while
no write waits. -/
def Gentle (c : Coordinator) (id : String) (members : List String) (op : Operation) : Prop :=
  ∀ v, c.sending? id op = some (none, v) → (∀ m ∈ members, ∃ w, c.store.kept m v = .ok w) ∧
    ∀ j resolver, op = .resolve j v resolver → ∀ l, c.live? id = some l → l.window = []

def Undisturbed (c : Coordinator) (id : String) (members : List String) :
    List (Int × Operation) → Prop
  | [] => True
  | (now, op) :: rest => c.Gentle id members op ∧ (c.perform now op).Undisturbed id members rest

theorem sending?_resolve {j resolver : String} {o : Option String} {v w : Value}
    (h : c.sending? id (.resolve j v resolver) = some (o, w)) : o = none := by
  simp only [sending?] at h
  split at h
  · simp only [Option.some.injEq, Prod.mk.injEq] at h
    exact h.1.symm
  · cases h

theorem sending?_mem (h : c.live? id = some l) {o : String} {v : Value}
    (hs : c.sending? id op = some (some o, v)) : ∃ w ∈ l.window, w.control = o ∧ w.value = v := by
  have hclosing : c.closing? id op = some (some o, v) := by
    cases op with
    | resolve j v resolver => cases sending?_resolve hs
    | _ => exact hs
  obtain ⟨k, hk, hsent⟩ := Option.bind_eq_some_iff.mp hclosing
  by_cases hid : k.id = id
  · rw [if_pos hid] at hsent
    obtain rfl : k = l := Option.some.inj ((hid ▸ (closes_iff.mpr hk).1).symm.trans h)
    obtain ⟨last, hlast, hd⟩ := Option.bind_eq_some_iff.mp hsent
    exact decision_mem hlast hd
  · rw [if_neg hid] at hsent
    cases hsent

theorem settles_of_faithful (h : c.live? id = some l) (hf : Faithful c.store l.window)
    (hg : c.Gentle id members op) {o : Option String} {v : Value}
    (hs : c.sending? id op = some (o, v)) : Settles c.store members o v := by
  cases o with
  | none => exact .inl (hg v hs).1
  | some o =>
    obtain ⟨w, hw, rfl, rfl⟩ := sending?_mem h hs
    exact hf w hw

theorem Linked.faithful (h : Linked c id members kind l) (hf : Faithful c.store l.window)
    (hg : c.Gentle id members op) (hcourse : Course c id members l op d k) :
    Faithful d.store k.window := by
  cases hcourse with
  | noted w window self others =>
    rw [window]
    intro u hu
    rcases List.mem_append.mp hu with hu | hu
    · obtain ⟨hu, hne⟩ := List.mem_filter.mp hu
      rw [others u.control (by simpa using hne)]
      exact hf u hu
    · obtain rfl := List.mem_singleton.mp hu
      exact self
  | waiting window _ =>
    rw [window]
    exact fun w hw => absurd hw List.not_mem_nil
  | sent o v sending window _ =>
    have hempty : k.window = [] := by
      rcases window with hw | ⟨hw, j, resolver, rfl⟩
      · exact hw
      · obtain rfl := sending?_resolve sending
        exact hw.trans ((hg v sending).2 j resolver rfl l h.live)
    rw [hempty]
    exact fun w hw => absurd hw List.not_mem_nil
  | still _ window values _ _ =>
    rw [window]
    intro w hw
    rw [values w.control (h.window w hw).1]
    exact hf w hw

theorem Linked.settles_of_undisturbed (h : Linked c id members kind l) (hreach : Reachable c)
    {run : List (Int × Operation)} (hrun : ∀ s ∈ run, Allowed members kind s.2)
    (hf : Faithful c.store l.window) (hu : c.Undisturbed id members run) {s : Store}
    {o : Option String} {v : Value} (hlast : c.lastSending id run = some (s, o, v)) :
    Settles s members o v := by
  induction run generalizing c l with
  | nil => cases hlast
  | cons step rest ih =>
    obtain ⟨now, op⟩ := step
    obtain ⟨hg, hu⟩ := hu
    have hop : Allowed members kind op := hrun (now, op) List.mem_cons_self
    obtain ⟨k, hk, hcourse⟩ := h.step hreach.wellKept hreach.numbered hop now
    simp only [lastSending, Option.or_eq_some_iff] at hlast
    rcases hlast with hlater | ⟨_, hnow⟩
    · exact ih hk (hreach.step now op) (fun s hs => hrun s (List.mem_cons_of_mem _ hs))
        (h.faithful hf hg hcourse) hu hlater
    · obtain ⟨⟨o', v'⟩, hs, he⟩ := Option.map_eq_some_iff.mp hnow
      obtain ⟨rfl, rfl, rfl⟩ : c.store = s ∧ o' = o ∧ v' = v := by simpa using he
      exact settles_of_faithful h.live hf hg hs

theorem quiet_agree_iff (hreach : Reachable c) (h : Linked c id members kind l)
    {run : List (Int × Operation)} (hrun : ∀ s ∈ run, Allowed members kind s.2)
    (hclosed : c.hasClosed id run = true) (hquiet : Quiet (c.performAll run) id) :
    (∃ s o v, c.lastSending id run = some (s, o, v) ∧
        (Agree (c.performAll run).store members ↔ Settles s members o v)) ∧
      (Faithful c.store l.window → c.Undisturbed id members run →
        Agree (c.performAll run).store members) := by
  obtain ⟨k, hk, hafter⟩ := h.run hreach run hrun
  obtain ⟨s, o, v, hlast, hiff⟩ := hafter hclosed hquiet
  refine ⟨⟨s, o, v, hlast, hiff⟩, ?_⟩
  intro hf hu
  exact hiff.mpr (h.settles_of_undisturbed hreach hrun hf hu hlast)

def threeTexts : Coordinator :=
  (start .default .empty 0).performAll [
    (0, .act (.register "a" .text (.text ""))),
    (0, .act (.register "b" .text (.text ""))),
    (0, .act (.register "c" .text (.text ""))),
    (0, .createGroup ⟨"g", "g", ["a", "b", "c"], .bidirectional, none, .manual, true, none⟩)]

def threeTextsGroup : LiveGroup :=
  .fresh ⟨"g", "g", ["a", "b", "c"], .bidirectional, none, .manual, true, none⟩ 100

def lateResolution : List (Int × Operation) := [
  (1, .change "a" (.text "x") .user),
  (2, .change "b" (.text "y") .user),
  (3, .flush "g"),
  (4, .change "a" (.text "z") .user),
  (5, .resolve "#0" (.text "w") "somebody"),
  (6, .flush "g")]

theorem threeTexts_linked : Linked threeTexts "g" ["a", "b", "c"] .text threeTextsGroup :=
  ⟨by decide, by decide, by decide, by decide, by decide⟩

theorem lateResolution_allowed :
    ∀ s ∈ lateResolution, Allowed ["a", "b", "c"] .text s.2 := by
  simp only [lateResolution, List.forall_mem_cons]
  refine ⟨⟨?_, rfl⟩, ⟨?_, rfl⟩, trivial, ⟨?_, rfl⟩, rfl, trivial, List.forall_mem_nil _⟩
  all_goals decide

theorem lateResolution_quiet : Quiet (threeTexts.performAll lateResolution) "g" := by
  refine ⟨?_, by decide⟩
  intro l hl
  have hw : ((threeTexts.performAll lateResolution).live? "g").map (·.window) = some [] := by decide
  rw [hl] at hw
  exact Option.some.inj hw

theorem quiet_agree_iff_lateResolution :
    ¬ Agree (threeTexts.performAll lateResolution).store ["a", "b", "c"] := by
  have hreach : Reachable threeTexts := (Reachable.start _ _ _).performAll _
  obtain ⟨⟨s, o, v, hlast, hiff⟩, _⟩ := quiet_agree_iff hreach threeTexts_linked
    lateResolution_allowed (by decide) lateResolution_quiet
  have hsent : threeTexts.lastSending "g" lateResolution =
      some ((threeTexts.performAll (lateResolution.take 5)).store, some "a", .text "z") := by decide
  rw [hlast, Option.some.injEq, Prod.mk.injEq, Prod.mk.injEq] at hsent
  obtain ⟨rfl, rfl, rfl⟩ := hsent
  rw [hiff]
  unfold Settles
  decide

theorem lateResolution_disagrees :
    Reachable threeTexts ∧ Linked threeTexts "g" ["a", "b", "c"] .text threeTextsGroup ∧
      (∀ s ∈ lateResolution, Allowed ["a", "b", "c"] .text s.2) ∧
      threeTexts.hasClosed "g" lateResolution = true ∧
      Quiet (threeTexts.performAll lateResolution) "g" ∧
      (threeTexts.performAll lateResolution).store.valueOf "a" = .text "w" ∧
      (threeTexts.performAll lateResolution).store.valueOf "b" = .text "z" ∧
      (threeTexts.performAll lateResolution).store.valueOf "c" = .text "z" :=
  ⟨(Reachable.start _ _ _).performAll _, threeTexts_linked, lateResolution_allowed, by decide,
    lateResolution_quiet, by decide⟩

end Coordinator

end LinkedControls
