import LinkedControls.Proofs.Sync.Numbering
import LinkedControls.Proofs.Sync.Rewriting
import Mathlib.Data.List.Nodup

/-!
A group without rules whose members are of one kind: what sending a value does to it, and what an
operation that is not about the group leaves as it was.
-/

namespace LinkedControls

def Agree (s : Store) (members : List String) : Prop :=
  ∀ a ∈ members, ∀ b ∈ members, s.valueOf a = s.valueOf b

theorem agree_of_all {s : Store} {members : List String} {v : Value}
    (h : ∀ m ∈ members, s.valueOf m = v) : Agree s members :=
  fun a ha b hb => (h a ha).trans (h b hb).symm

theorem agree_congr {s s' : Store} {members : List String}
    (h : ∀ m ∈ members, s'.valueOf m = s.valueOf m) : Agree s' members ↔ Agree s members := by
  constructor
  · intro ha a hma b hmb
    rw [← h a hma, ← h b hmb]
    exact ha a hma b hmb
  · intro ha a hma b hmb
    rw [h a hma, h b hmb]
    exact ha a hma b hmb

theorem exists_other {members : List String} (hn : members.Nodup) (htwo : 2 ≤ members.length)
    (o : String) : ∃ m ∈ members, m ≠ o := by
  by_contra hno
  have hall : ∀ m ∈ members, m = o := fun m hm => by_contra fun hne => hno ⟨m, hm, hne⟩
  rw [List.eq_replicate_of_mem hall, List.nodup_replicate] at hn
  omega

theorem kept_of_same_kind {s : Store} {m m' : String} {kind : Kind} {v w : Value}
    (hm : s.kindOf? m = some kind) (hm' : s.kindOf? m' = some kind) (h : s.kept m v = .ok w) :
    s.kept m' v = .ok w := by
  obtain ⟨c, hc, rfl⟩ := Option.map_eq_some_iff.mp hm
  obtain ⟨c', hc', hkind⟩ := Option.map_eq_some_iff.mp hm'
  simp only [Store.kept, hc, hc', hkind] at h ⊢
  unfold coerce at h ⊢
  by_cases hfits : v.fits c.kind = true
  · simpa only [hfits, if_true] using h
  · simp only [hfits] at h ⊢
    cases hconv : Value.ofLoose v.toJson c.kind <;> simp_all

section Sending

variable {g : Group} {rules : List Rule} {s : Store} {kind : Kind} {o source : String} {v : Value}

theorem valueOf_sent (hn : g.members.Nodup) {p : Parcel} (hp : p.isHeldBack g = false)
    (hrules : ∀ r ∈ rules, r.group ≠ g.id) {m : String} (hm : m ∈ p.targets g)
    (hkind : s.kindOf? m = some kind) (hv : p.value.fits kind = true) :
    (propagate s g rules p).1.valueOf m = p.value := by
  rw [valueOf_propagate_target s hn hp hrules hm, Store.kept_of_fits hkind hv]
  rfl

theorem agree_sent_from (hn : g.members.Nodup) (htwo : 2 ≤ g.members.length)
    (hmode : g.mode ≠ .masterSlave) (hrules : ∀ r ∈ rules, r.group ≠ g.id)
    (hkinds : ∀ m ∈ g.members, s.kindOf? m = some kind) (ho : o ∈ g.members)
    (hv : v.fits kind = true) :
    Agree (propagate s g rules ⟨some o, source, v⟩).1 g.members ↔ s.valueOf o = v := by
  have hself : (propagate s g rules ⟨some o, source, v⟩).1.valueOf o = s.valueOf o :=
    valueOf_propagate_of_not_mem s rules _ hn (by simp [Parcel.targets])
  have hothers : ∀ m ∈ g.members, m ≠ o →
      (propagate s g rules ⟨some o, source, v⟩).1.valueOf m = v := by
    intro m hm hne
    have ht : m ∈ (⟨some o, source, v⟩ : Parcel).targets g := by simp [Parcel.targets, hm, hne]
    exact valueOf_sent hn (isHeldBack_of_not_masterSlave hmode) hrules ht (hkinds m hm) hv
  constructor
  · intro h
    obtain ⟨m, hm, hne⟩ := exists_other hn htwo o
    rw [← hself, h o ho m hm, hothers m hm hne]
  · intro h
    refine agree_of_all (v := v) ?_
    intro m hm
    by_cases hmo : m = o
    · rw [hmo, hself, h]
    · exact hothers m hm hmo

theorem agree_sent_to_all (hn : g.members.Nodup) (hmode : g.mode ≠ .masterSlave)
    (hrules : ∀ r ∈ rules, r.group ≠ g.id) (hkinds : ∀ m ∈ g.members, s.kindOf? m = some kind) :
    Agree (propagate s g rules ⟨none, source, v⟩).1 g.members ↔
      (∀ m ∈ g.members, ∃ w, s.kept m v = .ok w) ∨ Agree s g.members := by
  have hvalue : ∀ m ∈ g.members, (propagate s g rules ⟨none, source, v⟩).1.valueOf m =
      (s.kept m v).toOption.getD (s.valueOf m) := by
    intro m hm
    exact valueOf_propagate_target s hn (isHeldBack_of_not_masterSlave hmode) hrules
      (by simp [Parcel.targets, hm])
  by_cases hkept : ∃ m ∈ g.members, ∃ w, s.kept m v = .ok w
  · obtain ⟨m, hm, w, hw⟩ := hkept
    have hall : ∀ m' ∈ g.members, s.kept m' v = .ok w := fun m' hm' =>
      kept_of_same_kind (hkinds m hm) (hkinds m' hm') hw
    have hagree : Agree (propagate s g rules ⟨none, source, v⟩).1 g.members := by
      refine agree_of_all (v := w) ?_
      intro m' hm'
      rw [hvalue m' hm', hall m' hm']
      rfl
    exact ⟨fun _ => .inl fun m' hm' => ⟨w, hall m' hm'⟩, fun _ => hagree⟩
  · have hsame : ∀ m ∈ g.members,
        (propagate s g rules ⟨none, source, v⟩).1.valueOf m = s.valueOf m := by
      intro m hm
      rw [hvalue m hm]
      cases hk : s.kept m v with
      | ok w => exact absurd ⟨m, hm, w, hk⟩ hkept
      | error e => rfl
    rw [agree_congr hsame]
    constructor
    · exact .inr
    · rintro (hall | h)
      · intro a ha
        exact absurd ⟨a, ha, hall a ha⟩ hkept
      · exact h

end Sending

namespace Coordinator

variable {c d : Coordinator} {l : LiveGroup} {id : String} {members : List String} {kind : Kind}
  {op : Operation}

structure Linked (c : Coordinator) (id : String) (members : List String) (kind : Kind)
    (l : LiveGroup) : Prop where
  live : c.live? id = some l
  group : l.group.members = members ∧ l.group.enabled = true ∧ l.group.mode = .bidirectional
  window : ∀ w ∈ l.window, w.control ∈ members ∧ w.value.fits kind = true
  rules : ∀ r ∈ c.rules, r.group ≠ id
  kinds : ∀ m ∈ members, c.store.kindOf? m = some kind

structure Bystands (c : Coordinator) (id : String) (members : List String) (d : Coordinator) :
    Prop where
  live : ∀ l, c.live? id = some l → ∃ phase timer generation, d.live? id =
    some { l with phase := phase, timer := timer, generation := generation }
  values : ∀ m ∈ members, d.store.valueOf m = c.store.valueOf m
  kinds : ∀ m ∈ members, d.store.kindOf? m = c.store.kindOf? m
  rules : d.rules = c.rules
  conflicts : ∀ k ∈ c.conflicts, k.group = id → k ∈ d.conflicts

theorem Bystands.refl (c : Coordinator) (id : String) (members : List String) :
    Bystands c id members c :=
  ⟨fun l hl => ⟨l.phase, l.timer, l.generation, hl⟩, fun _ _ => rfl, fun _ _ => rfl, rfl,
    fun _ hk _ => hk⟩

theorem Linked.bystands (h : Linked c id members kind l) (hb : Bystands c id members d) :
    ∃ k, Linked d id members kind k ∧ k.window = l.window := by
  obtain ⟨phase, timer, generation, hlive⟩ := hb.live l h.live
  refine ⟨_, ⟨hlive, h.group, h.window, hb.rules ▸ h.rules, ?_⟩, rfl⟩
  intro m hm
  exact (hb.kinds m hm).trans (h.kinds m hm)

theorem Linked.nodup (h : Linked c id members kind l) (hwk : WellKept c.roster) :
    members.Nodup := by
  rw [← h.group.1]
  exact nodup_of_live? hwk h.live

theorem Linked.two_le (h : Linked c id members kind l) (hwk : WellKept c.roster) :
    2 ≤ members.length := by
  rw [← h.group.1]
  exact hwk.two_le _ (List.mem_map_of_mem (mem_of_live? h.live))

theorem Linked.not_mem (h : Linked c id members kind l) (hwk : WellKept c.roster) {k : LiveGroup}
    (hk : c.live? k.id = some k) (hne : k.id ≠ id) : ∀ m ∈ members, m ∉ k.group.members := by
  intro m hm hmk
  rw [← h.group.1] at hm
  have he := eq_of_common_member hwk (mem_of_live? h.live) (mem_of_live? hk) hm hmk
  exact hne (he ▸ id_of_live? h.live)

theorem Linked.values_propagate (h : Linked c id members kind l) (hwk : WellKept c.roster)
    {k : LiveGroup} (hk : c.live? k.id = some k) (hne : k.id ≠ id) (p : Parcel) :
    (∀ m ∈ members, (propagate c.store k.group c.rules p).1.valueOf m = c.store.valueOf m) ∧
      ∀ m, (propagate c.store k.group c.rules p).1.kindOf? m = c.store.kindOf? m := by
  have hn : k.group.members.Nodup := nodup_of_live? hwk hk
  refine ⟨?_, kindOf?_propagate c.store c.rules p hn⟩
  intro m hm
  refine valueOf_propagate_of_not_mem c.store c.rules p hn ?_
  exact fun ht => h.not_mem hwk hk hne m hm ((List.mem_filter.mp ht).1)

theorem Linked.closes_other (h : Linked c id members kind l) (hwk : WellKept c.roster)
    {k : LiveGroup} (hclose : c.Closes op k) (hne : k.id ≠ id) (now : Int) :
    Bystands c id members (c.perform now op) := by
  have hs := hclose.spares now
  have hstore : (∀ m ∈ members, (c.perform now op).store.valueOf m = c.store.valueOf m) ∧
      ∀ m, (c.perform now op).store.kindOf? m = c.store.kindOf? m := by
    cases hlast : k.window.getLast? with
    | none =>
      rw [(hclose.empty (List.getLast?_eq_none_iff.mp hlast) now).1]
      exact ⟨fun _ _ => rfl, fun _ => rfl⟩
    | some last =>
      cases hd : c.decision k last with
      | none =>
        rw [(hclose.waiting hlast hd now).1]
        exact ⟨fun _ _ => rfl, fun _ => rfl⟩
      | some sent =>
        rw [(hclose.sent hlast hd now).1]
        exact h.values_propagate hwk hclose.1 hne _
  obtain ⟨ks, hks, _⟩ := hs.conflicts
  refine ⟨?_, hstore.1, fun m _ => hstore.2 m, hs.rules, ?_⟩
  · intro k' hk'
    exact ⟨k'.phase, k'.timer, k'.generation, (hs.others id (Ne.symm hne)).trans hk'⟩
  · intro j hj _
    exact hks ▸ List.mem_append_left ks hj

theorem Linked.flush_other (h : Linked c id members kind l) {i : String} (now : Int)
    (hno : ∀ k, ¬ c.Closes (.flush i) k) : Bystands c id members (c.perform now (.flush i)) := by
  refine after_induction (.refl c id members) ?_
  intro o ho
  obtain ⟨k, hk, ⟨he, hnext⟩ | ⟨he, _⟩⟩ := flush_eq_ok ho
  · have hne : id ≠ k.id := by
      intro hid
      obtain rfl := id_of_live? hk
      rw [← hid, h.live] at hk
      obtain rfl := Option.some.inj hk
      rw [h.group.2.1] at he
      cases he
    have hk : c.live? k.id = some k := id_of_live? hk ▸ hk
    rw [hnext]
    refine ⟨?_, fun _ _ => rfl, fun _ _ => rfl, rfl, fun _ hj _ => hj⟩
    intro k' hk'
    exact ⟨k'.phase, k'.timer, k'.generation, ((unwound_disarm hk).others id hne).trans hk'⟩
  · obtain rfl := id_of_live? hk
    exact absurd ⟨hk, he, rfl⟩ (hno k)

theorem Linked.expire_other {t : Timer} (now : Int)
    (hno : ∀ k, ¬ c.Closes (.expire t) k) : Bystands c id members (c.perform now (.expire t)) := by
  simp only [perform]
  by_cases ht : t ∈ c.timers
  · rw [if_pos ht]
    rcases fire_cases c t now with ⟨he, _⟩ | ⟨k, hk, hgen, he, _⟩
    · rw [he]
      exact ⟨fun k hk => ⟨k.phase, k.timer, k.generation, hk⟩, fun _ _ => rfl, fun _ _ => rfl, rfl,
        fun _ hj _ => hj⟩
    · have hid := id_of_live? hk
      exact absurd ⟨hid.symm ▸ hk, he, ht, hid.symm, hgen.symm⟩ (hno k)
  · rw [if_neg ht]
    exact .refl c id members

theorem mem_replaceConflict (hnum : Numbered c) {j k k' : Conflict} (hk : k ∈ c.conflicts)
    (hid : k'.id = k.id) (hj : j ∈ c.conflicts) (hne : j ≠ k) :
    j ∈ (c.replaceConflict k').conflicts := by
  have hids : j.id ≠ k.id := by
    intro he
    have hinj := List.inj_on_of_nodup_map hnum.nodup hj hk he
    exact hne hinj
  refine List.mem_map.mpr ⟨j, hj, ?_⟩
  simp [hid, hids]

theorem Linked.resolve_other (h : Linked c id members kind l) (hwk : WellKept c.roster)
    (hnum : Numbered c) {j resolver : String} {v : Value} (now : Int)
    (hno : ∀ k, c.conflict? j = some k → k.isPending = true → k.group ≠ id) :
    Bystands c id members (c.perform now (.resolve j v resolver)) := by
  refine after_induction (.refl c id members) ?_
  rintro ⟨settled, d⟩ hd
  obtain ⟨k, hk, hcases⟩ := resolveConflict_eq_ok hd
  have hkept (hp : k.isPending = true) : ∀ i ∈ c.conflicts, i.group = id →
      i ∈ (c.replaceConflict (k.resolve v resolver now)).conflicts := by
    intro i hi hg
    refine mem_replaceConflict hnum (List.mem_of_find?_eq_some hk) (by simp) hi ?_
    exact fun he => hno k hk hp (he ▸ hg)
  rcases hcases with ⟨_, he⟩ | ⟨hp, _, he⟩ | ⟨hp, m, hm, _, he⟩
  · exact he ▸ .refl c id members
  · rw [he]
    exact ⟨fun i hi => ⟨i.phase, i.timer, i.generation, hi⟩, fun _ _ => rfl, fun _ _ => rfl, rfl,
      hkept hp⟩
  · have hne : m.id ≠ id := fun hid => hno k hk hp ((id_of_live? hm).symm.trans hid)
    obtain ⟨hvalues, hkinds⟩ := h.values_propagate hwk (id_of_live? hm ▸ hm) hne ⟨none, k.control, v⟩
    rw [he]
    refine ⟨?_, hvalues, fun i _ => hkinds i, rfl, hkept hp⟩
    intro i hi
    refine ⟨i.phase, i.timer, i.generation, ?_⟩
    rw [live?_rephase_of_ne hne.symm, live?_send_of_ne _ hne.symm]
    exact hi

end Coordinator

end LinkedControls
