import LinkedControls.Proofs.Sync.Lifecycle
import LinkedControls.Proofs.Sync.Serials

/-!
What a coordinator holds about one group, and the operations that concern one group only. Such an
operation leaves what is about the other groups, and the controls outside of its own.
-/

namespace LinkedControls.Coordinator

variable {c d e : Coordinator} {l k : LiveGroup} {g : Group} {id i control : String}
  {members others : List String} {op : Operation} {now : Int}

def rulesFor (c : Coordinator) (id : String) : List Rule := c.rules.filter (·.group == id)

def conflictsOf (c : Coordinator) (id : String) : List Conflict := c.conflicts.filter (·.group == id)

structure Alike (i : String) (c d : Coordinator) : Prop where
  settings : d.settings = c.settings
  live : d.live? i = c.live? i
  rules : d.rulesFor i = c.rulesFor i
  combinator : d.combinator? i = c.combinator? i
  timers : d.timersOf i = c.timersOf i

theorem Alike.refl (i : String) (c : Coordinator) : Alike i c c := ⟨rfl, rfl, rfl, rfl, rfl⟩

theorem Alike.trans (h : Alike i c d) (h' : Alike i d e) : Alike i c e :=
  ⟨h'.settings.trans h.settings, h'.live.trans h.live, h'.rules.trans h.rules,
    h'.combinator.trans h.combinator, h'.timers.trans h.timers⟩

structure Confined (id : String) (members : List String) (c d : Coordinator) : Prop where
  alike : ∀ i, i ≠ id → Alike i c d
  conflicts : ∀ i, i ≠ id → d.conflictsOf i = c.conflictsOf i
  store : ∀ m, m ∉ members → d.store.get? m = c.store.get? m
  rules : ∃ keep : Rule → Bool, d.rules = c.rules.filter keep

theorem filter_of_eq {rules rules' : List Rule} (h : rules' = rules) :
    ∃ keep : Rule → Bool, rules' = rules.filter keep :=
  ⟨fun _ => true, h.trans (List.filter_true rules).symm⟩

namespace Confined

theorem refl (id : String) (members : List String) (c : Coordinator) : Confined id members c c :=
  ⟨fun i _ => .refl i c, fun _ _ => rfl, fun _ _ => rfl, filter_of_eq rfl⟩

theorem rules_trans (h : Confined id members c d) (h' : Confined i others d e) :
    ∃ keep : Rule → Bool, e.rules = c.rules.filter keep := by
  obtain ⟨keep, hd⟩ := h.rules
  obtain ⟨keep', he⟩ := h'.rules
  exact ⟨_, by rw [he, hd, List.filter_filter]⟩

theorem trans (h : Confined id members c d) (h' : Confined id members d e) :
    Confined id members c e :=
  ⟨fun i hi => (h.alike i hi).trans (h'.alike i hi),
    fun i hi => (h'.conflicts i hi).trans (h.conflicts i hi),
    fun m hm => (h'.store m hm).trans (h.store m hm), h.rules_trans h'⟩

end Confined

theorem confined_update {f : LiveGroup → LiveGroup} (hid : ∀ l, l.id = id → (f l).id = id) :
    Confined id members c (c.update id f) :=
  ⟨fun _ hi => ⟨rfl, live?_update_of_ne hid hi, rfl, rfl, rfl⟩, fun _ _ => rfl, fun _ _ => rfl,
    filter_of_eq rfl⟩

theorem confined_stopTimer {timer : Option Nat}
    (h : ∀ t ∈ c.timers, timer = some t.serial → t.group = id) :
    Confined id members c (c.stopTimer timer) := by
  refine ⟨fun i hi => ⟨rfl, rfl, rfl, rfl, ?_⟩, fun _ _ => rfl, fun _ _ => rfl, filter_of_eq rfl⟩
  rw [timersOf, stopTimer, List.filter_filter]
  refine List.filter_congr fun t ht => ?_
  rcases eq_or_ne t.group i with hg | hg
  · have hne : some t.serial ≠ timer := fun he => hi (hg.symm.trans (h t ht he.symm))
    simp [hne]
  · simp [hg]

theorem confined_cancel (hl : c.live? l.id = some l) (h : Attributed c) :
    Confined l.id members c (c.cancel l) :=
  (confined_stopTimer (h.own l.id l hl)).trans (confined_update fun _ h => h)

theorem confined_disarm (hl : c.live? l.id = some l) (h : Attributed c) :
    Confined l.id members c (c.disarm l) :=
  (confined_stopTimer (h.own l.id l hl)).trans (confined_update fun _ h => h)

theorem confined_drop (hl : c.live? l.id = some l) (h : Attributed c) :
    Confined l.id members c (c.drop l) := by
  have hstopped : Confined l.id members c (c.stopTimer l.timer) :=
    confined_stopTimer (h.own l.id l hl)
  refine ⟨fun i hi => ⟨rfl, ?_, ?_, ?_, (hstopped.alike i hi).timers⟩, fun i hi => ?_, fun _ _ => rfl,
    _, rfl⟩
  · rw [live?_drop, if_neg hi]
  · exact filter_key_without hi
  · exact lookup_without hi
  · exact filter_key_without hi

theorem confined_schedule (hl : c.live? l.id = some k) (h : Attributed c)
    (htimer : k.timer = l.timer) (now : Int) : Confined l.id members c (c.schedule l now) := by
  have hstopped : Confined l.id members c (c.stopTimer l.timer) :=
    confined_stopTimer (htimer ▸ h.own l.id k hl)
  refine ⟨fun i hi => ⟨rfl, live?_schedule_of_ne hi now, rfl, rfl, ?_⟩, fun _ _ => rfl, fun _ _ => rfl,
    filter_of_eq rfl⟩
  have hnew : [c.freshTimer l now].filter (·.group == i) = [] := by simp [freshTimer, Ne.symm hi]
  have hold := (hstopped.alike i hi).timers
  change ((c.stopTimer l.timer).timers ++ [c.freshTimer l now]).filter (·.group == i) = c.timersOf i
  rw [List.filter_append, hnew, List.append_nil]
  exact hold

theorem confined_note (hl : c.live? l.id = some l) (h : Attributed c) (w : Competing) (now : Int) :
    Confined l.id members c (c.note l w now) := by
  have hgathered : Confined l.id members c (c.update l.id fun k =>
      { k with window := LiveGroup.gather k.window w, phase := .pendingPropagation }) :=
    confined_update fun _ h => h
  have hattributed : Attributed (c.update l.id fun k =>
      { k with window := LiveGroup.gather k.window w, phase := .pendingPropagation }) := by
    refine (relaxes_update ?_ ?_).attributed h
    · exact fun _ h => h
    · exact fun _ => .inr rfl
  refine hgathered.trans (confined_schedule (live?_update_self ?_ hl) hattributed rfl now)
  exact fun _ h => h

theorem get?_propagate_of_not_mem (s : Store) (g : Group) (rules : List Rule) (p : Parcel)
    (hn : g.members.Nodup) {m : String} (hm : m ∉ g.members) :
    (propagate s g rules p).1.get? m = s.get? m := by
  cases hp : p.isHeldBack g with
  | true => rw [propagate_of_heldBack s rules hp]
  | false =>
    refine (propagate_spec s rules hn hp).others m fun ht => hm ?_
    exact (List.mem_filter.mp ht).1

theorem confined_send (hn : l.group.members.Nodup) (p : Parcel) (now : Int) :
    Confined l.id l.group.members c (c.send l p now) := by
  have hstored : Confined l.id l.group.members c
      { c with store := (propagate c.store l.group c.rules p).1 } :=
    ⟨fun _ _ => ⟨rfl, rfl, rfl, rfl, rfl⟩, fun _ _ => rfl,
      fun _ hm => get?_propagate_of_not_mem c.store l.group c.rules p hn hm, filter_of_eq rfl⟩
  exact hstored.trans (confined_update fun _ h => h)

theorem confined_settle (last : Competing) (now : Int) :
    Confined l.id members c (c.settle l last now).2 := by
  obtain ⟨ks, he, hks, -⟩ := settle_snd c l last now
  rw [he]
  refine ⟨fun _ _ => ⟨rfl, rfl, rfl, rfl, rfl⟩, fun i hi => ?_, fun _ _ => rfl, filter_of_eq rfl⟩
  have hnone : ks.filter (·.group == i) = [] := by
    refine List.filter_eq_nil_iff.mpr fun k hk hg => hi ?_
    exact (eq_of_beq hg).symm.trans (hks k hk).1
  exact (List.filter_append _ _).trans (by rw [hnone, List.append_nil]; rfl)

theorem confined_closeWindow (hl : c.live? id = some l) (hn : l.group.members.Nodup) (now : Int) :
    Confined id l.group.members c (c.closeWindow id now).1 := by
  obtain rfl := id_of_live? hl
  have hclear : Confined l.id l.group.members c (c.clearWindow l.id) := confined_update fun _ h => h
  rcases closeWindow_cases hl now with ⟨-, he⟩ | ⟨last, -, ⟨-, he⟩ | ⟨o, v, -, he⟩⟩
  · exact he ▸ hclear
  · exact he ▸ hclear.trans (confined_settle last now)
  · exact he ▸ (hclear.trans (confined_settle last now)).trans (confined_send hn _ now)

theorem conflictsOf_replaceConflict {j : Conflict}
    (h : ∀ k ∈ c.conflicts, k.id = j.id → k.group = j.group) (i : String) :
    (c.replaceConflict j).conflictsOf i =
      (c.conflictsOf i).map fun k => if k.id == j.id then j else k := by
  rw [conflictsOf, replaceConflict, List.filter_map]
  refine congrArg _ (List.filter_congr fun k hk => ?_)
  rw [Function.comp_apply]
  split
  · next hid => rw [h k hk (eq_of_beq hid)]
  · rfl

theorem group_of_conflict_id (hnum : Numbered c) {j : Conflict} (hj : j ∈ c.conflicts) :
    ∀ k ∈ c.conflicts, k.id = j.id → k.group = j.group :=
  fun _ hk hid => congrArg Conflict.group (List.inj_on_of_nodup_map hnum.nodup hk hj hid)

theorem confined_replaceConflict (hnum : Numbered c) {j j' : Conflict} (hj : j ∈ c.conflicts)
    (hid : j'.id = j.id) (hgroup : j'.group = j.group) :
    Confined j.group members c (c.replaceConflict j') := by
  have hsame : ∀ k ∈ c.conflicts, k.id = j'.id → k.group = j'.group := by
    rw [hid, hgroup]
    exact group_of_conflict_id hnum hj
  refine ⟨fun _ _ => ⟨rfl, rfl, rfl, rfl, rfl⟩, fun i hi => ?_, fun _ _ => rfl, filter_of_eq rfl⟩
  rw [conflictsOf_replaceConflict hsame]
  refine (List.map_congr_left fun k hk => ?_).trans (List.map_id _)
  obtain ⟨hk, hg⟩ := List.mem_filter.mp hk
  split
  · next he =>
    have hother := (hsame k hk (eq_of_beq he)).trans hgroup
    exact absurd ((eq_of_beq hg).symm.trans hother) hi
  · rfl

theorem confined_expel (hl : c.live? l.id = some l) (h : Attributed c) (control : String) :
    Confined l.id members c (c.expel control l).1 := by
  rcases expel_cases c control l with ⟨-, he, -⟩ | ⟨-, he⟩
  · have hgroup : Confined l.id members c ((c.cancel l).update l.id fun k =>
        { k with group := l.group.without control }) :=
      (confined_cancel hl h).trans (confined_update fun _ _ => rfl)
    rw [he]
    refine hgroup.trans ⟨fun i hi => ⟨rfl, rfl, ?_, rfl, rfl⟩, fun _ _ => rfl, fun _ _ => rfl, _, rfl⟩
    change (c.rules.filter fun r => !r.touches l.id control).filter (·.group == i) = c.rulesFor i
    rw [List.filter_filter]
    refine List.filter_congr fun r _ => ?_
    rcases eq_or_ne r.group i with hg | hg
    · simp [Rule.touches, hg, hi]
    · simp [hg]
  · rw [he]
    exact confined_drop hl h

def addressed? (c : Coordinator) : Operation → Option String
  | .change control _ _ => (c.liveOf? control).map (·.id)
  | .expire t => some t.group
  | .flush id => some id
  | .resolve id _ _ => (c.conflict? id).map (·.group)
  | .ignore id => (c.conflict? id).map (·.group)
  | .setEnabled id _ => some id
  | .removeMember id _ => some id
  | _ => none

def membersIn (c : Coordinator) (id : String) : List String := (c.membersOf? id).getD []

theorem membersIn_of_live? (hl : c.live? id = some l) : c.membersIn id = l.group.members := by
  rw [membersIn, membersOf?, hl]
  rfl

theorem mem_membersIn_of_liveOf? (hwk : WellKept c.roster) (hl : c.liveOf? control = some l) :
    control ∈ c.membersIn l.id := by
  rw [membersIn_of_live? (live?_of_wellKept hwk (mem_of_liveOf? hl))]
  exact mem_of_find?_contains hl

theorem confined_handleChange (h : Reachable c) (hl : c.liveOf? control = some l) {v : Value}
    {origin : Origin} {r : Change × Coordinator} (hr : c.handleChange control v origin now = .ok r) :
    Confined l.id (c.membersIn l.id) c r.2 := by
  have hlive := live?_of_wellKept h.wellKept (mem_of_liveOf? hl)
  obtain ⟨store, hwrite, hcases⟩ := handleChange_eq_ok hr
  have hstored : Confined l.id (c.membersIn l.id) c { c with store := store } := by
    refine ⟨fun _ _ => ⟨rfl, rfl, rfl, rfl, rfl⟩, fun _ _ => rfl, fun m hm => ?_, filter_of_eq rfl⟩
    refine Store.get?_write_of_ne hwrite fun he => hm ?_
    exact he ▸ mem_membersIn_of_liveOf? h.wellKept hl
  rcases hcases with ⟨he, -⟩ | ⟨-, k, hk, -, he⟩
  · exact he ▸ hstored
  · obtain rfl := Option.some.inj (hl.symm.trans hk)
    have hrelaxed : Relaxes c { c with store := store } := .of_groups rfl (.refl _) rfl
    have hown := hrelaxed.attributed h.attributed
    exact he ▸ hstored.trans (confined_note (c := { c with store := store }) hlive hown _ now)

theorem confined_fire (h : Reachable c) {t : Timer} (ht : t ∈ c.timers) (now : Int) :
    Confined t.group (c.membersIn t.group) c (c.fire t now).1 := by
  have hstopped : Confined t.group (c.membersIn t.group) c (c.stopTimer (some t.serial)) := by
    refine confined_stopTimer fun u hu he => ?_
    rw [List.inj_on_of_nodup_map h.attributed.serials hu ht (Option.some.inj he).symm]
  rcases fire_cases c t now with ⟨he, -⟩ | ⟨l, hl, -, -, he⟩
  · exact he ▸ hstopped
  · have hcleared : Confined t.group (c.membersIn t.group) (c.stopTimer (some t.serial))
        ((c.stopTimer (some t.serial)).update t.group fun k => { k with timer := none }) :=
      confined_update fun _ h => h
    have hlive := live?_update_self (c := c.stopTimer (some t.serial))
      (f := fun k => { k with timer := none }) (fun _ h => h) hl
    have hn : l.group.members.Nodup := nodup_of_live? h.wellKept hl
    have hclosed := confined_closeWindow hlive hn now
    rw [he]
    rw [membersIn_of_live? hl] at hstopped hcleared ⊢
    exact (hstopped.trans hcleared).trans hclosed

theorem confined_flush (h : Reachable c) {o : Outcome Unit} (ho : c.flush id now = .ok o) :
    Confined id (c.membersIn id) c o.next := by
  obtain ⟨l, hl, hcases⟩ := flush_eq_ok ho
  obtain rfl := id_of_live? hl
  rw [membersIn_of_live? hl]
  have hn : l.group.members.Nodup := nodup_of_live? h.wellKept hl
  have hdisarmed : Confined l.id l.group.members c (c.disarm l) := confined_disarm hl h.attributed
  rcases hcases with ⟨-, he⟩ | ⟨-, he⟩
  · exact he ▸ hdisarmed
  · obtain ⟨generation, hlive⟩ := (unwound_disarm hl).live
    exact he ▸ hdisarmed.trans (confined_closeWindow hlive hn now)

theorem confined_resolveConflict (h : Reachable c) {j : Conflict} (hj : c.conflict? id = some j)
    {v : Value} {resolver : String} {r : Conflict × Coordinator}
    (hr : c.resolveConflict id v resolver now = .ok r) :
    Confined j.group (c.membersIn j.group) c r.2 := by
  obtain ⟨k, hk, hcases⟩ := resolveConflict_eq_ok hr
  obtain rfl := Option.some.inj (hj.symm.trans hk)
  have hreplaced : Confined j.group (c.membersIn j.group) c
      (c.replaceConflict (j.resolve v resolver now)) :=
    confined_replaceConflict h.numbered (mem_of_conflict? hj) (j.id_resolve v resolver now)
      (j.group_resolve v resolver now)
  rcases hcases with ⟨-, he⟩ | ⟨-, -, he⟩ | ⟨-, l, hl, -, he⟩
  · rw [he]
    exact .refl _ _ c
  · exact he ▸ hreplaced
  · have hid := id_of_live? hl
    have hsent := confined_send (c := c.replaceConflict (j.resolve v resolver now))
      (nodup_of_live? h.wellKept hl) ⟨none, j.control, v⟩ now
    rw [hid, ← membersIn_of_live? hl] at hsent
    rw [he]
    refine (hreplaced.trans hsent).trans ?_
    rw [rephase, hid]
    exact confined_update fun _ h => h

theorem confined_setEnabled (h : Reachable c) {enabled : Bool} {o : Outcome Group}
    (ho : c.setEnabled id enabled = .ok o) : Confined id members c o.next := by
  obtain ⟨l, hl, he⟩ := setEnabled_eq_ok ho
  obtain rfl := id_of_live? hl
  have hbefore : Confined l.id members c (if enabled then c else c.cancel l) := by
    split
    · exact .refl _ _ c
    · exact confined_cancel hl h.attributed
  exact he ▸ hbefore.trans (confined_update fun _ _ => rfl)

theorem confined_perform (h : Reachable c) (hop : c.addressed? op = some id) (now : Int) :
    Confined id (c.membersIn id) c (c.perform now op) := by
  have keep {ε α : Type} {next : α → Coordinator} {r : Except ε α}
      (hok : ∀ a, r = .ok a → Confined id (c.membersIn id) c (next a)) :
      Confined id (c.membersIn id) c (c.after next r) :=
    after_induction (.refl id _ c) hok
  cases op with
  | change control v origin =>
    obtain ⟨l, hl, rfl⟩ := Option.map_eq_some_iff.mp hop
    exact keep fun r hr => confined_handleChange h hl hr
  | expire t =>
    obtain rfl := Option.some.inj hop
    simp only [perform]
    split
    · next ht => exact confined_fire h ht now
    · exact .refl _ _ c
  | flush i =>
    obtain rfl := Option.some.inj hop
    exact keep fun o ho => confined_flush h ho
  | resolve i v resolver =>
    obtain ⟨j, hj, rfl⟩ := Option.map_eq_some_iff.mp hop
    exact keep fun r hr => confined_resolveConflict h hj hr
  | ignore i =>
    obtain ⟨j, hj, rfl⟩ := Option.map_eq_some_iff.mp hop
    refine keep fun a ha => ?_
    obtain ⟨k, hk, he⟩ := ignoreConflict_eq_ok ha
    obtain rfl := Option.some.inj (hj.symm.trans hk)
    exact he ▸ confined_replaceConflict h.numbered (mem_of_conflict? hj) (Conflict.id_ignore now)
      (Conflict.group_ignore now)
  | setEnabled i enabled =>
    obtain rfl := Option.some.inj hop
    exact keep fun o ho => confined_setEnabled h ho
  | removeMember i control =>
    obtain rfl := Option.some.inj hop
    refine keep fun o ho => ?_
    obtain ⟨l, hl, -, he⟩ := removeMember_eq_ok ho
    obtain rfl := id_of_live? hl
    exact he ▸ confined_expel hl h.attributed control
  | _ => cases hop

end LinkedControls.Coordinator
