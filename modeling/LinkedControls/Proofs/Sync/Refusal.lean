import LinkedControls.Proofs.Sync.Mirror

/-!
Operations whose calls to the repository are refused. The coordinator changes first and calls the
repository afterwards, and nothing takes the change back.
-/

namespace LinkedControls

namespace Repository

def attempt (refusal : Nat → Option RepositoryError) (r : Repository) :
    List RepositoryCall → Except SyncError Unit × Repository
  | [] => (.ok (), r)
  | k :: rest =>
      match refusal 0 with
      | some e => (.error e.toSyncError, r)
      | none => attempt (fun n => refusal (n + 1)) (r.call k) rest

variable {refusal : Nat → Option RepositoryError} {r r' : Repository} {calls : List RepositoryCall}

theorem attempt_of_accepted (h : ∀ n, refusal n = none) :
    r.attempt refusal calls = (.ok (), r.callAll calls) := by
  induction calls generalizing r refusal with
  | nil => rfl
  | cons k rest ih =>
    simp only [attempt, h 0]
    exact ih fun n => h (n + 1)

theorem attempt_eq_error {e : SyncError} (h : r.attempt refusal calls = (.error e, r')) :
    ∃ n refused, n < calls.length ∧ refusal n = some refused ∧ (∀ i < n, refusal i = none) ∧
      e = refused.toSyncError ∧ r' = r.callAll (calls.take n) := by
  induction calls generalizing r refusal with
  | nil => cases h
  | cons k rest ih =>
    simp only [attempt] at h
    split at h
    · next refused hrefused =>
      cases h
      exact ⟨0, refused, Nat.zero_lt_succ _, hrefused, fun _ hi => absurd hi (Nat.not_lt_zero _),
        rfl, rfl⟩
    · next haccepted =>
      obtain ⟨n, refused, hn, hrefused, hbefore, he, hr'⟩ := ih h
      refine ⟨n + 1, refused, Nat.succ_lt_succ hn, hrefused, fun i hi => ?_, he, hr'⟩
      cases i with
      | zero => exact haccepted
      | succ i => exact hbefore i (Nat.lt_of_succ_lt_succ hi)

end Repository

def Operation.defines : Operation → Bool
  | .createGroup _ => true
  | .updateGroup _ => true
  | .deleteGroup _ => true
  | .addMember _ _ => true
  | .removeMember _ _ => true
  | .setEnabled _ _ => true
  | _ => false

namespace Coordinator

variable {c d : Coordinator} {l k : LiveGroup} {g : Group} {id control keep : String} {now : Int}
  {op : Operation} {refusal : Nat → Option RepositoryError} {r r' : Repository} {m : String}

def undertake (c : Coordinator) (now : Int) (op : Operation) (r : Repository)
    (refusal : Nat → Option RepositoryError) : Except SyncError Unit × Coordinator × Repository :=
  match c.issue now op with
  | .error e => (.error e, c, r)
  | .ok o => ((r.attempt refusal o.writes.calls).1, o.next, (r.attempt refusal o.writes.calls).2)

theorem undertake_of_accepted {o : Outcome Unit} (ho : c.issue now op = .ok o)
    (hrefusal : ∀ n, refusal n = none) :
    c.undertake now op r refusal = (.ok (), o.next, r.callAll o.writes.calls) := by
  simp only [undertake, ho, Repository.attempt_of_accepted hrefusal]

theorem coordinator_undertake (c : Coordinator) (now : Int) (op : Operation) (r : Repository)
    (refusal : Nat → Option RepositoryError) :
    (c.undertake now op r refusal).2.1 = c.perform now op := by
  rw [perform_eq_issue, undertake]
  cases c.issue now op with
  | error e => rfl
  | ok o => rfl

structure SameMemory (c d : Coordinator) : Prop where
  groups : ∀ id, (d.live? id).map LiveGroup.seen = (c.live? id).map LiveGroup.seen
  rules : d.rules = c.rules
  conflicts : d.conflicts = c.conflicts
  combinators : d.combinators = c.combinators

theorem SameMemory.live?_eq_none (h : SameMemory c d) (id : String) :
    d.live? id = none ↔ c.live? id = none := by
  rw [← Option.map_eq_none_iff (f := LiveGroup.seen), h.groups, Option.map_eq_none_iff]

theorem SameMemory.seen_eq (h : SameMemory c d) (hl : c.live? id = some l)
    (hk : d.live? id = some k) : k.seen = l.seen := by
  have hgroups := h.groups id
  rw [hl, hk] at hgroups
  exact Option.some.inj hgroups

theorem sameMemory_of_one (hl : c.live? id = some l) (hk : d.live? id = some k)
    (hseen : k.seen = l.seen) (hothers : ∀ i, i ≠ id → d.live? i = c.live? i)
    (hrules : d.rules = c.rules) (hconflicts : d.conflicts = c.conflicts)
    (hcombinators : d.combinators = c.combinators) : SameMemory c d := by
  refine ⟨fun i => ?_, hrules, hconflicts, hcombinators⟩
  rcases eq_or_ne i id with rfl | hi
  · rw [hl, hk, Option.map_some, Option.map_some, hseen]
  · rw [hothers i hi]

theorem seen_with_group (l : LiveGroup) (g : Group) :
    ({ l with group := g } : LiveGroup).seen = l.seen ↔ g = l.group := by
  simp [LiveGroup.seen]

theorem seen_reset_with_group (l : LiveGroup) (g : Group) :
    ({ l.reset with group := g } : LiveGroup).seen = l.seen ↔
      g = l.group ∧ l.window = [] ∧ l.phase = .idle := by
  simp only [LiveGroup.seen, LiveGroup.reset, LiveGroup.mk.injEq, true_and, and_true]
  constructor
  · rintro ⟨hg, hphase, hwindow⟩
    exact ⟨hg, hwindow.symm, hphase.symm⟩
  · rintro ⟨hg, hwindow, hphase⟩
    exact ⟨hg, hphase.symm, hwindow.symm⟩

/-- The call finds nothing to change: a group is already on or off, or has the new definition and no
writes in its window. -/
def FindsNothing (c : Coordinator) : Operation → Prop
  | .updateGroup g => ∃ l, c.live? g.id = some l ∧
      { g with lastSync := g.lastSync <|> l.group.lastSync } = l.group ∧
      (l.window = [] ∧ l.phase = .idle) ∧
      ∀ r ∈ c.rules, r.group = g.id → r.source ∈ g.members ∧ r.target ∈ g.members
  | .setEnabled id enabled => ∃ l, c.live? id = some l ∧ l.group.enabled = enabled ∧
      (enabled = true ∨ l.window = [] ∧ l.phase = .idle)
  | _ => False

theorem detach_of_free (h : ∀ k ∈ c.groups, k.id ≠ keep → control ∉ k.group.members) :
    c.detach control keep = (c, .none) := by
  have hnone : (c.groups.filter fun k => k.id != keep && k.group.contains control) = [] := by
    refine List.filter_eq_nil_iff.mpr fun k hk => ?_
    simpa [Group.contains] using h k hk
  rw [detach, hnone]
  rfl

theorem detachAll_of_free {controls : List String}
    (h : ∀ m ∈ controls, ∀ k ∈ c.groups, k.id ≠ keep → m ∉ k.group.members) :
    c.detachAll controls keep = (c, .none) := by
  induction controls with
  | nil => rfl
  | cons m rest ih =>
    simp only [detachAll, List.foldl_cons, detach_of_free (h m List.mem_cons_self)]
    exact ih fun m hm => h m (List.mem_cons_of_mem _ hm)

theorem not_sameMemory_createGroup {o : Outcome Group} (ho : c.createGroup g = .ok o) :
    ¬ SameMemory c o.next := by
  obtain ⟨-, hnone, hnext⟩ := createGroup_eq_ok ho
  intro h
  have hlost := (h.live?_eq_none g.id).mpr hnone
  rw [hnext, live?_takeIn, if_pos rfl] at hlost
  cases hlost

theorem not_sameMemory_deleteGroup {o : Outcome Unit} (ho : c.deleteGroup id = .ok o) :
    ¬ SameMemory c o.next := by
  obtain ⟨l, hl, hnext⟩ := deleteGroup_eq_ok ho
  intro h
  have hlost : o.next.live? id = none := by
    rw [hnext, live?_drop, if_pos (id_of_live? hl).symm]
  rw [(h.live?_eq_none id).mp hlost] at hl
  cases hl

theorem not_sameMemory_addMember {o : Outcome Group} (hwk : WellKept c.roster)
    (ho : c.addMember id control = .ok o) (hwrites : o.writes ≠ .none) :
    ¬ SameMemory c o.next := by
  obtain ⟨l, hl, ⟨hm, -⟩ | ⟨hm, hnext⟩⟩ := addMember_eq_ok ho
  · rw [addMember_of_mem hl hm] at ho
    cases ho
    exact absurd rfl hwrites
  · intro h
    obtain rfl := id_of_live? hl
    have hkeep : (c.detach control l.id).1.live? l.id = some l :=
      (live?_detachAll_keep hwk [control]).trans hl
    have hself : o.next.live? l.id =
        some { l.reset with group := { l.group with members := l.group.members ++ [control] } } := by
      rw [hnext, live?_enrol hkeep, if_pos rfl]
    have hseen := (seen_reset_with_group l _).mp (h.seen_eq hl hself)
    have hmembers := congrArg Group.members hseen.1
    simp at hmembers

theorem not_sameMemory_removeMember {o : Outcome (Option Group)}
    (ho : c.removeMember id control = .ok o) : ¬ SameMemory c o.next := by
  obtain ⟨l, hl, hm, hnext⟩ := removeMember_eq_ok ho
  intro h
  obtain rfl := id_of_live? hl
  have hself : o.next.live? l.id = if (l.group.without control).isValid then
      some { l.reset with group := l.group.without control } else none := by
    rw [hnext, live?_expel hl, if_pos rfl]
  split at hself
  · have hseen := (seen_reset_with_group l _).mp (h.seen_eq hl hself)
    have hlt := length_members_without hm
    rw [hseen.1] at hlt
    exact Nat.lt_irrefl _ hlt
  · rw [(h.live?_eq_none l.id).mp hself] at hl
    cases hl

theorem sameMemory_setEnabled_iff {enabled : Bool} {o : Outcome Group}
    (ho : c.setEnabled id enabled = .ok o) :
    SameMemory c o.next ↔ c.FindsNothing (.setEnabled id enabled) := by
  obtain ⟨l, hl, hnext⟩ := setEnabled_eq_ok ho
  obtain rfl := id_of_live? hl
  have hself := live?_setEnabled (i := l.id) hl ho
  rw [if_pos rfl] at hself
  constructor
  · intro h
    have hseen := h.seen_eq hl hself
    refine ⟨l, hl, ?_⟩
    cases enabled with
    | true => exact ⟨(congrArg Group.enabled ((seen_with_group l _).mp hseen)).symm, .inl rfl⟩
    | false =>
      obtain ⟨hg, hidle⟩ := (seen_reset_with_group l _).mp hseen
      exact ⟨(congrArg Group.enabled hg).symm, .inr hidle⟩
  · rintro ⟨k, hk, rfl, hidle⟩
    obtain rfl := Option.some.inj (hl.symm.trans hk)
    refine sameMemory_of_one hl hself ?_ (fun i hi => ?_) ?_ ?_ ?_
    · split
      · exact (seen_with_group l _).mpr rfl
      · next hoff => exact (seen_reset_with_group l _).mpr ⟨rfl, hidle.resolve_left hoff⟩
    · rw [live?_setEnabled hl ho, if_neg hi]
    all_goals rw [hnext]; split <;> rfl

theorem rules_redefine (c : Coordinator) (g : Group) : (c.redefine g).rules =
    c.rules.filter fun r => r.group != g.id || (g.contains r.source && g.contains r.target) := rfl

theorem sameMemory_updateGroup_iff {o : Outcome Group} (hwk : WellKept c.roster)
    (ho : c.updateGroup g = .ok o) :
    SameMemory c o.next ↔ c.FindsNothing (.updateGroup g) := by
  obtain ⟨hg, l, hl, hnext⟩ := updateGroup_eq_ok ho
  have hid := id_of_live? hl
  have hwk' : WellKept (c.cancel l).roster := by rwa [roster_cancel]
  have hreset : (c.cancel l).live? g.id = some l.reset := by
    rw [live?_cancel, if_pos hid.symm, hl, Option.map_some]
  have hself : o.next.live? g.id = some { l.reset with
      group := { g with lastSync := g.lastSync <|> l.group.lastSync } } := by
    rw [hnext, live?_redefine ((live?_detachAll_keep hwk' g.members).trans hreset)]
    rfl
  have hkept (r : Rule) : (r.group != g.id || (g.contains r.source && g.contains r.target)) = true ↔
      (r.group = g.id → r.source ∈ g.members ∧ r.target ∈ g.members) := by
    simp [Group.contains, imp_iff_not_or]
  constructor
  · intro h
    obtain ⟨hgroup, hidle⟩ := (seen_reset_with_group l _).mp (h.seen_eq hl hself)
    refine ⟨l, hl, hgroup, hidle, fun r hr => ?_⟩
    rw [← h.rules, hnext, rules_redefine] at hr
    exact (hkept r).mp (List.mem_filter.mp hr).2
  · rintro ⟨k, hk, hgroup, hidle, hrules⟩
    obtain rfl := Option.some.inj (hl.symm.trans hk)
    -- nobody else has a member of the group, so that nobody loses one to it
    have hfree : ∀ m ∈ g.members, ∀ k ∈ (c.cancel l).groups, k.id ≠ g.id → m ∉ k.group.members := by
      intro m hm k hk hne hmk
      have hml : m ∈ l.reset.group.members := (congrArg Group.members hgroup) ▸ hm
      have hkl := eq_of_common_member hwk' hk (mem_of_live? hreset) hmk hml
      exact hne (hkl ▸ hid)
    rw [detachAll_of_free hfree] at hnext
    refine sameMemory_of_one hl hself ((seen_reset_with_group l _).mpr ⟨hgroup, hidle⟩)
      (fun i hi => ?_) ?_ ?_ ?_
    · rw [hnext, live?_redefine_of_ne hi, live?_cancel, if_neg (hid ▸ hi)]
    · rw [hnext, rules_redefine]
      exact List.filter_eq_self.mpr fun r hr => (hkept r).mpr (hrules r hr)
    · rw [hnext]
      rfl
    · rw [hnext]
      rfl

theorem store_expel : (c.expel control l).1.store = c.store := by
  rcases expel_cases c control l with ⟨-, he, -⟩ | ⟨-, he⟩
  · rw [he]
    rfl
  · rw [he]
    rfl

theorem store_detachAll (hwk : WellKept c.roster) (controls : List String) (keep : String) :
    (c.detachAll controls keep).1.store = c.store :=
  detachAll_of_expel (P := fun d => d.store = c.store) hwk rfl
    (fun _ _ _ _ hd _ _ _ => store_expel.trans hd) controls

theorem store_issue (hwk : WellKept c.roster) (hop : op.defines = true) {o : Outcome Unit}
    (ho : c.issue now op = .ok o) : o.next.store = c.store := by
  cases op with
  | createGroup g =>
    obtain ⟨a, ha, rfl⟩ := silent_eq_ok ho
    obtain ⟨-, -, hnext⟩ := createGroup_eq_ok ha
    rw [Outcome.silent, hnext, takeIn, store_detachAll hwk]
  | updateGroup g =>
    obtain ⟨a, ha, rfl⟩ := silent_eq_ok ho
    obtain ⟨-, l, -, hnext⟩ := updateGroup_eq_ok ha
    have hwk' : WellKept (c.cancel l).roster := by rwa [roster_cancel]
    have hredefined (d : Coordinator) : (d.redefine g).store = d.store := rfl
    rw [Outcome.silent, hnext, hredefined, store_detachAll hwk']
    rfl
  | deleteGroup id =>
    obtain ⟨l, -, hnext⟩ := deleteGroup_eq_ok ho
    rw [hnext]
    rfl
  | addMember id control =>
    obtain ⟨a, ha, rfl⟩ := silent_eq_ok ho
    obtain ⟨l, -, ⟨-, hnext⟩ | ⟨-, hnext⟩⟩ := addMember_eq_ok ha
    · exact congrArg store hnext
    · have hdetached : (c.detach control id).1.store = c.store := store_detachAll hwk [control] id
      have henrolled (d : Coordinator) : (d.enrol l control).store = d.store := rfl
      rw [Outcome.silent, hnext, henrolled, hdetached]
  | removeMember id control =>
    obtain ⟨a, ha, rfl⟩ := silent_eq_ok ho
    obtain ⟨l, -, -, hnext⟩ := removeMember_eq_ok ha
    exact (congrArg store hnext).trans store_expel
  | setEnabled id enabled =>
    obtain ⟨a, ha, rfl⟩ := silent_eq_ok ho
    obtain ⟨l, -, hnext⟩ := setEnabled_eq_ok ha
    refine (congrArg store hnext).trans ?_
    cases enabled with
    | true => rfl
    | false => rfl
  | _ => cases hop

theorem sameMemory_issue_iff (hwk : WellKept c.roster) (hop : op.defines = true) {o : Outcome Unit}
    (ho : c.issue now op = .ok o) (hwrites : o.writes ≠ .none) :
    SameMemory c o.next ↔ c.FindsNothing op := by
  cases op with
  | createGroup g =>
    obtain ⟨a, ha, rfl⟩ := silent_eq_ok ho
    exact iff_of_false (not_sameMemory_createGroup ha) not_false
  | updateGroup g =>
    obtain ⟨a, ha, rfl⟩ := silent_eq_ok ho
    exact sameMemory_updateGroup_iff hwk ha
  | deleteGroup id => exact iff_of_false (not_sameMemory_deleteGroup ho) not_false
  | addMember id control =>
    obtain ⟨a, ha, rfl⟩ := silent_eq_ok ho
    exact iff_of_false (not_sameMemory_addMember hwk ha hwrites) not_false
  | removeMember id control =>
    obtain ⟨a, ha, rfl⟩ := silent_eq_ok ho
    exact iff_of_false (not_sameMemory_removeMember ha) not_false
  | setEnabled id enabled =>
    obtain ⟨a, ha, rfl⟩ := silent_eq_ok ho
    exact sameMemory_setEnabled_iff ha
  | _ => cases hop

theorem bind_ne_error {α β : Type} {e : SyncError} {x : Except SyncError α}
    {f : α → Except SyncError β} (hx : x ≠ .error e) (hf : ∀ a, x = .ok a → f a ≠ .error e) :
    (x >>= f) ≠ .error e := by
  cases x with
  | ok a => exact hf a rfl
  | error e' => exact fun h => hx (congrArg Except.error (Except.error.inj (id h)))

theorem need_ne_repository : c.need id ≠ .error (.repository m) := by
  rw [need]
  split <;> simp

theorem validate_ne_repository : g.validate ≠ .error (.repository m) := by
  rw [Group.validate]
  split <;> simp

theorem map_ne_error {α β : Type} {e : SyncError} {x : Except SyncError α} {f : α → β}
    (hx : x ≠ .error e) : x.map f ≠ .error e := by
  cases x with
  | ok a => exact fun h => by cases h
  | error e' => exact fun h => hx (congrArg Except.error (Except.error.inj h))

theorem issue_ne_repository (hop : op.defines = true) :
    c.issue now op ≠ .error (.repository m) := by
  cases op with
  | createGroup g =>
    apply map_ne_error
    apply bind_ne_error validate_ne_repository
    intro _ _
    cases c.live? g.id with
    | none => nofun
    | some l => nofun
  | updateGroup g =>
    apply map_ne_error
    apply bind_ne_error validate_ne_repository
    intro _ _
    apply bind_ne_error need_ne_repository
    intro _ _
    nofun
  | deleteGroup id =>
    apply bind_ne_error need_ne_repository
    intro _ _
    nofun
  | addMember id control =>
    apply map_ne_error
    apply bind_ne_error need_ne_repository
    intro l _
    cases l.group.contains control with
    | true => nofun
    | false => nofun
  | removeMember id control =>
    apply map_ne_error
    apply bind_ne_error need_ne_repository
    intro l _
    cases l.group.contains control with
    | true => nofun
    | false => nofun
  | setEnabled id enabled =>
    apply map_ne_error
    apply bind_ne_error need_ne_repository
    intro _ _
    nofun
  | _ => cases hop

theorem change_outlives_refusal (hc : Reachable c) (hop : op.defines = true)
    (h : c.undertake now op r refusal = (.error (.repository m), d, r')) :
    d = c.perform now op ∧
      (∃ made, c.undertake now op r (fun _ => none) = (.ok (), d, made)) ∧
      (∃ o n refused, c.issue now op = .ok o ∧ n < o.writes.calls.length ∧
        refusal n = some refused ∧ (∀ i < n, refusal i = none) ∧ m = refused.message ∧
        r' = r.callAll (o.writes.calls.take n)) ∧
      d.store = c.store ∧ (SameMemory c d ↔ c.FindsNothing op) := by
  have hwk := hc.wellKept
  cases ho : c.issue now op with
  | error e =>
    rw [undertake, ho, Prod.mk.injEq, Except.error.injEq] at h
    exact absurd (h.1 ▸ ho) (issue_ne_repository hop)
  | ok o =>
    rw [undertake, ho, Prod.mk.injEq, Prod.mk.injEq] at h
    obtain ⟨hanswer, rfl, hrepository⟩ := h
    obtain ⟨n, refused, hn, hrefused, hbefore, he, hmade⟩ :=
      Repository.attempt_eq_error (Prod.ext hanswer hrepository)
    have hwrites : o.writes ≠ .none := by
      intro hnone
      rw [hnone] at hn
      exact Nat.not_lt_zero n hn
    refine ⟨(perform_of_issue ho).symm, ⟨_, undertake_of_accepted ho fun _ => rfl⟩,
      ⟨o, n, refused, rfl, hn, hrefused, hbefore, SyncError.repository.inj he, hmade⟩,
      store_issue hwk hop ho, sameMemory_issue_iff hwk hop ho hwrites⟩

def lost : RepositoryError := .storage "injected"

def twoGroups : List Group := [
  ⟨"g", "g", ["a", "b", "c"], .bidirectional, none, .latestWins, true, none⟩,
  ⟨"h", "h", ["d", "e"], .broadcast, none, .latestWins, true, none⟩]

def keptGroups : Coordinator :=
  (start .default .empty 0).performAll (twoGroups.map fun g => (0, .createGroup g))

def gathering : Operation :=
  .createGroup ⟨"k", "k", ["c", "d"], .broadcast, none, .latestWins, true, none⟩

theorem change_outlives_refusal_gathering :
    Reachable keptGroups ∧
      keptGroups.undertake 0 gathering ⟨twoGroups⟩ (fun n => if n = 1 then some lost else none) =
        (.error (.repository "Storage error: injected"), keptGroups.perform 0 gathering,
          ⟨twoGroups.take 1⟩) ∧
      (keptGroups.perform 0 gathering).roster = [("g", ["a", "b"]), ("k", ["c", "d"])] ∧
      ¬ SameMemory keptGroups (keptGroups.perform 0 gathering) ∧
      SameMemory keptGroups (keptGroups.perform 0 (.setEnabled "g" true)) := by
  have hreach : Reachable keptGroups := (Reachable.start _ _ _).performAll _
  have hrefused : keptGroups.undertake 0 gathering ⟨twoGroups⟩
      (fun n => if n = 1 then some lost else none) =
        (.error (.repository "Storage error: injected"), keptGroups.perform 0 gathering,
          ⟨twoGroups.take 1⟩) :=
    Prod.ext (by decide) (Prod.ext (coordinator_undertake ..) (by decide))
  have hsame : keptGroups.undertake 0 (.setEnabled "g" true) ⟨twoGroups⟩ (fun _ => some lost) =
      (.error (.repository "Storage error: injected"), keptGroups.perform 0 (.setEnabled "g" true),
        ⟨twoGroups⟩) :=
    Prod.ext (by decide) (Prod.ext (coordinator_undertake ..) (by decide))
  obtain ⟨-, -, -, -, hiff⟩ := change_outlives_refusal hreach rfl hrefused
  obtain ⟨-, -, -, -, hiff'⟩ := change_outlives_refusal hreach rfl hsame
  exact ⟨hreach, hrefused, by decide, fun h => hiff.mp h, hiff'.mpr ⟨_, rfl, rfl, .inl rfl⟩⟩

def pairBefore : Coordinator := (start .default .empty 0).performAll [
  (0, .createGroup ⟨"g", "g", ["a", "b"], .bidirectional, none, .latestWins, true, none⟩)]

def takeover : Operation :=
  .createGroup ⟨"h", "h", ["b", "c"], .broadcast, none, .latestWins, true, none⟩

theorem takeover_not_undone :
    Reachable pairBefore ∧ pairBefore.roster = [("g", ["a", "b"])] ∧
      ∀ r, ∃ d, pairBefore.undertake 0 takeover r (fun _ => some lost) =
          (.error (.repository "Storage error: injected"), d, r) ∧
        d.roster = [("h", ["b", "c"])] ∧ ¬ SameMemory pairBefore d := by
  have hreach : Reachable pairBefore := (Reachable.start _ _ _).performAll _
  refine ⟨hreach, by decide, fun r => ⟨pairBefore.perform 0 takeover, rfl, by decide, fun h => ?_⟩⟩
  have hgone : (pairBefore.perform 0 takeover).live? "g" = none := by decide
  exact absurd ((h.live?_eq_none "g").mp hgone) (by decide)

end Coordinator

def Service.refusal : Service → Nat → Option RepositoryError
  | .failing, _ => some (.storage "injected")
  | _, _ => none

namespace Session

open Coordinator

variable {s : Session} {op : Operation}

theorem commit_eq_attempt (hs : s.service ≠ .stalled) (w : Writes) :
    s.commit w = ((s.repository.attempt s.service.refusal w.calls).1,
      { s with repository := (s.repository.attempt s.service.refusal w.calls).2 }) := by
  obtain ⟨c, r, service, waiting, feed, now⟩ := s
  cases service with
  | stalled => exact absurd rfl hs
  | working =>
    rw [commit_of_working rfl, written_eq_callAll, Repository.attempt_of_accepted]
    exact fun _ => rfl
  | failing =>
    obtain ⟨deletes, saves⟩ := w
    cases deletes with
    | cons id rest => rfl
    | nil =>
      cases saves with
      | cons g rest => rfl
      | nil => rfl

theorem run_eq_undertake {α : Type} {f : Coordinator → Except SyncError (Outcome α)}
    (hs : s.service ≠ .stalled)
    (hf : s.coordinator.issue s.now op = (f s.coordinator).map Outcome.silent) :
    ((s.run f).1.map fun _ => (), (s.run f).2.coordinator, (s.run f).2.repository) =
      s.coordinator.undertake s.now op s.repository s.service.refusal := by
  cases ho : f s.coordinator with
  | error e =>
    rw [ho] at hf
    simp only [Session.run, ho, undertake, hf]
    rfl
  | ok o =>
    rw [ho] at hf
    simp only [Session.run, ho, undertake, hf]
    rw [commit_eq_attempt (s := { s with coordinator := o.next }) hs]
    cases h : (s.repository.attempt s.service.refusal o.writes.calls).1 with
    | ok u => simp [h, Except.map, Outcome.silent]
    | error e => simp [h, Except.map, Outcome.silent]

theorem perform_eq_undertake (hs : s.service ≠ .stalled) (hop : op.defines = true) :
    ((s.perform op).coordinator, (s.perform op).repository) =
      (s.coordinator.undertake s.now op s.repository s.service.refusal).2 := by
  cases op with
  | createGroup g => exact congrArg Prod.snd (run_eq_undertake hs rfl)
  | updateGroup g => exact congrArg Prod.snd (run_eq_undertake hs rfl)
  | deleteGroup id =>
    refine congrArg Prod.snd (run_eq_undertake hs ?_)
    simp only [issue]
    cases s.coordinator.deleteGroup id with
    | ok o => rfl
    | error e => rfl
  | addMember id control => exact congrArg Prod.snd (run_eq_undertake hs rfl)
  | removeMember id control => exact congrArg Prod.snd (run_eq_undertake hs rfl)
  | setEnabled id enabled => exact congrArg Prod.snd (run_eq_undertake hs rfl)
  | _ => cases hop

end Session

end LinkedControls
