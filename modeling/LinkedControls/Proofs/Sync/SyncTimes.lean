import LinkedControls.Proofs.Sync.Loading
import LinkedControls.Proofs.Sync.Mirror
import LinkedControls.Proofs.Sync.Sending

/-!
The times of the last sync, in memory and in the repository, through operations, pauses and restarts.
All that is saved is saved as it is in memory but for a new definition that names no time, and the time
of a settled conflict is not saved at all.
-/

namespace LinkedControls.Session

open Coordinator

variable {s t u : Session} {c d : Coordinator} {w : Writes} {l : LiveGroup} {g k : Group} {id : String}
  {op : Operation}

/-- What happens to a session. A restart leaves it the store and the repository. -/
inductive Step
  | perform (op : Operation)
  | wait (ms : Nat)
  | restart (settings : SyncSettings)

def step (s : Session) : Step → Session
  | .perform op => s.perform op
  | .wait ms => s.wait ms
  | .restart settings => s.restart settings

def stepAll (s : Session) (steps : List Step) : Session := steps.foldl step s

structure InOrder (s : Session) : Prop where
  working : s.service = .working
  wellKept : WellKept s.coordinator.roster
  sound : s.repository.Sound
  stored : ∀ id g, s.coordinator.definition? id = some g → s.repository.definition? id = some g

def KeptAt (s : Session) (id : String) : Prop :=
  ∀ g, s.coordinator.group? id = some g → s.repository.get? id = some g

/-- A group in memory has been saved or loaded as it is, or neither it nor the one stored under its id
is another one than before. -/
def Follows (s : Session) (id : String) (t : Session) : Prop :=
  ∀ g, t.coordinator.group? id = some g → t.repository.get? id = some g ∨
    s.coordinator.group? id = some g ∧ t.repository.get? id = s.repository.get? id

namespace Follows

theorem trans (h : Follows s id t) (h' : Follows t id u) : Follows s id u := by
  intro g hg
  rcases h' g hg with hstored | ⟨hg, hsame⟩
  · exact .inl hstored
  · rw [hsame]
    exact h g hg

theorem of_group? (h : t.coordinator.group? id = s.coordinator.group? id)
    (hrepository : t.repository = s.repository) : Follows s id t := by
  intro g hg
  exact .inr ⟨h ▸ hg, hrepository ▸ rfl⟩

theorem refl (s : Session) (id : String) : Follows s id s := .of_group? rfl rfl

end Follows

theorem follows_conclude (h : s.repository.Sound) {o : Outcome Unit}
    (hid : o.next.group? id = o.writes.onto s.coordinator.group? id) :
    Follows s id (s.conclude (.ok o)) := by
  intro g hg
  change o.next.group? id = some g at hg
  have hstored : (s.conclude (.ok o)).repository.get? id = o.writes.onto s.repository.get? id :=
    get?_written h o.writes id
  rw [hid] at hg
  rw [hstored]
  unfold Writes.onto at hg ⊢
  cases hsaved : o.writes.saved? id with
  | some k =>
    rw [hsaved] at hg
    exact .inl hg
  | none =>
    rw [hsaved] at hg
    dsimp only at hg ⊢
    split at hg
    · cases hg
    · next hkept => exact .inr ⟨hg, if_neg hkept⟩

theorem admitted_subset (c : Coordinator) (stored : List Group) : c.admitted stored ⊆ stored := by
  induction stored generalizing c with
  | nil => exact List.Subset.refl []
  | cons g rest ih =>
    rw [admitted]
    split
    · exact List.cons_subset_cons g (ih _)
    · exact List.subset_cons_of_subset g (ih c)

theorem follows_loadGroups (h : s.InOrder) (id : String) : Follows s id s.loadGroups.2 := by
  unfold Session.loadGroups
  rw [h.working]
  intro g hg
  change (s.coordinator.loadGroups s.repository.groups).2.group? id = some g at hg
  rw [loadGroups_eq_admitted, group?, live?_foldl_takeIn] at hg
  cases hnamed : lastNamed id (s.coordinator.admitted s.repository.groups) with
  | none =>
    rw [hnamed] at hg
    exact .inr ⟨hg, rfl⟩
  | some k =>
    rw [hnamed] at hg
    obtain rfl : k = g := Option.some.inj hg
    have hmem := List.mem_reverse.mp (List.mem_of_find?_eq_some hnamed)
    have hid : k.id = id := by simpa using List.find?_some hnamed
    exact .inl (hid ▸ find?_key h.sound (admitted_subset _ _ hmem))

theorem follows_fire (h : s.InOrder) (t : Timer) (id : String) : Follows s id (s.fire t) := by
  rw [fire_eq_conclude h.working]
  exact follows_conclude h.sound (leaves_fire s.coordinator t t.due id)

def redated? (s : Session) : Operation → Option String
  | .updateGroup g => some g.id
  | .resolve j _ _ => (s.coordinator.conflict? j).map (·.group)
  | _ => none

theorem follows_perform (h : s.InOrder) (hid : s.redated? op ≠ some id) :
    Follows s id (s.perform op) := by
  cases hloads : op.loads with
  | true =>
    cases op with
    | loadGroups stored => exact follows_loadGroups h id
    | _ => cases hloads
  | false =>
    rw [perform_eq_conclude h.working hloads]
    cases ho : s.coordinator.issue (s.clock op) op with
    | error e => exact .refl s id
    | ok o =>
      refine follows_conclude h.sound ?_
      cases hredates : op.redates with
      | false => exact leaves_issue h.wellKept hloads hredates ho id
      | true =>
        cases op with
        | updateGroup g =>
          obtain ⟨a, ha, rfl⟩ := silent_eq_ok ho
          obtain ⟨-, l, hl, -⟩ := updateGroup_eq_ok ha
          obtain ⟨-, -, -, hothers⟩ := updateGroup_dates h.wellKept hl ha
          exact hothers id fun he => hid (congrArg some he.symm)
        | resolve j v resolver =>
          cases ho
          rcases resolve_cases s.coordinator j v resolver s.now with ⟨hgroups, -⟩ |
            ⟨i, l, hi, -, hl, -, hd⟩
          · exact group?_congr (live?_congr hgroups)
          · have hne : id ≠ l.id := by
              rintro rfl
              exact hid (by rw [redated?, hi, Option.map_some, id_of_live? hl])
            refine group?_congr ?_
            change (s.coordinator.perform s.now (.resolve j v resolver)).live? id = _
            rw [hd, live?_rephase_of_ne hne, live?_send_of_ne _ hne, live?_replaceConflict]
        | _ => cases hredates

theorem Follows.keptAt (h : Follows s id t) (hs : s.KeptAt id) : t.KeptAt id := by
  intro g hg
  rcases h g hg with hstored | ⟨hg, hsame⟩
  · exact hstored
  · rw [hsame]
    exact hs g hg

theorem perform_updateGroup (h : s.InOrder) (hg : g.isValid = true)
    (hl : s.coordinator.live? g.id = some l) :
    (s.perform (.updateGroup g)).repository.get? g.id = some g ∧
      (s.perform (.updateGroup g)).coordinator.group? g.id =
        some { g with lastSync := g.lastSync <|> l.group.lastSync } := by
  obtain ⟨o, ho⟩ := updateGroup_of_live? hg hl
  obtain ⟨-, hsaved, hself, -⟩ := updateGroup_dates h.wellKept hl ho
  rw [perform_eq_conclude h.working rfl, issue, ho]
  exact ⟨(get?_written h.sound o.writes g.id).trans (Writes.onto_of_saved hsaved), hself⟩

theorem perform_updateGroup_of_refused (s : Session)
    (hno : g.isValid = true → s.coordinator.live? g.id = none) : s.perform (.updateGroup g) = s := by
  simp only [Session.perform, Session.run]
  cases ho : s.coordinator.updateGroup g with
  | error e => rfl
  | ok o =>
    obtain ⟨hg, l, hl, -⟩ := updateGroup_eq_ok ho
    rw [hno hg] at hl
    cases hl

theorem perform_resolve (s : Session) (j : String) (v : Value) (resolver : String) :
    (s.perform (.resolve j v resolver)).repository = s.repository ∧
      (s.perform (.resolve j v resolver)).coordinator =
        s.coordinator.perform s.now (.resolve j v resolver) := by
  simp only [Session.perform, act_eq_conclude]
  exact ⟨rfl, rfl⟩

/-- The step leaves a group stored with another time of its last sync than it has in memory: a new
definition names no time though there is one, or a settled conflict is sent now. -/
def forgets (s : Session) : Step → Bool
  | .perform (.updateGroup g) =>
      g.isValid && g.lastSync.isNone && (s.coordinator.group? g.id).any (·.lastSync.isSome)
  | .perform (.resolve j v resolver) => (s.coordinator.conflict? j).any fun i =>
      (s.coordinator.sending? i.group (.resolve j v resolver)).isSome &&
        (s.coordinator.group? i.group).any (·.lastSync != some s.now)
  | _ => false

theorem with_lastSync_eq_iff (g : Group) (time : Option Int) :
    { g with lastSync := time } = g ↔ time = g.lastSync :=
  ⟨congrArg Group.lastSync, fun h => h ▸ rfl⟩

theorem redated_iff (hg : g.isValid = true) (hl : s.coordinator.live? g.id = some l) :
    { g with lastSync := g.lastSync <|> l.group.lastSync } = g ↔
      s.forgets (.perform (.updateGroup g)) = false := by
  rw [with_lastSync_eq_iff, forgets, hg, group?_of_live? hl, Option.any_some, Bool.true_and]
  cases g.lastSync with
  | some time => exact iff_of_true rfl rfl
  | none => cases l.group.lastSync <;> simp

theorem keptAt_updateGroup_iff (h : s.InOrder) (hs : s.KeptAt g.id) :
    (s.perform (.updateGroup g)).KeptAt g.id ↔ s.forgets (.perform (.updateGroup g)) = false := by
  by_cases hdone : g.isValid = true ∧ ∃ l, s.coordinator.live? g.id = some l
  · obtain ⟨hg, l, hl⟩ := hdone
    obtain ⟨hstored, hself⟩ := perform_updateGroup h hg hl
    rw [← redated_iff hg hl, KeptAt, hstored, hself]
    exact ⟨fun hall => (Option.some.inj (hall _ rfl)).symm, fun he k hk => he ▸ hk⟩
  · have hno : g.isValid = true → s.coordinator.live? g.id = none := by
      intro hg
      exact Option.eq_none_iff_forall_ne_some.mpr fun l hl => hdone ⟨hg, l, hl⟩
    rw [perform_updateGroup_of_refused s hno]
    refine iff_of_true hs ?_
    rw [forgets, group?]
    cases hg : g.isValid with
    | false => rfl
    | true => rw [hno hg, Option.map_none, Option.any_none, Bool.and_false]

theorem keptAt_resolve_iff {j : String} {i : Conflict} {v : Value} {resolver : String}
    (hi : s.coordinator.conflict? j = some i) (hs : s.KeptAt i.group) :
    (s.perform (.resolve j v resolver)).KeptAt i.group ↔
      s.forgets (.perform (.resolve j v resolver)) = false := by
  obtain ⟨hrepository, hcoordinator⟩ := perform_resolve s j v resolver
  rw [forgets, hi, Option.any_some]
  rcases resolve_cases s.coordinator j v resolver s.now with ⟨hgroups, hsilent⟩ |
    ⟨i', l, hi', hp, hl, he, hd⟩
  · have hfollows : Follows s i.group (s.perform (.resolve j v resolver)) :=
      .of_group? (hcoordinator ▸ group?_congr (live?_congr hgroups)) hrepository
    rw [hsilent i.group]
    exact iff_of_true (hfollows.keptAt hs) rfl
  · obtain rfl : i' = i := Option.some.inj (hi'.symm.trans hi)
    have hsends : s.coordinator.sending? i'.group (.resolve j v resolver) = some (none, v) := by
      simp [sending?, hi, hp, hl, he]
    have hself : (s.perform (.resolve j v resolver)).coordinator.group? i'.group =
        some { l.group with lastSync := some s.now } := by
      rw [hcoordinator, hd, ← id_of_live? hl]
      exact group?_of_live? (live?_rephase (live?_send _ (id_of_live? hl ▸ hl)))
    have hkept : (s.perform (.resolve j v resolver)).KeptAt i'.group ↔
        { l.group with lastSync := some s.now } = l.group := by
      rw [KeptAt, hself, hrepository, hs _ (group?_of_live? hl)]
      exact ⟨fun hall => (Option.some.inj (hall _ rfl)).symm, fun he k hk => he ▸ hk⟩
    rw [hkept, with_lastSync_eq_iff, hsends, group?_of_live? hl, Option.isSome_some, Bool.true_and,
      Option.any_some, bne_eq_false_iff_eq]
    exact eq_comm

theorem upon_mono {held held' : String → Option Group}
    (h : ∀ g, held id = some g → held' id = some g) (hg : w.upon held id = some g) :
    w.upon held' id = some g := by
  unfold Writes.upon at hg ⊢
  cases hsaved : w.saved? id with
  | some k =>
    rw [hsaved] at hg
    exact hg
  | none =>
    rw [hsaved] at hg
    dsimp only at hg ⊢
    split at hg
    · cases hg
    · next hkept => exact (if_neg hkept).trans (h g hg)

namespace InOrder

theorem conclude (h : s.InOrder) {o : Outcome Unit} (hwk : WellKept o.next.roster)
    (hrecords : Records s.coordinator o.writes o.next) : (s.conclude (.ok o)).InOrder := by
  refine ⟨h.working, hwk, sound_written h.sound o.writes, fun id g hg => ?_⟩
  change o.next.definition? id = some g at hg
  change (written s.repository o.writes).definition? id = some g
  rw [hrecords] at hg
  rw [definition?_written h.sound]
  exact upon_mono (h.stored id) hg

theorem fire (h : s.InOrder) (t : Timer) : (s.fire t).InOrder := by
  rw [fire_eq_conclude h.working]
  refine h.conclude ?_ (leaves_fire s.coordinator t t.due).records
  rw [roster_fire]
  exact h.wellKept

theorem loadGroups (h : s.InOrder) : s.loadGroups.2.InOrder := by
  have hafter : s.loadGroups.2 =
      { s with coordinator := (s.coordinator.loadGroups s.repository.groups).2 } := by
    simp only [Session.loadGroups, h.working]
  refine ⟨?_, ?_, ?_, fun id g hg => ?_⟩
  · rw [hafter]
    exact h.working
  · rw [hafter]
    exact wellKept_perform h.wellKept s.now (.loadGroups s.repository.groups)
  · rw [hafter]
    exact h.sound
  · rw [definition?_eq_group?] at hg
    obtain ⟨k, hk, rfl⟩ := Option.map_eq_some_iff.mp hg
    rcases follows_loadGroups h id k hk with hstored | ⟨hbefore, hsame⟩
    · exact congrArg (Option.map Group.undated) hstored
    · refine (congrArg (Option.map Group.undated) hsame).trans (h.stored id _ ?_)
      rw [definition?_eq_group?, hbefore, Option.map_some]

theorem perform (h : s.InOrder) (op : Operation) : (s.perform op).InOrder := by
  cases hloads : op.loads with
  | true =>
    cases op with
    | loadGroups stored => exact h.loadGroups
    | _ => cases hloads
  | false =>
    rw [perform_eq_conclude h.working hloads]
    cases ho : s.coordinator.issue (s.clock op) op with
    | error e => exact h
    | ok o =>
      refine h.conclude ?_ (records_issue h.wellKept hloads ho)
      exact perform_of_issue ho ▸ wellKept_perform h.wellKept _ op

theorem fire_all (h : s.InOrder) (timers : List Timer) :
    (timers.foldl Session.fire s).InOrder ∧ ∀ id, Follows s id (timers.foldl Session.fire s) := by
  refine List.foldlRecOn (motive := fun t : Session => t.InOrder ∧ ∀ id, Follows s id t) timers _
    ⟨h, .refl s⟩ ?_
  exact fun t ht timer _ => ⟨ht.1.fire timer, fun id => (ht.2 id).trans (follows_fire ht.1 timer id)⟩

theorem step (h : s.InOrder) (next : Step) : (s.step next).InOrder := by
  cases next with
  | perform op => exact h.perform op
  | wait ms =>
    have hfired := (h.fire_all (dueTimers s.coordinator (s.now + ms))).1
    exact ⟨hfired.working, hfired.wellKept, hfired.sound, hfired.stored⟩
  | restart settings => exact ⟨h.working, .nil, h.sound, fun _ _ hg => by cases hg⟩

end InOrder

theorem kept_perform_iff (h : s.InOrder) (hs : ∀ id, s.KeptAt id) (op : Operation) :
    (∀ id, (s.perform op).KeptAt id) ↔ s.forgets (.perform op) = false := by
  cases hid : s.redated? op with
  | none =>
    have hall (id : String) : (s.perform op).KeptAt id :=
      (follows_perform h (hid ▸ (Option.some_ne_none id).symm)).keptAt (hs id)
    refine iff_of_true hall ?_
    cases op with
    | updateGroup g => cases hid
    | resolve j v resolver => rw [forgets, Option.map_eq_none_iff.mp hid, Option.any_none]
    | _ => rfl
  | some i =>
    have hothers (id : String) (hne : id ≠ i) : (s.perform op).KeptAt id :=
      (follows_perform h (by rw [hid]; exact fun he => hne (Option.some.inj he).symm)).keptAt (hs id)
    have hone : (∀ id, (s.perform op).KeptAt id) ↔ (s.perform op).KeptAt i := by
      refine ⟨fun hall => hall i, fun hi id => ?_⟩
      by_cases hne : id = i
      · exact hne ▸ hi
      · exact hothers id hne
    rw [hone]
    cases op with
    | updateGroup g =>
      obtain rfl : g.id = i := Option.some.inj hid
      exact keptAt_updateGroup_iff h (hs g.id)
    | resolve j v resolver =>
      obtain ⟨k, hk, rfl⟩ := Option.map_eq_some_iff.mp hid
      exact keptAt_resolve_iff hk (hs k.group)
    | _ => cases hid

theorem kept_step_iff (h : s.InOrder) (hs : ∀ id, s.KeptAt id) (next : Step) :
    (∀ id, (s.step next).KeptAt id) ↔ s.forgets next = false := by
  cases next with
  | perform op => exact kept_perform_iff h hs op
  | wait ms =>
    have hfollows := (h.fire_all (dueTimers s.coordinator (s.now + ms))).2
    exact iff_of_true (fun id => (hfollows id).keptAt (hs id)) rfl
  | restart settings => exact iff_of_true (fun _ _ hg => by cases hg) rfl

theorem InOrder.stepAll (h : s.InOrder) (steps : List Step) : (s.stepAll steps).InOrder :=
  List.foldlRecOn steps _ h fun _ ht next _ => ht.step next

def TimeAgrees (s : Session) (id : String) : Prop :=
  ∀ g k, s.coordinator.group? id = some g → s.repository.get? id = some k → k.lastSync = g.lastSync

theorem timeAgrees_iff (h : s.InOrder) : s.TimeAgrees id ↔ s.KeptAt id := by
  constructor
  · intro hagrees g hg
    have hdefinition := h.stored id g.undated (by rw [definition?_eq_group?, hg, Option.map_some])
    obtain ⟨k, hk, hsame⟩ := Option.map_eq_some_iff.mp hdefinition
    have htime := hagrees g k hg hk
    have he : k = g := by
      calc k = { k.undated with lastSync := k.lastSync } := rfl
        _ = { g.undated with lastSync := g.lastSync } := by rw [hsame, htime]
    exact hk.trans (congrArg some he)
  · intro hkept g k hg hk
    obtain rfl := Option.some.inj (hk.symm.trans (hkept g hg))
    rfl

def neverForgets (s : Session) : List Step → Bool
  | [] => true
  | next :: rest => !s.forgets next && (s.step next).neverForgets rest

theorem agree_throughout_iff (h : s.InOrder) (hs : ∀ id, s.TimeAgrees id) (steps : List Step) :
    (∀ n id, (s.stepAll (steps.take n)).TimeAgrees id) ↔ s.neverForgets steps = true := by
  induction steps generalizing s with
  | nil => exact ⟨fun _ => rfl, fun _ n => by rwa [List.take_nil]⟩
  | cons next rest ih =>
    have hnext := h.step next
    have hstep : (∀ id, (s.step next).TimeAgrees id) ↔ s.forgets next = false := by
      simp only [timeAgrees_iff hnext]
      exact kept_step_iff h (fun id => (timeAgrees_iff h).mp (hs id)) next
    rw [neverForgets, Bool.and_eq_true, Bool.not_eq_true', ← hstep]
    constructor
    · intro hall
      have hfirst : ∀ id, (s.step next).TimeAgrees id := hall 1
      exact ⟨hfirst, (ih hnext hfirst).mp fun n => hall (n + 1)⟩
    · rintro ⟨hfirst, hrest⟩ n
      cases n with
      | zero => exact hs
      | succ n => exact (ih hnext hfirst).mpr hrest n

theorem answer_updateGroup_iff (h : s.InOrder) {a : Group}
    (ha : (s.run (·.updateGroup g)).1 = .ok a) :
    (s.perform (.updateGroup g)).coordinator.group? g.id = some a ↔
      s.forgets (.perform (.updateGroup g)) = false := by
  cases ho : s.coordinator.updateGroup g with
  | error e =>
    simp only [Session.run, ho] at ha
    cases ha
  | ok o =>
    simp only [Session.run, ho] at ha
    rw [commit_of_working (s := { s with coordinator := o.next }) h.working] at ha
    obtain rfl : o.answer = a := Except.ok.inj ha
    obtain ⟨hg, l, hl, -⟩ := updateGroup_eq_ok ho
    obtain ⟨hanswer, -⟩ := updateGroup_dates h.wellKept hl ho
    rw [(perform_updateGroup h hg hl).2, hanswer, Option.some.injEq]
    exact redated_iff hg hl

def restarted (s : Session) (settings : SyncSettings) : Session :=
  s.stepAll [.restart settings, .perform (.loadGroups [])]

theorem stored_of_restarted (h : s.InOrder) {settings : SyncSettings}
    (hk : (s.restarted settings).coordinator.group? id = some k) :
    s.repository.get? id = some k := by
  have hrestarted : (s.restart settings).InOrder := h.step (.restart settings)
  have hsame : (s.restarted settings).repository = s.repository := by
    change (s.restart settings).loadGroups.2.repository = s.repository
    simp only [Session.loadGroups, hrestarted.working]
    rfl
  rcases follows_loadGroups hrestarted id k hk with hstored | ⟨hbefore, -⟩
  · exact hsame ▸ hstored
  · cases hbefore

def startOver (r : Repository) (settings : SyncSettings) (store : Store) (now : Int) : Session :=
  { Session.start settings store now with repository := r }

theorem InOrder.startOver {r : Repository} (hr : r.Sound) (settings : SyncSettings) (store : Store)
    (now : Int) : (startOver r settings store now).InOrder :=
  ⟨rfl, .nil, hr, fun _ _ hg => by cases hg⟩

theorem sync_times_agree_iff {r : Repository} (hr : r.Sound) (settings : SyncSettings)
    (store : Store) (now : Int) (steps : List Step) :
    let s := startOver r settings store now
    let t := s.stepAll steps
    ((∀ n id, (s.stepAll (steps.take n)).TimeAgrees id) ↔ s.neverForgets steps = true) ∧
      (∀ g a, (t.run (·.updateGroup g)).1 = .ok a →
        ((t.perform (.updateGroup g)).coordinator.group? g.id = some a ↔
          t.forgets (.perform (.updateGroup g)) = false)) ∧
      ∀ settings id g k, t.coordinator.group? id = some g →
        (t.restarted settings).coordinator.group? id = some k →
          (k.lastSync = g.lastSync ↔ t.TimeAgrees id) := by
  intro s t
  have hs : s.InOrder := .startOver hr settings store now
  have ht : t.InOrder := hs.stepAll steps
  refine ⟨agree_throughout_iff hs (fun _ _ _ hg => by cases hg) steps,
    fun g a ha => answer_updateGroup_iff ht ha, fun settings id g k hg hk => ?_⟩
  have hstored := stored_of_restarted ht hk
  constructor
  · intro htime g' k' hg' hk'
    obtain rfl := Option.some.inj (hg.symm.trans hg')
    obtain rfl := Option.some.inj (hstored.symm.trans hk')
    exact htime
  · exact fun hagrees => hagrees g k hg hstored

def handSettled (lastSync : Option Int) : Group :=
  ⟨"g", "g", ["a", "b"], .bidirectional, none, .manual, true, lastSync⟩

def beginPair : List Step := [
  .perform (.act (.register "a" .text (.text ""))),
  .perform (.act (.register "b" .text (.text ""))),
  .perform (.createGroup (handSettled none)),
  .perform (.change "a" (.text "x") .user)]

def redefinition : List Step :=
  beginPair ++ [.perform (.flush "g"), .perform (.updateGroup (handSettled none))]

def settlement : List Step :=
  beginPair ++ [.perform (.change "b" (.text "y") .user), .perform (.flush "g"),
    .perform (.resolve "#0" (.text "z") "user")]

theorem sync_times_agree_iff_redefinition :
    let s := startOver .empty .default .empty 7
    let t := s.stepAll (redefinition.take 5)
    Repository.Sound .empty ∧
      (∀ n id, (s.stepAll ((redefinition.take 5).take n)).TimeAgrees id) ∧
      ∃ a, (t.run (·.updateGroup (handSettled none))).1 = .ok a ∧
        (t.perform (.updateGroup (handSettled none))).coordinator.group? "g" ≠ some a := by
  intro s t
  have hr := Repository.sound_empty
  obtain ⟨hagree, hanswer, -⟩ := sync_times_agree_iff hr .default .empty 7 (redefinition.take 5)
  have ha : (t.run (·.updateGroup (handSettled none))).1 = .ok (handSettled none) := by
    decide +kernel
  exact ⟨hr, hagree.mpr (by decide), _, ha, mt (hanswer _ _ ha).mp (by decide)⟩

def copies (t : Session) (id : String) : List (Option Group) :=
  [t.coordinator.group? id, t.repository.get? id, (t.restarted .default).coordinator.group? id]

theorem redefinition_and_settlement_forget :
    let s := startOver .empty .default .empty 7
    (s.stepAll redefinition).copies "g" =
        [some (handSettled (some 7)), some (handSettled none), some (handSettled none)] ∧
      (s.stepAll settlement).copies "g" =
        [some (handSettled (some 7)), some (handSettled none), some (handSettled none)] := by
  decide +kernel

end LinkedControls.Session
