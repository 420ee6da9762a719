import LinkedControls.Proofs.Sync.Delivery
import LinkedControls.Proofs.Sync.Effect
import LinkedControls.Proofs.Sync.Operation

namespace LinkedControls.Coordinator

variable {c d : Coordinator} {l k : LiveGroup} {id i : String} {op : Operation} {last : Competing}
  {o : Option String} {v : Value} {now : Int}

def recordSent (l : LiveGroup) (events : List Event) (now : Int) : LiveGroup :=
  { l with history := l.history.record events, group := { l.group with lastSync := some now } }

theorem live?_send (p : Parcel) (hl : c.live? l.id = some k) :
    (c.send l p now).live? l.id =
      some (recordSent k (propagate c.store l.group c.rules p).2 now) :=
  live?_update_self (c := { c with store := _ }) (fun _ h => h) hl

theorem live?_send_of_ne (p : Parcel) (hi : i ≠ l.id) :
    (c.send l p now).live? i = c.live? i :=
  live?_update_of_ne (c := { c with store := _ }) (fun _ h => h) hi

theorem live?_clearWindow (hl : c.live? id = some l) :
    (c.clearWindow id).live? id = some { l with window := [], phase := .idle } :=
  live?_update_self (fun _ h => h) hl

theorem live?_clearWindow_of_ne (hi : i ≠ id) : (c.clearWindow id).live? i = c.live? i :=
  live?_update_of_ne (fun _ h => h) hi

theorem settle_snd (c : Coordinator) (l : LiveGroup) (last : Competing) (now : Int) :
    ∃ ks, (c.settle l last now).2 =
        { c with conflicts := c.conflicts ++ ks, nextConflict := c.nextConflict + ks.length } ∧
      (∀ k ∈ ks, k.group = l.id ∧ k.id = "#" ++ toString c.nextConflict ∧
        (k.isPending = true ↔ c.decision l last = none)) ∧ (ks = [] ∨ ∃ k, ks = [k]) ∧
      (c.decision l last = none → ks ≠ []) := by
  unfold settle decision
  by_cases hcompete : (compete l.window last && l.group.mode.detectsConflicts) = true
  · simp only [hcompete, if_true]
    refine ⟨[_], rfl, ?_, .inr ⟨_, rfl⟩, fun _ => by simp⟩
    intro k hk
    obtain rfl := List.mem_singleton.mp hk
    cases decide l.group (c.combinator? l.id) l.window with
    | none => exact ⟨rfl, rfl, by simp [Conflict.pending, Conflict.isPending]⟩
    | some d => exact ⟨by simp [Conflict.pending], by simp [Conflict.pending], by simp⟩
  · simp only [hcompete]
    exact ⟨[], by simp, by simp, by simp, by simp⟩

theorem closeWindow_sent (hl : c.live? id = some l) (hlast : l.window.getLast? = some last)
    (hd : c.decision l last = some (o, v)) (now : Int) :
    (c.closeWindow id now).1.store =
        (propagate c.store l.group c.rules ⟨o, last.control, v⟩).1 ∧
      (c.closeWindow id now).1.live? id =
        some (recordSent { l with window := [], phase := .idle }
          (propagate c.store l.group c.rules ⟨o, last.control, v⟩).2 now) := by
  obtain rfl := id_of_live? hl
  obtain ⟨ks, hsettle, _⟩ := settle_snd (c.clearWindow l.id) l last now
  rw [closeWindow_of_sent hl hlast hd, hsettle]
  exact ⟨rfl, live?_send _ (live?_clearWindow hl)⟩

theorem closeWindow_waiting (hl : c.live? id = some l) (hlast : l.window.getLast? = some last)
    (hd : c.decision l last = none) (now : Int) :
    (c.closeWindow id now).1.store = c.store ∧
      (c.closeWindow id now).1.live? id = some { l with window := [], phase := .idle } ∧
      ∃ k ∈ (c.closeWindow id now).1.conflicts, k.group = id ∧ k.isPending = true := by
  obtain rfl := id_of_live? hl
  obtain ⟨ks, hsettle, hks, _, hne⟩ := settle_snd (c.clearWindow l.id) l last now
  rw [closeWindow_of_waiting hl hlast hd, hsettle]
  refine ⟨rfl, live?_clearWindow hl, ?_⟩
  obtain ⟨k, hk⟩ := List.exists_mem_of_ne_nil ks (hne hd)
  exact ⟨k, List.mem_append_right _ hk, (hks k hk).1, (hks k hk).2.2.mpr hd⟩

structure Spares (c : Coordinator) (id : String) (d : Coordinator) : Prop where
  others : ∀ i, i ≠ id → d.live? i = c.live? i
  rules : d.rules = c.rules
  conflicts : ∃ ks, d.conflicts = c.conflicts ++ ks ∧ ∀ k ∈ ks, k.group = id

theorem closeWindow_spares (c : Coordinator) (id : String) (now : Int) :
    Spares c id (c.closeWindow id now).1 := by
  cases hl : c.live? id with
  | none =>
    rw [closeWindow_of_unknown hl]
    exact ⟨fun _ _ => rfl, rfl, [], by simp, by simp⟩
  | some l =>
    obtain rfl := id_of_live? hl
    rcases closeWindow_cases hl now with ⟨_, he⟩ | ⟨last, _, hsettled⟩
    · rw [he]
      exact ⟨fun _ hi => live?_clearWindow_of_ne hi, rfl, [], by simp [clearWindow, update], by simp⟩
    · obtain ⟨ks, hsettle, hks, _⟩ := settle_snd (c.clearWindow l.id) l last now
      have hgroup : ∀ k ∈ ks, k.group = l.id := fun k hk => (hks k hk).1
      rw [hsettle] at hsettled
      rcases hsettled with ⟨_, he⟩ | ⟨o, v, _, he⟩
      · rw [he]
        exact ⟨fun _ hi => live?_clearWindow_of_ne hi, rfl, ks, rfl, hgroup⟩
      · rw [he]
        refine ⟨?_, rfl, ks, rfl, hgroup⟩
        intro i hi
        rw [live?_send_of_ne _ hi]
        exact live?_clearWindow_of_ne hi

def Closes (c : Coordinator) (op : Operation) (l : LiveGroup) : Prop :=
  c.live? l.id = some l ∧ l.group.enabled = true ∧
    match op with
    | .flush id => id = l.id
    | .expire t => t ∈ c.timers ∧ t.group = l.id ∧ t.generation = l.generation
    | _ => False

def closes? (c : Coordinator) : Operation → Option LiveGroup
  | .flush id => (c.live? id).filter (·.group.enabled)
  | .expire t =>
      if t ∈ c.timers then
        (c.live? t.group).filter fun l => l.group.enabled && l.generation == t.generation
      else none
  | _ => none

theorem closes_iff : c.Closes op l ↔ c.closes? op = some l := by
  unfold Closes
  cases op with
  | flush id =>
    simp only [closes?, Option.filter_eq_some_iff]
    constructor
    · rintro ⟨hl, he, rfl⟩
      exact ⟨hl, he⟩
    · rintro ⟨hl, he⟩
      obtain rfl := id_of_live? hl
      exact ⟨hl, he, rfl⟩
  | expire t =>
    by_cases ht : t ∈ c.timers
    · simp only [closes?, ht, if_true, Option.filter_eq_some_iff, Bool.and_eq_true, beq_iff_eq]
      constructor
      · rintro ⟨hl, he, _, hgroup, hgen⟩
        exact ⟨hgroup ▸ hl, he, hgen.symm⟩
      · rintro ⟨hl, he, hgen⟩
        have hid := id_of_live? hl
        exact ⟨hid ▸ hl, he, trivial, hid.symm, hgen.symm⟩
    · simp [closes?, ht]
  | _ => simp [closes?]

structure Unwound (c : Coordinator) (l : LiveGroup) (d : Coordinator) : Prop where
  live : ∃ generation, d.live? l.id = some { l with timer := none, generation := generation }
  others : ∀ i, i ≠ l.id → d.live? i = c.live? i
  store : d.store = c.store
  rules : d.rules = c.rules
  conflicts : d.conflicts = c.conflicts
  combinators : d.combinators = c.combinators

theorem unwound_disarm (hl : c.live? l.id = some l) : Unwound c l (c.disarm l) :=
  ⟨⟨_, live?_update_self (c := c.stopTimer l.timer) (fun _ h => h) hl⟩,
    fun _ hi => live?_update_of_ne (c := c.stopTimer l.timer) (fun _ h => h) hi,
    rfl, rfl, rfl, rfl⟩

theorem unwound_expired (hl : c.live? l.id = some l) (serial : Nat) :
    Unwound c l ((c.stopTimer (some serial)).update l.id fun k => { k with timer := none }) :=
  ⟨⟨_, live?_update_self (c := c.stopTimer (some serial)) (fun _ h => h) hl⟩,
    fun _ hi => live?_update_of_ne (c := c.stopTimer (some serial)) (fun _ h => h) hi,
    rfl, rfl, rfl, rfl⟩

theorem Closes.perform (h : c.Closes op l) (now : Int) :
    ∃ d, Unwound c l d ∧ c.perform now op = (d.closeWindow l.id now).1 := by
  obtain ⟨hl, he, hop⟩ := h
  cases op with
  | flush id =>
    obtain rfl : id = l.id := hop
    refine ⟨_, unwound_disarm hl, ?_⟩
    simp only [Coordinator.perform, flush_of_enabled hl he, after]
  | expire t =>
    obtain ⟨hmem, hgroup, hgen⟩ := hop
    refine ⟨_, unwound_expired hl t.serial, ?_⟩
    simp only [Coordinator.perform, hmem, if_true]
    rcases fire_cases c t now with ⟨_, hno⟩ | ⟨k, hk, _, _, he⟩
    · exact absurd ⟨hgen.symm, he⟩ (hno l (hgroup ▸ hl))
    · rw [he, hgroup]
  | _ => exact hop.elim

theorem decision_congr (hc : d.combinators = c.combinators) (generation : UInt64) :
    d.decision { l with timer := none, generation := generation } last = c.decision l last := by
  unfold decision combinator?
  rw [hc]
  rfl

theorem Closes.sent (h : c.Closes op l) (hlast : l.window.getLast? = some last)
    (hd : c.decision l last = some (o, v)) (now : Int) :
    (c.perform now op).store = (propagate c.store l.group c.rules ⟨o, last.control, v⟩).1 ∧
      ∃ generation, (c.perform now op).live? l.id = some (recordSent
        { l with window := [], phase := .idle, timer := none, generation := generation }
        (propagate c.store l.group c.rules ⟨o, last.control, v⟩).2 now) := by
  obtain ⟨d, hd', he⟩ := h.perform now
  obtain ⟨generation, hl⟩ := hd'.live
  obtain ⟨hstore, hlive⟩ := closeWindow_sent hl hlast
    ((decision_congr hd'.combinators generation).trans hd) now
  rw [he]
  rw [hd'.store, hd'.rules] at hstore hlive
  exact ⟨hstore, generation, hlive⟩

theorem Closes.waiting (h : c.Closes op l) (hlast : l.window.getLast? = some last)
    (hd : c.decision l last = none) (now : Int) :
    (c.perform now op).store = c.store ∧
      (∃ generation, (c.perform now op).live? l.id =
        some { l with window := [], phase := .idle, timer := none, generation := generation }) ∧
      ∃ k ∈ (c.perform now op).conflicts, k.group = l.id ∧ k.isPending = true := by
  obtain ⟨d, hd', he⟩ := h.perform now
  obtain ⟨generation, hl⟩ := hd'.live
  obtain ⟨hstore, hlive, hk⟩ := closeWindow_waiting hl hlast
    ((decision_congr hd'.combinators generation).trans hd) now
  rw [he]
  exact ⟨hstore.trans hd'.store, ⟨generation, hlive⟩, hk⟩

theorem Closes.empty (h : c.Closes op l) (hw : l.window = []) (now : Int) :
    (c.perform now op).store = c.store ∧ (c.perform now op).conflicts = c.conflicts ∧
      ∃ generation, (c.perform now op).live? l.id =
        some { l with window := [], phase := .idle, timer := none, generation := generation } := by
  obtain ⟨d, hd, he⟩ := h.perform now
  obtain ⟨generation, hl⟩ := hd.live
  rw [he, closeWindow_of_empty hl hw]
  exact ⟨hd.store, hd.conflicts, generation, live?_clearWindow hl⟩

theorem Closes.spares (h : c.Closes op l) (now : Int) : Spares c l.id (c.perform now op) := by
  obtain ⟨d, hd, he⟩ := h.perform now
  have hs := closeWindow_spares d l.id now
  rw [he]
  refine ⟨fun i hi => (hs.others i hi).trans (hd.others i hi), hs.rules.trans hd.rules, ?_⟩
  rw [← hd.conflicts]
  exact hs.conflicts

end LinkedControls.Coordinator
