import LinkedControls.Proofs.Sync.Closing
import LinkedControls.Proofs.Sync.Roster
import Mathlib.Data.List.Nodup

/-!
Windows and their timers. The window, the phase and the timer of a group always fit together, and
every step that operations are made of keeps it so.
-/

namespace LinkedControls.Coordinator

variable {c d : Coordinator} {l k : LiveGroup} {g : Group} {id i control : String}

def timersOf (c : Coordinator) (id : String) : List Timer := c.timers.filter (·.group == id)

/-- A group at rest has no timer. A window with writes has one timer, due when no other write has come
for the time that the settings name. -/
def Ticks (debounce : Nat) (l : LiveGroup) (ts : List Timer) : Prop :=
  l.window = [] ∧ l.phase = .idle ∧ l.timer = none ∧ ts = [] ∨
    ∃ last serial, l.window.getLast? = some last ∧ l.phase = .pendingPropagation ∧
      l.group.enabled = true ∧ l.timer = some serial ∧
      ts = [⟨serial, l.id, l.generation, last.time + debounce⟩]

structure Clockwork (c : Coordinator) : Prop where
  serials : (c.timers.map (·.serial)).Nodup
  fresh : ∀ t ∈ c.timers, t.serial < c.nextTimer
  owned : ∀ t ∈ c.timers, ∃ l, c.live? t.group = some l
  ticks : ∀ id l, c.live? id = some l → Ticks c.settings.debounce l (c.timersOf id)

theorem clockwork_start (settings : SyncSettings) (store : Store) (nextConflict : Nat) :
    Clockwork (start settings store nextConflict) :=
  ⟨.nil, fun _ ht => absurd ht List.not_mem_nil, fun _ ht => absurd ht List.not_mem_nil,
    fun _ _ hl => by cases hl⟩

theorem mem_timersOf {t : Timer} : t ∈ c.timersOf id ↔ t ∈ c.timers ∧ t.group = id := by
  simp [timersOf]

namespace Clockwork

theorem eq_of_serial (h : Clockwork c) {t u : Timer} (ht : t ∈ c.timers) (hu : u ∈ c.timers)
    (he : t.serial = u.serial) : t = u :=
  List.inj_on_of_nodup_map h.serials ht hu he

theorem serial_iff (h : Clockwork c) (hl : c.live? id = some l) {t : Timer} (ht : t ∈ c.timers) :
    l.timer = some t.serial ↔ t.group = id := by
  rcases h.ticks id l hl with ⟨_, _, htimer, hts⟩ | ⟨last, serial, _, _, _, htimer, hts⟩
  · have hne : t.group ≠ id := fun hg => by simpa [hts] using mem_timersOf.mpr ⟨ht, hg⟩
    simp [htimer, hne]
  · have hu : (⟨serial, l.id, l.generation, last.time + c.settings.debounce⟩ : Timer) ∈
        c.timersOf id := hts ▸ List.mem_singleton_self _
    obtain ⟨hu, hgroup⟩ := mem_timersOf.mp hu
    constructor
    · intro he
      have hserial : serial = t.serial := Option.some.inj (htimer.symm.trans he)
      exact h.eq_of_serial hu ht hserial ▸ hgroup
    · intro hg
      have hmem : t ∈ c.timersOf id := mem_timersOf.mpr ⟨ht, hg⟩
      rw [hts, List.mem_singleton] at hmem
      rw [htimer, hmem]

theorem stopTimer (h : Clockwork c) (hl : c.live? id = some l) :
    (c.stopTimer l.timer).timers = c.timers.filter (·.group != id) := by
  refine List.filter_congr ?_
  intro t ht
  have hiff := h.serial_iff hl ht
  by_cases hg : t.group = id
  · simp [hiff.mpr hg, hg]
  · have hne : some t.serial ≠ l.timer := fun he => hg (hiff.mp he.symm)
    rw [bne_iff_ne.mpr hne, bne_iff_ne.mpr hg]

theorem of_timer (h : Clockwork c) {t : Timer} (ht : t ∈ c.timers) :
    ∃ l, c.live? t.group = some l ∧ l.timer = some t.serial ∧ l.generation = t.generation ∧
      l.group.enabled = true := by
  obtain ⟨l, hl⟩ := h.owned t ht
  have hmem : t ∈ c.timersOf t.group := mem_timersOf.mpr ⟨ht, rfl⟩
  rcases h.ticks _ l hl with ⟨_, _, _, hts⟩ | ⟨last, serial, _, _, he, htimer, hts⟩
  · rw [hts] at hmem
    cases hmem
  · rw [hts, List.mem_singleton] at hmem
    exact ⟨l, hl, (h.serial_iff hl ht).mpr rfl, by rw [hmem], he⟩

theorem window_of_disabled (h : Clockwork c) (hl : c.live? id = some l)
    (he : l.group.enabled = false) : l.window = [] := by
  rcases h.ticks id l hl with ⟨hw, _⟩ | ⟨_, _, _, _, henabled, _⟩
  · exact hw
  · rw [he] at henabled
    cases henabled

theorem phase_eq (h : Clockwork c) (hl : c.live? id = some l) :
    l.phase = if l.window.isEmpty then .idle else .pendingPropagation := by
  rcases h.ticks id l hl with ⟨hw, hp, _⟩ | ⟨last, _, hw, hp, _⟩
  · rw [hw, hp]
    rfl
  · cases hwindow : l.window with
    | nil => simp [hwindow] at hw
    | cons w rest => rw [hp]; rfl

end Clockwork

def clock (l : LiveGroup) : List Competing × Phase × Option Nat × UInt64 :=
  (l.window, l.phase, l.timer, l.generation)

structure Steady (c d : Coordinator) : Prop where
  settings : d.settings = c.settings
  timers : d.timers = c.timers
  nextTimer : d.nextTimer = c.nextTimer
  known : ∀ id, (c.live? id).isSome → (d.live? id).isSome
  live : ∀ id k, d.live? id = some k → ∃ l, c.live? id = some l ∧ clock k = clock l ∧
    (l.window = [] ∨ k.group.enabled = l.group.enabled)

theorem Ticks.of_clock {debounce : Nat} {ts : List Timer} (hid : k.id = l.id)
    (hclock : clock k = clock l) (he : l.window = [] ∨ k.group.enabled = l.group.enabled)
    (h : Ticks debounce l ts) : Ticks debounce k ts := by
  simp only [clock, Prod.mk.injEq] at hclock
  obtain ⟨hw, hp, ht, hg⟩ := hclock
  rcases h with ⟨hwindow, hphase, htimer, hts⟩ | ⟨last, serial, hlast, hphase, henabled, htimer, hts⟩
  · exact .inl ⟨hw.trans hwindow, hp.trans hphase, ht.trans htimer, hts⟩
  · refine .inr ⟨last, serial, hw ▸ hlast, hp.trans hphase, ?_, ht.trans htimer, ?_⟩
    · rcases he with he | he
      · simp [he] at hlast
      · exact he.trans henabled
    · rw [hts, hid, hg]

theorem Clockwork.steady (h : Clockwork c) (hs : Steady c d) : Clockwork d := by
  have htimers := hs.timers
  refine ⟨htimers ▸ h.serials, ?_, ?_, ?_⟩
  · rw [htimers, hs.nextTimer]
    exact h.fresh
  · rw [htimers]
    intro t ht
    obtain ⟨l, hl⟩ := h.owned t ht
    exact Option.isSome_iff_exists.mp (hs.known _ (by rw [hl]; rfl))
  · intro id k hk
    obtain ⟨l, hl, hclock, he⟩ := hs.live id k hk
    rw [hs.settings, timersOf, htimers]
    exact (h.ticks id l hl).of_clock ((id_of_live? hk).trans (id_of_live? hl).symm) hclock he

structure Silences (c : Coordinator) (id : String) (d : Coordinator) : Prop where
  settings : d.settings = c.settings
  timers : d.timers = c.timers.filter (·.group != id)
  nextTimer : d.nextTimer = c.nextTimer
  others : ∀ i, i ≠ id → d.live? i = c.live? i
  rest : ∀ l, d.live? id = some l → l.window = [] ∧ l.phase = .idle ∧ l.timer = none

theorem Clockwork.silences (h : Clockwork c) (hs : Silences c id d) : Clockwork d := by
  have hsub : d.timers.Sublist c.timers := hs.timers ▸ List.filter_sublist
  refine ⟨h.serials.sublist (hsub.map _), ?_, ?_, ?_⟩
  · intro t ht
    rw [hs.nextTimer]
    exact h.fresh t (hsub.subset ht)
  · intro t ht
    rw [hs.timers, List.mem_filter, bne_iff_ne] at ht
    rw [hs.others _ ht.2]
    exact h.owned t ht.1
  · intro i l hl
    by_cases hi : i = id
    · subst hi
      obtain ⟨hw, hp, ht⟩ := hs.rest l hl
      refine .inl ⟨hw, hp, ht, ?_⟩
      simp [timersOf, hs.timers]
    · rw [hs.others i hi] at hl
      have htimers : d.timersOf i = c.timersOf i := by
        rw [timersOf, hs.timers, filter_key_without hi]
        rfl
      rw [hs.settings, htimers]
      exact h.ticks i l hl

theorem Steady.trans {e : Coordinator} (h : Steady c d) (h' : Steady d e) : Steady c e := by
  refine ⟨h'.settings.trans h.settings, h'.timers.trans h.timers, h'.nextTimer.trans h.nextTimer,
    fun id hl => h'.known id (h.known id hl), ?_⟩
  intro id k hk
  obtain ⟨m, hm, hclock, he⟩ := h'.live id k hk
  obtain ⟨l, hl, hclock', he'⟩ := h.live id m hm
  refine ⟨l, hl, hclock.trans hclock', ?_⟩
  have hwindow : m.window = l.window := congrArg Prod.fst hclock'
  rcases he' with hw | he'
  · exact .inl hw
  · exact he.imp (fun hw => hwindow ▸ hw) fun he => he.trans he'

theorem steady_of_groups (hgroups : d.groups = c.groups) (hsettings : d.settings = c.settings)
    (htimers : d.timers = c.timers) (hnext : d.nextTimer = c.nextTimer) : Steady c d := by
  have hlive (i : String) : d.live? i = c.live? i := live?_congr hgroups
  refine ⟨hsettings, htimers, hnext, fun id hl => hlive id ▸ hl, ?_⟩
  intro id k hk
  exact ⟨k, hlive id ▸ hk, rfl, .inr rfl⟩

theorem Steady.refl (c : Coordinator) : Steady c c := steady_of_groups rfl rfl rfl rfl

theorem steady_update {f : LiveGroup → LiveGroup} (hid : ∀ l, l.id = id → (f l).id = id)
    (hf : ∀ l, c.live? id = some l → clock (f l) = clock l ∧
      (l.window = [] ∨ (f l).group.enabled = l.group.enabled)) : Steady c (c.update id f) := by
  refine ⟨rfl, rfl, rfl, ?_, ?_⟩
  · intro i hi
    rw [live?_update hid]
    split
    · rwa [Option.isSome_map]
    · exact hi
  · intro i k hk
    by_cases hi : i = id
    · subst hi
      rw [live?_update hid, if_pos rfl] at hk
      obtain ⟨l, hl, rfl⟩ := Option.map_eq_some_iff.mp hk
      exact ⟨l, hl, hf l hl⟩
    · rw [live?_update_of_ne hid hi] at hk
      exact ⟨k, hk, rfl, .inr rfl⟩

theorem steady_send (l : LiveGroup) (p : Parcel) (now : Int) : Steady c (c.send l p now) :=
  Steady.trans (d := { c with store := (propagate c.store l.group c.rules p).1 })
    (steady_of_groups rfl rfl rfl rfl)
    (steady_update (f := fun k => recordSent k (propagate c.store l.group c.rules p).2 now)
      (fun _ h => h) fun _ _ => ⟨rfl, .inr rfl⟩)

theorem steady_settle (l : LiveGroup) (last : Competing) (now : Int) :
    Steady c (c.settle l last now).2 := by
  unfold settle
  split
  · exact steady_of_groups rfl rfl rfl rfl
  · exact .refl c

theorem steady_closeWindow (hl : c.live? id = some l) (now : Int) :
    Steady (c.clearWindow id) (c.closeWindow id now).1 := by
  rcases closeWindow_cases hl now with ⟨_, he⟩ | ⟨last, _, ⟨_, he⟩ | ⟨o, v, _, he⟩⟩
  · exact he ▸ .refl _
  · exact he ▸ steady_settle l last now
  · exact he ▸ (steady_settle l last now).trans (steady_send l _ now)

theorem silences_update (h : Clockwork c) (hl : c.live? id = some l) {f : LiveGroup → LiveGroup}
    (hid : ∀ l, l.id = id → (f l).id = id)
    (hf : (f l).window = [] ∧ (f l).phase = .idle ∧ (f l).timer = none) :
    Silences c id ((c.stopTimer l.timer).update id f) := by
  have hself : ((c.stopTimer l.timer).update id f).live? id = some (f l) :=
    live?_update_self (c := c.stopTimer l.timer) hid hl
  refine ⟨rfl, h.stopTimer hl, rfl,
    fun i hi => live?_update_of_ne (c := c.stopTimer l.timer) hid hi, ?_⟩
  intro k hk
  rw [hself] at hk
  exact Option.some.inj hk ▸ hf

theorem silences_cancel (h : Clockwork c) (hl : c.live? id = some l) :
    Silences c id (c.cancel l) := by
  obtain rfl := id_of_live? hl
  exact silences_update h hl (fun _ h => h) ⟨rfl, rfl, rfl⟩

theorem silences_drop (h : Clockwork c) (hl : c.live? id = some l) : Silences c id (c.drop l) := by
  obtain rfl := id_of_live? hl
  refine ⟨rfl, h.stopTimer hl, rfl, fun i hi => by rw [live?_drop, if_neg hi], ?_⟩
  intro k hk
  rw [live?_drop, if_pos rfl] at hk
  cases hk

theorem silences_unwind (h : Clockwork c) (hl : c.live? id = some l) {f : LiveGroup → LiveGroup}
    (hid : ∀ l, l.id = id → (f l).id = id) (hf : (f l).timer = none) :
    Silences c id (((c.stopTimer l.timer).update id f).clearWindow id) := by
  have hwound : ((c.stopTimer l.timer).update id f).live? id = some (f l) :=
    live?_update_self (c := c.stopTimer l.timer) hid hl
  refine ⟨rfl, h.stopTimer hl, rfl, ?_, ?_⟩
  · intro i hi
    rw [live?_clearWindow_of_ne hi]
    exact live?_update_of_ne (c := c.stopTimer l.timer) hid hi
  · intro k hk
    rw [live?_clearWindow hwound] at hk
    exact Option.some.inj hk ▸ ⟨rfl, rfl, hf⟩

def freshTimer (c : Coordinator) (l : LiveGroup) (now : Int) : Timer :=
  ⟨c.nextTimer, l.id, l.generation + 1, now + c.settings.debounce⟩

theorem timers_note (h : Clockwork c) (hl : c.live? l.id = some l) (w : Competing) (now : Int) :
    (c.note l w now).timers = c.timers.filter (·.group != l.id) ++ [c.freshTimer l now] :=
  congrArg (· ++ [c.freshTimer l now]) (h.stopTimer hl)

theorem Clockwork.note (h : Clockwork c) (hl : c.live? l.id = some l)
    (he : l.group.enabled = true) (w : Competing) : Clockwork (c.note l w w.time) := by
  have htimers := timers_note h hl w w.time
  have hmem : ∀ t ∈ (c.note l w w.time).timers, t ∈ c.timers ∧ t.group ≠ l.id ∨
      t = c.freshTimer l w.time := by
    intro t ht
    rw [htimers, List.mem_append, List.mem_filter, bne_iff_ne, List.mem_singleton] at ht
    exact ht
  refine ⟨?_, ?_, ?_, ?_⟩
  -- serial numbers are given once, as all running timers are below the next one
  · rw [htimers, List.map_append, List.nodup_append]
    refine ⟨h.serials.sublist (List.filter_sublist.map _), by simp, ?_⟩
    intro s hs s' hs' he
    obtain ⟨t, ht, rfl⟩ := List.mem_map.mp hs
    have hlt := h.fresh t (List.mem_filter.mp ht).1
    have hs' : s' = c.nextTimer := by simpa [freshTimer] using hs'
    omega
  · intro t ht
    change t.serial < c.nextTimer + 1
    rcases hmem t ht with ⟨ht, _⟩ | rfl
    · exact Nat.lt_succ_of_lt (h.fresh t ht)
    · exact Nat.lt_succ_self _
  · intro t ht
    rcases hmem t ht with ⟨ht, hne⟩ | rfl
    · rw [live?_note_of_ne hne]
      exact h.owned t ht
    · exact ⟨_, live?_note hl w w.time⟩
  · intro i k hk
    by_cases hi : i = l.id
    · subst hi
      rw [live?_note hl] at hk
      obtain rfl := Option.some.inj hk
      refine .inr ⟨w, c.nextTimer, by simp [LiveGroup.noted, LiveGroup.gather], rfl, he, rfl, ?_⟩
      rw [timersOf, htimers, List.filter_append]
      have hnone : (c.timers.filter (·.group != l.id)).filter (·.group == l.id) = [] := by simp
      have hnew : [c.freshTimer l w.time].filter (·.group == l.id) = [c.freshTimer l w.time] := by
        simp [freshTimer]
      rw [hnone, hnew]
      rfl
    · rw [live?_note_of_ne hi] at hk
      have hts : (c.note l w w.time).timersOf i = c.timersOf i := by
        have hnew : [c.freshTimer l w.time].filter (·.group == i) = [] := by
          simp [freshTimer, Ne.symm hi]
        rw [timersOf, htimers, List.filter_append, filter_key_without hi, hnew, List.append_nil]
        rfl
      rw [hts]
      exact h.ticks i k hk

theorem live?_takeIn (g : Group) : (c.takeIn g).live? i =
    if i = g.id then some (.fresh g c.settings.historyLimit) else c.live? i :=
  find?_install c.groups

theorem Clockwork.takeIn (h : Clockwork c) (hrest : ∀ l, c.live? g.id = some l → l.window = []) :
    Clockwork (c.takeIn g) := by
  have hnone : ∀ t ∈ c.timers, t.group ≠ g.id := by
    intro t ht hg
    obtain ⟨l, hl, _, _, _⟩ := h.of_timer ht
    rw [hg] at hl
    rcases h.ticks g.id l hl with ⟨_, _, _, hts⟩ | ⟨last, _, hlast, _⟩
    · simpa [hts] using mem_timersOf.mpr ⟨ht, hg⟩
    · simp [hrest l hl] at hlast
  refine ⟨h.serials, h.fresh, ?_, ?_⟩
  · intro t ht
    rw [live?_takeIn, if_neg (hnone t ht)]
    exact h.owned t ht
  · intro i k hk
    rw [live?_takeIn] at hk
    by_cases hi : i = g.id
    · rw [if_pos hi] at hk
      obtain rfl := Option.some.inj hk
      have hts : (c.takeIn g).timersOf i = [] := by
        rw [timersOf, List.filter_eq_nil_iff]
        intro t ht
        simpa [hi] using hnone t ht
      exact .inl ⟨rfl, rfl, rfl, hts⟩
    · rw [if_neg hi] at hk
      exact h.ticks i k hk

end LinkedControls.Coordinator
