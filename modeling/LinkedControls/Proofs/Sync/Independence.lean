import LinkedControls.Proofs.Sync.Locality

/-!
Operations that are addressed to different groups. Neither one meets what the other one does, so that
they may change places.
-/

namespace LinkedControls.Coordinator

variable {c d e : Coordinator} {g g' i : String} {known members members' : List String}
  {a b : Operation} {now : Int}

theorem not_mem_membersIn (hwk : WellKept c.roster) (hne : g ≠ g') {m : String}
    (hm : m ∈ c.membersIn g) : m ∉ c.membersIn g' := by
  intro hm'
  cases hl : c.live? g with
  | none => simp [membersIn, membersOf?, hl] at hm
  | some l =>
    cases hk : c.live? g' with
    | none => simp [membersIn, membersOf?, hk] at hm'
    | some k =>
      rw [membersIn_of_live? hl] at hm
      rw [membersIn_of_live? hk] at hm'
      have hsame := eq_of_common_member hwk (mem_of_live? hl) (mem_of_live? hk) hm hm'
      exact hne ((id_of_live? hl).symm.trans (hsame ▸ id_of_live? hk))

theorem Confined.matches (h : Confined g (c.membersIn g) c d) (hwk : WellKept c.roster) (hne : i ≠ g) :
    Matches i c d :=
  ⟨h.alike i hne, h.conflicts i hne, fun m hm => h.store m (not_mem_membersIn hwk hne hm)⟩

theorem Matches.membersIn (h : Matches i c d) : d.membersIn i = c.membersIn i := by
  rw [Coordinator.membersIn, membersOf?, h.alike.live, ← membersOf?, ← Coordinator.membersIn]

namespace Resembles

theorem symm (h : Resembles known members i c d) : Resembles known members i d c :=
  ⟨h.live.symm, h.rules.symm, h.combinator.symm, h.conflicts.symm, h.due.symm,
    fun m hm => (h.store m hm).symm⟩

theorem trans (h : Resembles known members i c d) (h' : Resembles known members i d e) :
    Resembles known members i c e :=
  ⟨h'.live.trans h.live, h'.rules.trans h.rules, h'.combinator.trans h.combinator,
    h'.conflicts.trans h.conflicts, h'.due.trans h.due, fun m hm => (h'.store m hm).trans (h.store m hm)⟩

end Resembles

theorem Numbered.fresh (h : Numbered c) (hle : c.nextConflict ≤ d.nextConflict) :
    conflictId d.nextConflict ∉ c.conflictIds := by
  intro hmem
  obtain ⟨n, hn, he⟩ := h.given _ hmem
  have := conflictId_inj he
  omega

theorem filter_eq_of_mem_iff {rules : List Rule} {keep keep' : Rule → Bool}
    (h : ∀ r, r ∈ rules.filter keep ↔ r ∈ rules.filter keep') :
    rules.filter keep = rules.filter keep' := by
  refine List.filter_congr fun r hr => Bool.eq_iff_iff.mpr ?_
  simpa [List.mem_filter, hr] using h r

theorem confined_second (h : Reachable c) (ha : c.addressed? a = some g)
    (hb : c.addressed? b = some g') (hne : g ≠ g') (now : Int) :
    Confined g (c.membersIn g) (c.perform now b) ((c.perform now b).perform now a) := by
  have hfirst := (confined_perform h hb now).matches h.wellKept hne
  have haddressed := hfirst.addressed? h (h.step now b) ha
  have hsecond := confined_perform (h.step now b) haddressed now
  rwa [hfirst.membersIn] at hsecond

theorem resembles_swapped (h : Reachable c) (ha : c.addressed? a = some g)
    (hb : c.addressed? b = some g') (hne : g ≠ g') (now : Int) :
    Resembles c.conflictIds (c.membersIn g') g' ((c.perform now a).perform now b)
      ((c.perform now b).perform now a) := by
  -- on its own group, `b` does the same after `a` as at once, and `a` leaves it
  have hfirst := (confined_perform h ha now).matches h.wellKept hne.symm
  have hlocal := hfirst.perform h (h.step now a) hb (h.numbered.fresh (Nat.le_refl _))
    (h.numbered.fresh (grows_perform h.wellKept now a).le) now
  have hsecond := confined_second h ha hb hne now
  have hkept : InStep c.conflictIds (c.membersIn g') g' (c.perform now b)
      ((c.perform now b).perform now a) :=
    ⟨hsecond.alike g' hne.symm, by rw [hsecond.conflicts g' hne.symm],
      fun m hm => hsecond.store m (not_mem_membersIn h.wellKept hne.symm hm)⟩
  exact hlocal.symm.trans hkept.resembles

structure ShowsSame (known : List String) (c d : Coordinator) : Prop where
  store : ∀ control, d.store.get? control = c.store.get? control
  groups : ∀ id, (d.live? id).map LiveGroup.seen = (c.live? id).map LiveGroup.seen
  rules : d.rules = c.rules
  combinators : ∀ id, d.combinator? id = c.combinator? id
  conflicts : ∀ id, (d.conflictsOf id).map (·.blanked known) = (c.conflictsOf id).map (·.blanked known)
  due : ∀ id, (d.timersOf id).map (·.due) = (c.timersOf id).map (·.due)

theorem ShowsSame.of_resembles (hgroups : ∀ i, ∃ members, Resembles known members i c d)
    (hstore : ∀ m, d.store.get? m = c.store.get? m) {rules : List Rule}
    (hc : ∃ keep : Rule → Bool, c.rules = rules.filter keep)
    (hd : ∃ keep : Rule → Bool, d.rules = rules.filter keep) : ShowsSame known c d := by
  choose members hresembles using hgroups
  refine ⟨hstore, fun i => (hresembles i).live, ?_, fun i => (hresembles i).combinator,
    fun i => (hresembles i).conflicts, fun i => (hresembles i).due⟩
  have hmem (r : Rule) : r ∈ d.rules ↔ r ∈ c.rules := by
    have hof (e : Coordinator) : r ∈ e.rules ↔ r ∈ e.rulesFor r.group := by simp [rulesFor]
    rw [hof, hof, (hresembles r.group).rules]
  obtain ⟨keep, hc⟩ := hc
  obtain ⟨keep', hd⟩ := hd
  rw [hc, hd] at hmem ⊢
  exact filter_eq_of_mem_iff hmem

theorem Confined.elsewhere (h : Confined g members c d) (h' : Confined g' members' d e) (hi : i ≠ g)
    (hi' : i ≠ g') : InStep known [] i c e :=
  ⟨(h.alike i hi).trans (h'.alike i hi'), by rw [h'.conflicts i hi', h.conflicts i hi],
    fun _ hm => absurd hm List.not_mem_nil⟩

theorem operations_commute (h : Reachable c) (ha : c.addressed? a = some g)
    (hb : c.addressed? b = some g') (hne : g ≠ g') (now : Int) :
    ShowsSame c.conflictIds ((c.perform now a).perform now b)
      ((c.perform now b).perform now a) := by
  have hfirst := confined_perform h ha now
  have hthen := confined_second h hb ha hne.symm now
  have hfirst' := confined_perform h hb now
  have hthen' := confined_second h ha hb hne now
  have hown := (resembles_swapped h hb ha hne.symm now).symm
  have hown' := resembles_swapped h ha hb hne now
  refine .of_resembles (fun i => ?_) (fun m => ?_) (hfirst.rules_trans hthen)
    (hfirst'.rules_trans hthen')
  · rcases eq_or_ne i g with rfl | hi
    · exact ⟨_, hown⟩
    · rcases eq_or_ne i g' with rfl | hi'
      · exact ⟨_, hown'⟩
      · have hafter : InStep c.conflictIds [] i c ((c.perform now a).perform now b) :=
          hfirst.elsewhere hthen hi hi'
        exact ⟨_, hafter.resembles.symm.trans (hfirst'.elsewhere hthen' hi' hi).resembles⟩
  · by_cases hm : m ∈ c.membersIn g
    · exact hown.store m hm
    · by_cases hm' : m ∈ c.membersIn g'
      · exact hown'.store m hm'
      · rw [hthen.store m hm', hfirst.store m hm, hthen'.store m hm, hfirst'.store m hm']

def rivals : Coordinator := (start .default .empty 0).performAll [
  (0, .act (.register "a" .text (.text ""))),
  (0, .act (.register "b" .text (.text ""))),
  (0, .act (.register "x" .text (.text ""))),
  (0, .act (.register "y" .text (.text ""))),
  (0, .createGroup ⟨"g", "g", ["a", "b"], .bidirectional, none, .manual, true, none⟩),
  (0, .createGroup ⟨"h", "h", ["x", "y"], .bidirectional, none, .latestWins, true, none⟩),
  (1, .change "a" (.text "1") .user),
  (1, .change "x" (.text "2") .user),
  (2, .change "b" (.text "3") .user),
  (2, .change "y" (.text "4") .user)]

theorem operations_commute_rivals :
    ShowsSame [] ((rivals.perform 3 (.flush "g")).perform 3 (.flush "h"))
        ((rivals.perform 3 (.flush "h")).perform 3 (.flush "g")) ∧
      ((rivals.perform 3 (.flush "g")).perform 3 (.flush "h")).conflictIds = ["#0", "#1"] ∧
      (((rivals.perform 3 (.flush "h")).perform 3 (.flush "g")).conflictsOf "g").map (·.id) =
        ["#1"] := by
  have hreach : Reachable rivals := (Reachable.start _ _ _).performAll _
  have hg : rivals.addressed? (.flush "g") = some "g" := rfl
  have hh : rivals.addressed? (.flush "h") = some "h" := rfl
  have hsame := operations_commute hreach hg hh (by decide) 3
  have hnone : rivals.conflictIds = [] := by decide
  rw [hnone] at hsame
  exact ⟨hsame, by decide, by decide⟩

end LinkedControls.Coordinator
