import LinkedControls.Proofs.Settings.Saving

/-!
Assignments to the file of settings. One that is refused leaves all files alone, and one that succeeds
leaves settings that load again. It keeps the fields that its key does not name, but for those that the
environment overrides: what was meant for one run stays in the file.
-/

namespace LinkedControls.Settings

variable {t u : FileTree} {env : Environment} {path key value : String} {s : Settings} {e : AssignError}

def keyNamed (key : String) : Except AssignError SettingKey :=
  match SettingKey.named? key with
  | some k => .ok k
  | none => .error (.unknownKey key)

/-- The settings that an assignment is about to save, or why there are none. No file is written on the
way to them. -/
def proposal (t : FileTree) (env : Environment) (path key value : String) :
    Except AssignError Settings := do
  let s ← (load t env path).mapError .settings
  let k ← keyNamed key
  let s ← (s.set k value).mapError .fault
  s.validate.mapError .settings
  return s

theorem assign_cases (t : FileTree) (env : Environment) (path key value : String) :
    (∃ e, proposal t env path key value = .error e ∧ assign t env path key value = (.error e, t)) ∨
      ∃ s, proposal t env path key value = .ok s ∧ s.validate = .ok () ∧
        assign t env path key value =
          ((s.save t path).1.mapError .settings, (s.save t path).2) := by
  unfold proposal assign keyNamed
  cases hload : load t env path with
  | error e => exact .inl ⟨_, rfl, rfl⟩
  | ok before =>
    cases hkey : SettingKey.named? key with
    | none => exact .inl ⟨_, rfl, rfl⟩
    | some k =>
      cases hset : before.set k value with
      | error f =>
        refine .inl ⟨.fault f, ?_, ?_⟩
        · simp only [Except.mapError, bind, Except.bind, hset]
        · simp only [hset]
      | ok s =>
        cases hvalid : s.validate with
        | error e =>
          refine .inl ⟨.settings e, ?_, ?_⟩
          · simp only [Except.mapError, bind, Except.bind, hset, hvalid]
          · simp only [hset, save, hvalid]
            rfl
        | ok _ =>
          refine .inr ⟨s, ?_, hvalid, ?_⟩
          · simp only [Except.mapError, bind, Except.bind, hset, hvalid]
            rfl
          · simp only [hset]

theorem named?_of_keyNamed {k : SettingKey} (h : keyNamed key = .ok k) :
    SettingKey.named? key = some k := by
  unfold keyNamed at h
  split at h
  next hnamed =>
    cases h
    exact hnamed
  next => cases h

theorem of_proposal (h : proposal t env path key value = .ok s) :
    ∃ loaded k, load t env path = .ok loaded ∧ SettingKey.named? key = some k ∧
      loaded.set k value = .ok s := by
  obtain ⟨loaded, hload, h⟩ := bind_eq_ok h
  obtain ⟨k, hkey, h⟩ := bind_eq_ok h
  obtain ⟨s', hset, h⟩ := bind_eq_ok h
  obtain ⟨⟨⟩, -, h⟩ := bind_eq_ok h
  cases h
  exact ⟨loaded, k, eq_ok_of_mapError hload, named?_of_keyNamed hkey, eq_ok_of_mapError hset⟩

theorem of_assign_ok (h : assign t env path key value = (.ok (), u)) :
    ∃ s, proposal t env path key value = .ok s ∧ s.validate = .ok () ∧ u.read path = .ok s.toText := by
  obtain ⟨e, -, hassign⟩ | ⟨s, hs, hvalid, hassign⟩ := assign_cases t env path key value
  · rw [h] at hassign
    cases hassign
  · obtain ⟨v, hsave, hread⟩ | ⟨m, v, hsave⟩ := save_cases hvalid t path
    · rw [h, hsave] at hassign
      cases hassign
      exact ⟨s, hs, hvalid, hread⟩
    · rw [h, hsave] at hassign
      cases hassign

theorem assign_receives (hs : proposal t env path key value = .ok s) (ht : t.Receives path)
    (hname : Path.IsName path) :
    assign t env path key value = (.ok (), t.replaced path s.toText) := by
  obtain ⟨e, he, -⟩ | ⟨s', hs', hvalid, hassign⟩ := assign_cases t env path key value
  · rw [hs] at he
    cases he
  · rw [hs] at hs'
    cases hs'
    rw [hassign, save_receives hvalid ht hname]
    rfl

theorem receives_empty : FileTree.empty.Receives "config.json" := by
  constructor
  all_goals decide

theorem isName_config : Path.IsName "config.json" := by
  constructor
  all_goals decide

theorem assign_all_or_nothing (t : FileTree) (env : Environment) (path key value : String) :
    (∀ e, proposal t env path key value = .error e →
      assign t env path key value = (.error e, t)) ∧
    (∀ e u, assign t env path key value = (.error e, u) → (∀ m, e ≠ .settings (.unwritable m)) →
      proposal t env path key value = .error e ∧ u = t) ∧
    (∀ u, assign t env path key value = (.ok (), u) →
      ∃ s, proposal t env path key value = .ok s ∧ u.read path = .ok s.toText ∧
        ∀ env', Silent env' → load u env' path = .ok s) := by
  refine ⟨fun e he => ?_, fun e u he hwritten => ?_, fun u hu => ?_⟩
  · obtain ⟨e', he', hassign⟩ | ⟨s, hs, -, -⟩ := assign_cases t env path key value
    · rw [he] at he'
      cases he'
      exact hassign
    · rw [he] at hs
      cases hs
  · obtain ⟨e', he', hassign⟩ | ⟨s, -, hvalid, hassign⟩ := assign_cases t env path key value
    · rw [he] at hassign
      cases hassign
      exact ⟨he', rfl⟩
    · rw [he] at hassign
      obtain ⟨v, hsave, -⟩ | ⟨m, v, hsave⟩ := save_cases hvalid t path
      · rw [hsave] at hassign
        cases hassign
      · rw [hsave] at hassign
        cases hassign
        exact absurd rfl (hwritten m)
  · obtain ⟨s, hs, hvalid, hread⟩ := of_assign_ok hu
    exact ⟨s, hs, hread, fun env' henv => load_of_text hvalid hread henv⟩

theorem assign_all_or_nothing_quotedLevel :
    let level := "say \"no\"\n"
    let s : Settings := { default with log := ⟨level, false⟩ }
    assign .empty [] "config.json" "url.max_value_len" "8" =
        (.error (.settings (.outOfBounds "url.max_value_len")), .empty) ∧
      (∃ u, assign .empty [] "config.json" "log" "x" = (.error (.unknownKey "log"), u) ∧
        u = .empty) ∧
      ∃ u, assign .empty [] "config.json" "log.level" level = (.ok (), u) ∧
        load u [] "config.json" = .ok s := by
  intro level s
  have hbounds : proposal .empty [] "config.json" "url.max_value_len" "8" =
      .error (.settings (.outOfBounds "url.max_value_len")) := by decide
  have hkey : assign .empty [] "config.json" "log" "x" = (.error (.unknownKey "log"), .empty) := by
    decide
  have hs : proposal .empty [] "config.json" "log.level" level = .ok s := by decide
  have hassign := assign_receives hs receives_empty isName_config
  obtain ⟨-, hkept⟩ := (assign_all_or_nothing _ _ _ _ _).2.1 _ _ hkey fun m => by simp
  obtain ⟨s', hs', -, hload⟩ := (assign_all_or_nothing _ _ _ _ _).2.2 _ hassign
  rw [hs] at hs'
  cases hs'
  exact ⟨(assign_all_or_nothing _ _ _ _ _).1 _ hbounds, ⟨_, hkey, hkept⟩, _, hassign,
    hload [] silent_nil⟩

theorem assign_keeps_fields_iff (h : assign t env path key value = (.ok (), u)) :
    ∃ k before after, SettingKey.named? key = some k ∧ read t path = .ok before ∧
      read u path = .ok after ∧ k.valueOf? value = some (after.get k) ∧
      (∀ k' ≠ k, after.get k' = (overridden? env k').getD (before.get k')) ∧
      ((∀ k' ≠ k, after.get k' = before.get k') ↔
        ∀ k' ≠ k, ∀ v, overridden? env k' = some v → v = before.get k') ∧
      (before.set k value = .ok after ↔
        ∀ k' ≠ k, ∀ v, overridden? env k' = some v → v = before.get k') := by
  obtain ⟨after, hproposal, hvalid, hread⟩ := of_assign_ok h
  obtain ⟨loaded, k, hload, hkey, hset⟩ := of_proposal hproposal
  obtain ⟨before, hbefore, hover, -⟩ := load_eq_ok.mp hload
  obtain ⟨hvalue, hothers⟩ := set_eq_ok_iff.mp hset
  have hfields : ∀ k' ≠ k, after.get k' = (overridden? env k').getD (before.get k') := by
    intro k' hne
    rw [hothers k' hne, get_override hover]
  have hkept : (∀ k' ≠ k, after.get k' = before.get k') ↔
      ∀ k' ≠ k, ∀ v, overridden? env k' = some v → v = before.get k' := by
    refine forall_congr' fun k' => forall_congr' fun hne => ?_
    rw [hfields k' hne]
    cases overridden? env k' <;> simp
  refine ⟨k, before, after, hkey, hbefore, read_of_text (inWords_of_validate hvalid) hread, hvalue,
    hfields, hkept, ?_⟩
  rw [set_eq_ok_iff, and_iff_right hvalue, hkept]

theorem assign_keeps_fields_iff_level :
    ∃ u after, assign .empty [(logVariable, "trace")] "config.json" "sync.debounce_ms" "400" =
        (.ok (), u) ∧
      read u "config.json" = .ok after ∧ after.get .debounce = .number 400 ∧
      after.get .logLevel = .text "trace" ∧ after.get .historyLimit = default.get .historyLimit := by
  have hs : proposal .empty [(logVariable, "trace")] "config.json" "sync.debounce_ms" "400" =
      .ok { default with sync := ⟨400, 100⟩, log := ⟨"trace", false⟩ } := by decide
  have hassign := assign_receives hs receives_empty isName_config
  obtain ⟨k, before, after, hkey, hbefore, hafter, hvalue, hfields, -⟩ :=
    assign_keeps_fields_iff hassign
  have hk : SettingKey.named? "sync.debounce_ms" = some .debounce := by decide
  rw [hk] at hkey
  cases hkey
  have hdefault : read .empty "config.json" = .ok default := read_of_missing (by decide)
  rw [hdefault] at hbefore
  cases hbefore
  refine ⟨_, after, hassign, hafter, ?_, hfields .logLevel (by decide),
    hfields .historyLimit (by decide)⟩
  exact (Option.some.inj hvalue).symm

theorem override_stays :
    ∃ u after, assign .empty [(debounceVariable, "77")] "config.json" "log.json" "true" = (.ok (), u) ∧
      read .empty "config.json" = .ok default ∧ read u "config.json" = .ok after ∧
      default.get .debounce = .number 300 ∧ after.get .debounce = .number 77 := by
  have hs : proposal .empty [(debounceVariable, "77")] "config.json" "log.json" "true" =
      .ok { default with sync := ⟨77, 100⟩, log := ⟨"info", true⟩ } := by decide
  have hassign := assign_receives hs receives_empty isName_config
  obtain ⟨after, hafter, hvalid, hread⟩ := of_assign_ok hassign
  rw [hs] at hafter
  cases hafter
  exact ⟨_, _, hassign, read_of_missing (by decide), read_of_text (inWords_of_validate hvalid) hread,
    rfl, rfl⟩

end LinkedControls.Settings
