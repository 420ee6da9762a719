import LinkedControls.Proofs.Sync.Roster
import LinkedControls.Proofs.Sync.Ties

/-!
The rules of a coordinator and their ids. A new rule takes the place of the one for its two members and
also of the one with its id, so that a rule between others is lost if it has the id.
-/

namespace LinkedControls.Coordinator

variable {c d e : Coordinator} {l : LiveGroup} {r s : Rule} {id control : String} {op : Operation}
  {now : Int}

structure Prunes (c d : Coordinator) : Prop where
  settings : d.settings = c.settings
  rules : d.rules.Sublist c.rules

namespace Prunes

theorem refl (c : Coordinator) : Prunes c c := ⟨rfl, .refl _⟩

theorem trans (h : Prunes c d) (h' : Prunes d e) : Prunes c e :=
  ⟨h'.settings.trans h.settings, h'.rules.trans h.rules⟩

theorem of_eq (hsettings : d.settings = c.settings) (hrules : d.rules = c.rules) : Prunes c d :=
  ⟨hsettings, hrules ▸ .refl _⟩

end Prunes

theorem prunes_drop (c : Coordinator) (l : LiveGroup) : Prunes c (c.drop l) :=
  ⟨rfl, List.filter_sublist⟩

theorem prunes_expel (c : Coordinator) (control : String) (l : LiveGroup) :
    Prunes c (c.expel control l).1 := by
  rcases expel_cases c control l with ⟨-, he, -⟩ | ⟨-, he⟩
  · rw [he]
    exact ⟨rfl, List.filter_sublist⟩
  · rw [he]
    exact prunes_drop c l

theorem prunes_detachAll (hwk : WellKept c.roster) (controls : List String) (keep : String) :
    Prunes c (c.detachAll controls keep).1 :=
  detachAll_of_expel hwk (.refl c) (fun d l m _ hd _ _ _ => hd.trans (prunes_expel d m l)) controls

theorem prunes_closeWindow (c : Coordinator) (id : String) (now : Int) :
    Prunes c (c.closeWindow id now).1 := by
  refine closeWindow_induction (.refl c) (.of_eq rfl rfl) (fun l last => ?_)
    fun d l p hd => hd.trans (.of_eq rfl rfl)
  rw [settle]
  split
  · exact .of_eq rfl rfl
  · exact .of_eq rfl rfl

theorem prunes_perform (hwk : WellKept c.roster) (hop : ∀ r, op ≠ .addRule r) (now : Int) :
    Prunes c (c.perform now op) := by
  have keep {ε α : Type} {next : α → Coordinator} {r : Except ε α}
      (hok : ∀ a, r = .ok a → Prunes c (next a)) : Prunes c (c.after next r) :=
    after_induction (.refl c) hok
  cases op with
  | createGroup g =>
    refine keep fun o ho => ?_
    obtain ⟨-, -, hnext⟩ := createGroup_eq_ok ho
    exact hnext ▸ (prunes_detachAll hwk g.members g.id).trans (.of_eq rfl rfl)
  | updateGroup g =>
    refine keep fun o ho => ?_
    obtain ⟨-, l, -, hnext⟩ := updateGroup_eq_ok ho
    have hwk' : WellKept (c.cancel l).roster := by rwa [roster_cancel]
    have hcancel : Prunes c (c.cancel l) := .of_eq rfl rfl
    exact hnext ▸ (hcancel.trans (prunes_detachAll hwk' g.members g.id)).trans
      ⟨rfl, List.filter_sublist⟩
  | deleteGroup id =>
    refine keep fun o ho => ?_
    obtain ⟨l, -, hnext⟩ := deleteGroup_eq_ok ho
    exact hnext ▸ prunes_drop c l
  | addMember id control =>
    refine keep fun o ho => ?_
    obtain ⟨l, -, ⟨-, hnext⟩ | ⟨-, hnext⟩⟩ := addMember_eq_ok ho
    · exact hnext ▸ .refl c
    · exact hnext ▸ (prunes_detachAll hwk [control] id).trans (.of_eq rfl rfl)
  | removeMember id control =>
    refine keep fun o ho => ?_
    obtain ⟨l, -, -, hnext⟩ := removeMember_eq_ok ho
    exact hnext ▸ prunes_expel c control l
  | setEnabled id enabled =>
    refine keep fun o ho => ?_
    obtain ⟨l, -, hnext⟩ := setEnabled_eq_ok ho
    rw [hnext]
    cases enabled with
    | true => exact .of_eq rfl rfl
    | false => exact .of_eq rfl rfl
  | loadGroups stored =>
    exact loadGroups_induction (.refl c) (fun d g hd _ _ => hd.trans (.of_eq rfl rfl)) stored
  | addRule r => exact absurd rfl (hop r)
  | removeRule id =>
    exact keep fun a ha => (removeRule_eq_ok ha).2.2 ▸ ⟨rfl, List.filter_sublist⟩
  | setCombinator id f =>
    refine keep fun d hd => ?_
    obtain ⟨-, -, rfl⟩ := setCombinator_eq_ok hd
    exact .of_eq rfl rfl
  | change control v origin =>
    refine keep fun r hr => ?_
    obtain ⟨store, -, ⟨he, -⟩ | ⟨-, l, -, -, he⟩⟩ := handleChange_eq_ok hr
    · exact he ▸ .of_eq rfl rfl
    · exact he ▸ .of_eq rfl rfl
  | flush id =>
    refine keep fun o ho => ?_
    obtain ⟨l, -, ⟨-, he⟩ | ⟨-, he⟩⟩ := flush_eq_ok ho
    · exact he ▸ .of_eq rfl rfl
    · have hdisarm : Prunes c (c.disarm l) := .of_eq rfl rfl
      exact he ▸ hdisarm.trans (prunes_closeWindow _ id now)
  | resolve id v resolver =>
    refine keep fun r hr => ?_
    obtain ⟨k, -, ⟨-, he⟩ | ⟨-, -, he⟩ | ⟨-, l, -, -, he⟩⟩ := resolveConflict_eq_ok hr
    · exact he ▸ .refl c
    · exact he ▸ .of_eq rfl rfl
    · exact he ▸ .of_eq rfl rfl
  | ignore id =>
    refine keep fun a ha => ?_
    obtain ⟨_, -, hd⟩ := ignoreConflict_eq_ok ha
    exact hd ▸ .of_eq rfl rfl
  | shutdown => exact shutdown_induction (.refl c) fun d l _ hd => hd.trans (.of_eq rfl rfl)
  | expire t =>
    simp only [perform]
    split
    · rcases fire_cases c t now with ⟨he, -⟩ | ⟨l, -, -, -, he⟩
      · exact he ▸ .of_eq rfl rfl
      · have hstopped : Prunes c ((c.stopTimer (some t.serial)).update t.group fun k =>
            { k with timer := none }) := .of_eq rfl rfl
        exact he ▸ hstopped.trans (prunes_closeWindow _ t.group now)
    · exact .refl c
  | act a => exact keep fun _ _ => .of_eq rfl rfl

theorem settings_perform (hwk : WellKept c.roster) (now : Int) (op : Operation) :
    (c.perform now op).settings = c.settings := by
  by_cases hop : ∀ r, op ≠ .addRule r
  · exact (prunes_perform hwk hop now).settings
  · obtain ⟨r, rfl⟩ := not_forall_not.mp hop
    refine after_induction (P := fun d => d.settings = c.settings) rfl fun a ha => ?_
    obtain ⟨-, -, -, -, -, hd⟩ := addRule_eq_ok ha
    rw [hd]

def rulesBeside (c : Coordinator) (r : Rule) : List Rule :=
  c.rules.filter fun s => !s.isFor r.group r.source r.target && s.id != r.id

theorem mem_rulesBeside : s ∈ c.rulesBeside r ↔
    s ∈ c.rules ∧ s.isFor r.group r.source r.target = false ∧ s.id ≠ r.id := by
  simp [rulesBeside]

theorem ruleIds_nodup_perform (hwk : WellKept c.roster) (h : (c.rules.map (·.id)).Nodup) (now : Int)
    (op : Operation) : ((c.perform now op).rules.map (·.id)).Nodup := by
  by_cases hop : ∀ r, op ≠ .addRule r
  · exact h.sublist ((prunes_perform hwk hop now).rules.map _)
  · obtain ⟨r, rfl⟩ := not_forall_not.mp hop
    refine after_induction (P := fun d => (d.rules.map (·.id)).Nodup) h fun a ha => ?_
    obtain ⟨-, -, -, -, -, hd⟩ := addRule_eq_ok ha
    have hrest : ((c.rulesBeside r).map (·.id)).Nodup := h.sublist (List.filter_sublist.map _)
    have hnew : r.id ∉ (c.rulesBeside r).map (·.id) := by
      intro hmem
      obtain ⟨s, hs, he⟩ := List.mem_map.mp hmem
      exact (mem_rulesBeside.mp hs).2.2 he
    have hrules : a.2.rules.map (·.id) = (c.rulesBeside r).map (·.id) ++ [r.id] := by
      rw [hd]
      exact List.map_append
    rw [hrules]
    exact hrest.append (List.nodup_singleton _) (by simpa using hnew)

theorem Reachable.ruleIds_nodup (h : Reachable c) : (c.rules.map (·.id)).Nodup := by
  induction h with
  | start settings store nextConflict => exact .nil
  | step now op hr ih => exact ruleIds_nodup_perform hr.wellKept ih now op

/-- The rule that a new one takes the id from though it is between other members. -/
def displaced? (c : Coordinator) (r : Rule) : Option Rule :=
  (c.rules.find? (·.id == r.id)).filter fun s => !s.isFor r.group r.source r.target

theorem displaced?_eq_some_iff (h : (c.rules.map (·.id)).Nodup) : c.displaced? r = some s ↔
    s ∈ c.rules ∧ s.id = r.id ∧ s.isFor r.group r.source r.target = false := by
  rw [displaced?, Option.filter_eq_some_iff, find?_key_eq_some_iff h, Bool.not_eq_true', and_assoc]

theorem rulesBeside_eq (h : (c.rules.map (·.id)).Nodup) (r : Rule) : c.rulesBeside r =
    c.rules.filter fun s => !s.isFor r.group r.source r.target && c.displaced? r != some s := by
  refine List.filter_congr fun s hs => ?_
  rw [Bool.eq_iff_iff]
  simp only [Bool.and_eq_true, Bool.not_eq_true', bne_iff_ne, ne_eq, displaced?_eq_some_iff h]
  refine and_congr_right fun hother => not_congr ?_
  exact ⟨fun hid => ⟨hs, hid, hother⟩, fun hd => hd.2.1⟩

theorem addRule_displaces (h : Reachable c) {a : Rule × Coordinator} (ha : c.addRule r = .ok a) :
    a.2 = { c with rules := (c.rules.filter fun s =>
        !s.isFor r.group r.source r.target && c.displaced? r != some s) ++ [r] } ∧
      (∀ s ∈ a.2.rules, s.isFor r.group r.source r.target = true → s = r) ∧
      ((∀ s ∈ c.rules, s.isFor r.group r.source r.target = false → s ∈ a.2.rules) ↔
        c.displaced? r = none) := by
  obtain ⟨l, -, -, -, -, hd⟩ := addRule_eq_ok ha
  have hrules : a.2.rules = c.rulesBeside r ++ [r] := congrArg rules hd
  have hmem (s : Rule) : s ∈ a.2.rules ↔ s ∈ c.rulesBeside r ∨ s = r := by
    rw [hrules, List.mem_append, List.mem_singleton]
  refine ⟨?_, ?_, ?_, ?_⟩
  · rw [← rulesBeside_eq h.ruleIds_nodup]
    exact hd
  · intro s hs hfor
    refine ((hmem s).mp hs).resolve_left fun hs => ?_
    exact Bool.false_ne_true ((mem_rulesBeside.mp hs).2.1.symm.trans hfor)
  · intro hall
    refine Option.eq_none_iff_forall_ne_some.mpr fun s hs => ?_
    obtain ⟨hold, hid, hother⟩ := (displaced?_eq_some_iff h.ruleIds_nodup).mp hs
    rcases (hmem s).mp (hall s hold hother) with hkept | rfl
    · exact (mem_rulesBeside.mp hkept).2.2 hid
    · rw [Rule.isFor_eq_true.mpr ⟨rfl, rfl, rfl⟩] at hother
      cases hother
  · intro hnone s hold hother
    refine (hmem s).mpr (.inl (mem_rulesBeside.mpr ⟨hold, hother, fun hid => ?_⟩))
    have hs := (displaced?_eq_some_iff h.ruleIds_nodup).mpr ⟨hold, hid, hother⟩
    rw [hnone] at hs
    cases hs

def twoBooks : Coordinator :=
  (start .default .empty 0).performAll [
    (0, .createGroup ⟨"g", "g", ["a", "b"], .bidirectional, none, .latestWins, true, none⟩),
    (0, .createGroup ⟨"h", "h", ["x", "y"], .bidirectional, none, .latestWins, true, none⟩),
    (0, .addRule ⟨"r", "g", "a", "b", .append "!", true⟩),
    (0, .addRule ⟨"s", "h", "x", "y", .append "?", true⟩)]

def newcomer (id : String) : Rule := ⟨id, "h", "x", "y", .append "-", true⟩

theorem addRule_displaces_twoBooks : Reachable twoBooks ∧
    (∃ a, twoBooks.addRule (newcomer "t") = .ok a ∧
      a.2.rules = [⟨"r", "g", "a", "b", .append "!", true⟩, newcomer "t"] ∧
      ∀ s ∈ twoBooks.rules, s.isFor "h" "x" "y" = false → s ∈ a.2.rules) ∧
    ∃ a, twoBooks.addRule (newcomer "r") = .ok a ∧ a.2.rules = [newcomer "r"] ∧
      ¬ ∀ s ∈ twoBooks.rules, s.isFor "h" "x" "y" = false → s ∈ a.2.rules := by
  have h : Reachable twoBooks := (Reachable.start ..).performAll _
  have ht : twoBooks.addRule (newcomer "t") = .ok (newcomer "t", { twoBooks with
    rules := [⟨"r", "g", "a", "b", .append "!", true⟩, newcomer "t"] }) := by decide
  have hr : twoBooks.addRule (newcomer "r") =
    .ok (newcomer "r", { twoBooks with rules := [newcomer "r"] }) := by decide
  obtain ⟨-, -, hkept⟩ := addRule_displaces h ht
  obtain ⟨-, -, hlost⟩ := addRule_displaces h hr
  refine ⟨h, ⟨_, ht, rfl, hkept.mpr (by decide)⟩, _, hr, rfl, mt hlost.mp (by decide)⟩

theorem newcomer_displaces : Reachable twoBooks ∧
    twoBooks.rules =
        [⟨"r", "g", "a", "b", .append "!", true⟩, ⟨"s", "h", "x", "y", .append "?", true⟩] ∧
      (twoBooks.perform 1 (.addRule (newcomer "r"))).rules = [newcomer "r"] :=
  ⟨(Reachable.start ..).performAll _, by decide⟩

end LinkedControls.Coordinator
