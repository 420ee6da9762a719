import LinkedControls.Proofs.Files.Folder
import LinkedControls.Proofs.Json.ReadBack
import LinkedControls.Proofs.Settings.Fields

/-!
Settings that keep their bounds are what their file reads as after they have been saved.
-/

namespace LinkedControls.Settings

open Json

variable {s : Settings} {t u : FileTree} {env : Environment} {path : String}

theorem validate_eq_ok : s.validate = .ok () ↔ ∀ field ∈ s.bounds, field.2 = true := by
  have hfault : s.fault? = none ↔ ∀ field ∈ s.bounds, field.2 = true := by
    simp [fault?, List.find?_eq_none]
  rw [← hfault, validate]
  cases s.fault? <;> simp

structure InWords (s : Settings) : Prop where
  debounce : s.sync.debounce ≤ numberLimit
  historyLimit : s.sync.historyLimit ≤ numberLimit
  maxPairs : s.url.pairs ≤ numberLimit
  maxValueBytes : s.url.valueBytes ≤ numberLimit

theorem inWords_of_validate (h : s.validate = .ok ()) : s.InWords := by
  have hbounds := validate_eq_ok.mp h
  simp only [bounds, List.forall_mem_cons, decide_eq_true_eq] at hbounds
  obtain ⟨hdebounce, hhistory, hpairs, hbytes, -⟩ := hbounds
  refine ⟨?_, ?_, ?_, ?_⟩ <;> (unfold numberLimit; omega)

theorem asNat?_ofNat {limit n : Nat} (h : n ≤ limit) : asNat? limit (.ofNat n) = some n := by
  have hint : (0 : Int) ≤ n ∧ (n : Int) ≤ limit := by omega
  simp [asNat?, asInt?, ofNat, hint]

theorem syncOfJson?_object {debounce history : Nat} (hd : debounce ≤ numberLimit)
    (hh : history ≤ numberLimit) :
    syncOfJson? (.object [("debounce_ms", .ofNat debounce), ("history_limit", .ofNat history)]) =
      some ⟨debounce, history⟩ := by
  have hmembers : members? ["debounce_ms", "history_limit"]
      (.object [("debounce_ms", .ofNat debounce), ("history_limit", .ofNat history)]) =
        some [some (.ofNat debounce), some (.ofNat history)] := rfl
  rw [syncOfJson?, hmembers]
  simp [withDefault, asNat?_ofNat hd, asNat?_ofNat hh]

theorem limitsOfJson?_object {pairs bytes : Nat} (hp : pairs ≤ numberLimit)
    (hb : bytes ≤ numberLimit) :
    limitsOfJson? (.object [("max_params", .ofNat pairs), ("max_value_len", .ofNat bytes)]) =
      some ⟨pairs, bytes⟩ := by
  have hmembers : members? ["max_params", "max_value_len"]
      (.object [("max_params", .ofNat pairs), ("max_value_len", .ofNat bytes)]) =
        some [some (.ofNat pairs), some (.ofNat bytes)] := rfl
  rw [limitsOfJson?, hmembers]
  simp [withDefault, asNat?_ofNat hp, asNat?_ofNat hb]

theorem ofJson?_toJson (h : s.InWords) : ofJson? s.toJson = some s := by
  have hsync := syncOfJson?_object h.debounce h.historyLimit
  have hurl := limitsOfJson?_object h.maxPairs h.maxValueBytes
  have hmembers : s.toJson.members? ["sync", "url", "query", "log"] = some [
      some (.object [("debounce_ms", .ofNat s.sync.debounce),
        ("history_limit", .ofNat s.sync.historyLimit)]),
      some (.object [("max_params", .ofNat s.url.pairs),
        ("max_value_len", .ofNat s.url.valueBytes)]),
      some (.object [("block_invalid", .bool s.query.blockInvalid),
        ("placeholder_prefix", .text s.query.placeholder)]),
      some (.object [("level", .text s.log.level), ("json", .bool s.log.json)])] := rfl
  rw [ofJson?, hmembers]
  simp only [withDefault, hsync, hurl]
  rfl

theorem legible_toJson (h : s.InWords) (depth : Nat) : Legible (depth + 2) s.toJson := by
  have hnumber {n : Nat} (hn : n ≤ numberLimit) : Legible depth (.ofNat n) := by
    unfold numberLimit at hn
    exact .integer depth ⟨by omega, by omega⟩
  have hpair {key key' : String} {j j' : Json} (hj : Legible depth j) (hj' : Legible depth j') :
      Legible (depth + 1) (.object [(key, j), (key', j')]) := by
    refine .object fun f hf => ?_
    simp only [List.mem_cons, List.not_mem_nil, or_false] at hf
    rcases hf with rfl | rfl
    · exact hj
    · exact hj'
  refine .object fun f hf => ?_
  simp only [List.mem_cons, List.not_mem_nil, or_false] at hf
  rcases hf with rfl | rfl | rfl | rfl
  · exact hpair (hnumber h.debounce) (hnumber h.historyLimit)
  · exact hpair (hnumber h.maxPairs) (hnumber h.maxValueBytes)
  · exact hpair (.bool depth _) (.text depth _)
  · exact hpair (.text depth _) (.bool depth _)

theorem ofText?_toText (h : s.InWords) : (Json.ofText? s.toText).bind ofJson? = some s := by
  rw [toText, ofText?_pretty (legible_toJson h 125)]
  exact ofJson?_toJson h

theorem contains_of_read {content : String} (h : t.read path = .ok content) :
    t.contains path = true := by
  obtain ⟨node, hnode, -⟩ := bind_eq_ok h
  rw [FileTree.contains, hnode]
  rfl

theorem read_of_text (h : s.InWords) (hread : t.read path = .ok s.toText) : read t path = .ok s := by
  simp only [read, contains_of_read hread, hread, ofText?_toText h, if_true]

theorem read_of_missing (h : t.contains path = false) : read t path = .ok default := by
  rw [read, h]
  rfl

theorem load_eq_ok : load t env path = .ok s ↔
    ∃ before, read t path = .ok before ∧ override env before = .ok s ∧ s.validate = .ok () := by
  constructor
  · intro h
    obtain ⟨before, hbefore, h⟩ := bind_eq_ok h
    obtain ⟨after, hafter, h⟩ := bind_eq_ok h
    obtain ⟨⟨⟩, hvalid, h⟩ := bind_eq_ok h
    cases h
    exact ⟨before, hbefore, hafter, hvalid⟩
  · rintro ⟨before, hbefore, hafter, hvalid⟩
    simp only [load, hbefore, hafter, hvalid, bind, Except.bind]
    rfl

theorem load_of_text (hvalid : s.validate = .ok ()) (hread : t.read path = .ok s.toText)
    (henv : Silent env) : load t env path = .ok s :=
  load_eq_ok.mpr ⟨s, read_of_text (inWords_of_validate hvalid) hread, override_of_silent henv s, hvalid⟩

theorem save_cases (hvalid : s.validate = .ok ()) (t : FileTree) (path : String) :
    (∃ u, s.save t path = (.ok (), u) ∧ u.read path = .ok s.toText) ∨
      ∃ m u, s.save t path = (.error (.unwritable m), u) := by
  unfold save
  rw [hvalid]
  simp only
  cases hfolder : makeFolder t path with
  | error e => exact .inr ⟨_, _, rfl⟩
  | ok t' =>
    cases hreplace : t'.replace path s.toText with
    | mk result u =>
      cases result with
      | error e => exact .inr ⟨e.message, u, by simp only [hreplace]; rfl⟩
      | ok _ =>
        exact .inl ⟨u, by simp only [hreplace]; rfl, FileTree.read_replace hreplace⟩

theorem save_receives (hvalid : s.validate = .ok ()) (h : t.Receives path) (hname : Path.IsName path) :
    s.save t path = (.ok (), t.replaced path s.toText) := by
  have hfolder : makeFolder t path = .ok t := by
    rw [makeFolder, hname.parent?_eq]
    rfl
  simp only [save, hvalid, hfolder, h.replace_eq hname]
  rfl

end LinkedControls.Settings
