import LinkedControls.Query.Safety

/-!
Two queries that have the same text outside of quotes, whatever stands between the quotes. Masking leaves
only blanks there, so that brackets and marks are found in the one where they are found in the other.
-/

namespace LinkedControls.Safety

open Text

-- between the quotes of a literal, further quotes come in pairs
inductive Content : List Char → Prop
  | nil : Content []
  | char {c : Char} {s : List Char} : c ≠ '\'' → Content s → Content (c :: s)
  | pair {s : List Char} : Content s → Content ('\'' :: '\'' :: s)

def Blanks (s : List Char) : Prop := ∀ c ∈ s, c = ' '

def blanked (s : List Char) : List Char := List.replicate (byteLength s) ' '

theorem blanks_blanked (s : List Char) : Blanks (blanked s) := fun _ hc => (List.mem_replicate.mp hc).2

theorem blanked_cons (c : Char) (s : List Char) :
    blanked (c :: s) = List.replicate c.utf8Size ' ' ++ blanked s :=
  List.replicate_append_replicate.symm

-- the first argument tells whether the texts begin inside of quotes
inductive Twin (Inner : List Char → Prop) : Bool → List Char → List Char → Prop
  | nil : Twin Inner false [] []
  | outside {c : Char} {s t : List Char} :
      c ≠ '\'' → Twin Inner false s t → Twin Inner false (c :: s) (c :: t)
  | opening {s t : List Char} : Twin Inner true s t → Twin Inner false ('\'' :: s) ('\'' :: t)
  | closing {s t : List Char} : Twin Inner false s t → Twin Inner true ('\'' :: s) ('\'' :: t)
  | content {u v s t : List Char} :
      Inner u → Inner v → Twin Inner true s t → Twin Inner true (u ++ s) (v ++ t)

theorem Twin.symm {Inner : List Char → Prop} {inside : Bool} {s t : List Char}
    (h : Twin Inner inside s t) : Twin Inner inside t s := by
  induction h with
  | nil => exact .nil
  | outside hc _ ih => exact .outside hc ih
  | opening _ ih => exact .opening ih
  | closing _ ih => exact .closing ih
  | content hu hv _ ih => exact .content hv hu ih

theorem maskFrom_outside {c : Char} (hc : c ≠ '\'') (s : List Char) :
    maskFrom false (c :: s) = (maskFrom false s).map (c :: ·) := by
  simp [maskFrom, hc]

theorem maskFrom_inside {c : Char} (hc : c ≠ '\'') (s : List Char) :
    maskFrom true (c :: s) = (maskFrom true s).map (List.replicate c.utf8Size ' ' ++ ·) := by
  rw [maskFrom]
  · simp [hc]
  · rintro rest - he -
    exact hc he

theorem maskFrom_open (s : List Char) :
    maskFrom false ('\'' :: s) = (maskFrom true s).map ('\'' :: ·) := by
  simp [maskFrom]

theorem maskFrom_pair (s : List Char) :
    maskFrom true ('\'' :: '\'' :: s) = (maskFrom true s).map fun m => ' ' :: ' ' :: m := by
  simp [maskFrom]

theorem maskFrom_close {s : List Char} (h : s.head? ≠ some '\'') :
    maskFrom true ('\'' :: s) = (maskFrom false s).map ('\'' :: ·) := by
  rw [maskFrom]
  · simp
  · rintro rest - - rfl
    exact h rfl

theorem maskFrom_content {u : List Char} (hu : Content u) (s : List Char) :
    maskFrom true (u ++ s) = (maskFrom true s).map (blanked u ++ ·) := by
  induction hu with
  | nil => exact Option.map_id'.symm
  | char hc _ ih =>
    rw [List.cons_append, maskFrom_inside hc, ih, Option.map_map, blanked_cons]
    simp only [Function.comp_def, List.append_assoc]
  | pair _ ih =>
    rw [List.cons_append, List.cons_append, maskFrom_pair, ih, Option.map_map, blanked_cons,
      blanked_cons]
    rfl

-- a quote that closes right before one that opens is masked as part of the literal
theorem Twin.maskFrom {inside : Bool} {s t : List Char} (h : Twin Content inside s t) :
    ∃ m m', Safety.maskFrom inside s = some m ∧ Safety.maskFrom inside t = some m' ∧
      Twin Blanks inside m m' := by
  induction h with
  | nil => exact ⟨[], [], rfl, rfl, .nil⟩
  | outside hc _ ih =>
    obtain ⟨m, m', hs, ht, hm⟩ := ih
    exact ⟨_, _, by rw [maskFrom_outside hc, hs]; rfl, by rw [maskFrom_outside hc, ht]; rfl,
      .outside hc hm⟩
  | content hu hv _ ih =>
    obtain ⟨m, m', hs, ht, hm⟩ := ih
    exact ⟨_, _, by rw [maskFrom_content hu, hs]; rfl, by rw [maskFrom_content hv, ht]; rfl,
      .content (blanks_blanked _) (blanks_blanked _) hm⟩
  | opening _ ih =>
    obtain ⟨m, m', hs, ht, hm⟩ := ih
    exact ⟨_, _, by rw [maskFrom_open, hs]; rfl, by rw [maskFrom_open, ht]; rfl, .opening hm⟩
  | closing h ih =>
    obtain ⟨m, m', hs, ht, hm⟩ := ih
    cases h with
    | nil =>
      exact ⟨_, _, by rw [maskFrom_close (by simp), hs]; rfl,
        by rw [maskFrom_close (by simp), ht]; rfl, .closing hm⟩
    | outside hc h =>
      exact ⟨_, _, by rw [maskFrom_close (by simpa using hc), hs]; rfl,
        by rw [maskFrom_close (by simpa using hc), ht]; rfl, .closing hm⟩
    | opening h =>
      rw [maskFrom_open] at hs ht
      obtain ⟨m₁, hs', rfl⟩ := Option.map_eq_some_iff.mp hs
      obtain ⟨m₂, ht', rfl⟩ := Option.map_eq_some_iff.mp ht
      have hpair : Blanks [' ', ' '] := by simp [Blanks]
      cases hm with
      | outside hc => exact absurd rfl hc
      | opening hm =>
        exact ⟨_, _, by rw [maskFrom_pair, hs']; rfl, by rw [maskFrom_pair, ht']; rfl,
          .content hpair hpair hm⟩

variable {inside : Bool} {m m' : List Char}

theorem quote_mem_of_twin {Inner : List Char → Prop} {s t : List Char} (h : Twin Inner true s t) :
    '\'' ∈ s ∧ '\'' ∈ t := by
  generalize hb : true = b at h
  induction h with
  | nil => cases hb
  | outside => cases hb
  | opening => cases hb
  | closing => exact ⟨List.mem_cons_self, List.mem_cons_self⟩
  | content _ _ _ ih =>
    obtain ⟨hs, ht⟩ := ih rfl
    exact ⟨List.mem_append_right _ hs, List.mem_append_right _ ht⟩

theorem all_isBlank_eq_false {s : List Char} (h : '\'' ∈ s) : s.all isBlank = false :=
  List.all_eq_false.mpr ⟨'\'', h, by decide⟩

theorem all_isBlank_of_twin {Inner : List Char → Prop} {s t : List Char}
    (h : Twin Inner inside s t) : s.all isBlank = t.all isBlank := by
  induction h with
  | nil => rfl
  | outside _ _ ih => rw [List.all_cons, List.all_cons, ih]
  | opening => rw [all_isBlank_eq_false List.mem_cons_self, all_isBlank_eq_false List.mem_cons_self]
  | closing => rw [all_isBlank_eq_false List.mem_cons_self, all_isBlank_eq_false List.mem_cons_self]
  | content _ _ h =>
    obtain ⟨hs, ht⟩ := quote_mem_of_twin h
    rw [all_isBlank_eq_false (List.mem_append_right _ hs),
      all_isBlank_eq_false (List.mem_append_right _ ht)]

theorem balancedFrom_blanks {u : List Char} (hu : Blanks u) (depth : Nat) (m : List Char) :
    balancedFrom depth (u ++ m) = balancedFrom depth m := by
  induction u with
  | nil => rfl
  | cons c u ih =>
    obtain ⟨rfl, hrest⟩ := List.forall_mem_cons.mp hu
    exact ih hrest

theorem balancedFrom_of_twin (h : Twin Blanks inside m m') (depth : Nat) :
    balancedFrom depth m = balancedFrom depth m' := by
  induction h generalizing depth with
  | nil => rfl
  | outside _ _ ih =>
    unfold balancedFrom
    split
    · exact ih _
    · split
      · cases depth with
        | zero => rfl
        | succ depth => exact ih depth
      · exact ih _
  | opening _ ih => exact ih depth
  | closing _ ih => exact ih depth
  | content hu hv _ ih => rw [balancedFrom_blanks hu, balancedFrom_blanks hv, ih]

variable {mark : List Char}

theorem isPrefixOf_of_twin (hmark : '\'' ∉ mark) (h : Twin Blanks false m m') :
    mark.isPrefixOf m = mark.isPrefixOf m' := by
  induction mark generalizing m m' with
  | nil => simp
  | cons d mark ih =>
    obtain ⟨hd, hmark⟩ := not_or.mp (mt List.mem_cons.mpr hmark)
    cases h with
    | nil => rfl
    | outside hc h => rw [List.isPrefixOf_cons_cons, List.isPrefixOf_cons_cons, ih hmark h]
    | opening =>
      have hne : (d == '\'') = false := by simpa using Ne.symm hd
      rw [List.isPrefixOf_cons_cons, List.isPrefixOf_cons_cons, hne, Bool.false_and, Bool.false_and]

theorem contains_cons_of_ne {c d : Char} (h : d ≠ c) (m : List Char) :
    contains (d :: mark) (c :: m) = contains (d :: mark) m := by
  simp [contains, h]

theorem contains_blanks {d : Char} (hd : d ≠ ' ') {u : List Char} (hu : Blanks u) (m : List Char) :
    contains (d :: mark) (u ++ m) = contains (d :: mark) m := by
  induction u with
  | nil => rfl
  | cons c u ih =>
    obtain ⟨rfl, hrest⟩ := List.forall_mem_cons.mp hu
    rw [List.cons_append, contains_cons_of_ne hd, ih hrest]

theorem contains_of_twin {d : Char} (hblank : d ≠ ' ') (hmark : '\'' ∉ d :: mark)
    (h : Twin Blanks inside m m') : contains (d :: mark) m = contains (d :: mark) m' := by
  have hquote : d ≠ '\'' := fun he => hmark (by simp [he])
  induction h with
  | nil => rfl
  | outside hc h ih =>
    rw [contains, contains, ih, isPrefixOf_of_twin hmark (.outside hc h)]
  | opening _ ih => rw [contains_cons_of_ne hquote, contains_cons_of_ne hquote, ih]
  | closing _ ih => rw [contains_cons_of_ne hquote, contains_cons_of_ne hquote, ih]
  | content hu hv _ ih => rw [contains_blanks hblank hu, contains_blanks hblank hv, ih]

end LinkedControls.Safety
