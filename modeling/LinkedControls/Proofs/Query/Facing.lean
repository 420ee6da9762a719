import LinkedControls.Proofs.Pattern.Averse
import LinkedControls.Proofs.Query.Masking
import Mathlib.Data.Bool.AllAny
import Mathlib.Data.List.Basic
import Mathlib.Data.List.Find

/-!
Patterns in masked queries. A pattern that needs a character other than a blank and matches no quote
finds nothing between quotes, and outside of them it finds the same in both of two twins.
-/

namespace LinkedControls

namespace Safety

open Pattern

theorem holds_congr {a a' : Place} (hbefore : a.before = a'.before) (hafter : a.after = a'.after)
    (t : Assertion) : t.holds a = t.holds a' := by
  cases t <;> simp only [Assertion.holds, hbefore, hafter]

structure Facing (a a' : Place) : Prop where
  before : a.before = a'.before
  twin : Twin Blanks false a.rest a'.rest

def Enclosed (a : Place) : Prop := ∃ u m, Blanks u ∧ a.rest = u ++ '\'' :: m

theorem Facing.after {a a' : Place} (h : Facing a a') : a.after = a'.after := by
  obtain ⟨offset, before, rest⟩ := a
  obtain ⟨offset', before', rest'⟩ := a'
  cases h.twin <;> rfl

theorem Facing.symm {a a' : Place} (h : Facing a a') : Facing a' a := ⟨h.before.symm, h.twin.symm⟩

theorem Facing.pass {a b a' : Place} {set : CharSet} (hset : set.holds '\'' = false)
    (hpass : a.pass set = some b) (h : Facing a a') : ∃ b', a'.pass set = some b' ∧ Facing b b' := by
  obtain ⟨offset, before, rest⟩ := a
  obtain ⟨offset', before', rest'⟩ := a'
  obtain ⟨rfl, htwin⟩ := h
  cases htwin with
  | nil => simp [Place.pass] at hpass
  | outside hc htwin =>
    simp only [Place.pass] at hpass ⊢
    split at hpass
    next hholds =>
      cases hpass
      exact ⟨_, if_pos hholds, rfl, htwin⟩
    · cases hpass
  | opening => simp [Place.pass, hset] at hpass

theorem Enclosed.pass {a b : Place} {set : CharSet} (hset : set.holds '\'' = false)
    (hpass : a.pass set = some b) (h : Enclosed a) : Enclosed b ∧ set.holds ' ' = true := by
  obtain ⟨offset, before, rest⟩ := a
  obtain ⟨u, m, hu, rfl⟩ := h
  cases u with
  | nil => simp [Place.pass, hset] at hpass
  | cons c u =>
    obtain ⟨rfl, hrest⟩ := List.forall_mem_cons.mp hu
    simp only [Place.pass, List.cons_append] at hpass
    split at hpass
    next hholds =>
      cases hpass
      exact ⟨⟨u, m, hrest, rfl⟩, hholds⟩
    · cases hpass

structure IsPlain (p : Pattern) : Prop where
  averse : p.Averse '\''
  needs : p.needs (fun set => !set.holds ' ') = true

section Plain

variable {p : Pattern} {a a' : Place}

theorem matchesAt_of_facing (hp : IsPlain p) (h : Facing a a') :
    p.matchesAt a = p.matchesAt a' := by
  refine matchesAt_congr (fun set hs a b a' hpass h => h.pass (hp.averse set hs) hpass)
    (fun set hs a b' a' hpass h => ?_) (fun t _ a a' h => holds_congr h.before h.after t) h
  obtain ⟨b, hb, hfacing⟩ := h.symm.pass (hp.averse set hs) hpass
  exact ⟨b, hb, hfacing.symm⟩

theorem matchesAt_of_enclosed (hp : IsPlain p) (h : Enclosed a) : p.matchesAt a = false := by
  rw [Bool.eq_false_iff, Ne, matchesAt_iff]
  rintro ⟨b, hb⟩
  have hstays := hb.stays (f := fun set => !set.holds ' ') (fun set hs a b hpass ha => ?_) h
  · rw [hp.needs] at hstays
    cases hstays.2
  · obtain ⟨hb, hholds⟩ := ha.pass (hp.averse set hs) hpass
    exact ⟨hb, by simp [hholds]⟩

end Plain

theorem enclosed_of_twin {m m' : List Char} (h : Twin Blanks true m m') :
    ∃ u r, Blanks u ∧ m = u ++ '\'' :: r := by
  generalize hb : true = b at h
  induction h with
  | nil => cases hb
  | outside => cases hb
  | opening => cases hb
  | closing => exact ⟨[], _, by simp [Blanks], rfl⟩
  | @content u _ _ _ hu _ _ ih =>
    obtain ⟨v, r, hv, rfl⟩ := ih rfl
    exact ⟨u ++ v, r, List.forall_mem_append.mpr ⟨hu, hv⟩, by rw [List.append_assoc]⟩

variable {β : Type} {f : Place → Option β}

theorem findSome?_enclosed (hf : ∀ a, Enclosed a → f a = none) {u v r : List Char} (hu : Blanks u)
    (hv : Blanks v) (offset : Nat) (before : Option Char) :
    ∃ offset' before', (Place.allFrom offset before (u ++ (v ++ '\'' :: r))).findSome? f =
      (Place.allFrom offset' before' (v ++ '\'' :: r)).findSome? f := by
  induction u generalizing offset before with
  | nil => exact ⟨offset, before, rfl⟩
  | cons c u ih =>
    obtain ⟨-, hrest⟩ := List.forall_mem_cons.mp hu
    obtain ⟨offset', before', h⟩ := ih hrest (offset + 1) (some c)
    refine ⟨offset', before', ?_⟩
    rw [List.cons_append, Place.allFrom, List.findSome?_cons, hf, h]
    exact ⟨c :: u ++ v, r, List.forall_mem_append.mpr ⟨hu, hv⟩, by simp⟩

theorem findSome?_places (hfacing : ∀ a a', Facing a a' → f a = f a')
    (henclosed : ∀ a, Enclosed a → f a = none) {inside : Bool} {m m' : List Char}
    (h : Twin Blanks inside m m') {before before' : Option Char}
    (hbefore : inside = false → before = before') (offset offset' : Nat) :
    (Place.allFrom offset before m).findSome? f = (Place.allFrom offset' before' m').findSome? f := by
  induction h generalizing before before' offset offset' with
  | nil =>
    obtain rfl := hbefore rfl
    have hhead := hfacing ⟨offset, before, []⟩ ⟨offset', before, []⟩ ⟨rfl, .nil⟩
    rw [Place.allFrom, Place.allFrom, List.findSome?_cons, List.findSome?_cons, hhead]
  | @outside c s t hc h ih =>
    obtain rfl := hbefore rfl
    have hhead := hfacing ⟨offset, before, c :: s⟩ ⟨offset', before, c :: t⟩ ⟨rfl, .outside hc h⟩
    rw [Place.allFrom, Place.allFrom, List.findSome?_cons, List.findSome?_cons, hhead,
      ih (fun _ => rfl) (offset + 1) (offset' + 1)]
  | @opening s t h ih =>
    obtain rfl := hbefore rfl
    have hhead := hfacing ⟨offset, before, '\'' :: s⟩ ⟨offset', before, '\'' :: t⟩ ⟨rfl, .opening h⟩
    rw [Place.allFrom, Place.allFrom, List.findSome?_cons, List.findSome?_cons, hhead,
      ih (fun _ => rfl) (offset + 1) (offset' + 1)]
  | @closing s t h ih =>
    have hhead (o : Nat) (b : Option Char) (r : List Char) : f ⟨o, b, '\'' :: r⟩ = none :=
      henclosed _ ⟨[], r, by simp [Blanks], rfl⟩
    rw [Place.allFrom, Place.allFrom, List.findSome?_cons, List.findSome?_cons, hhead, hhead]
    exact ih (fun _ => rfl) (offset + 1) (offset' + 1)
  | content hu hv h ih =>
    obtain ⟨w, r, hw, rfl⟩ := enclosed_of_twin h
    obtain ⟨w', r', hw', rfl⟩ := enclosed_of_twin h.symm
    obtain ⟨o, b, hs⟩ := findSome?_enclosed henclosed (r := r) hu hw offset before
    obtain ⟨o', b', ht⟩ := findSome?_enclosed henclosed (r := r') hv hw' offset' before'
    rw [hs, ht]
    exact ih (by simp) o o'

theorem isIn_eq_findSome? (p : Pattern) (m : List Char) :
    p.isIn m = ((Place.all m).findSome? fun a => if p.matchesAt a then some () else none).isSome := by
  rw [Bool.eq_iff_iff, isIn_iff, List.findSome?_isSome_iff]
  refine exists_congr fun a => and_congr_right fun _ => ?_
  rw [← matchesAt_iff]
  cases p.matchesAt a <;> simp

theorem isIn_of_twin {p : Pattern} (hp : IsPlain p) {m m' : List Char}
    (h : Twin Blanks false m m') : p.isIn m = p.isIn m' := by
  rw [isIn_eq_findSome?, isIn_eq_findSome?, Place.all, Place.all]
  rw [findSome?_places (fun a a' hf => ?_) (fun a ha => ?_) h (fun _ => rfl) 0 0]
  · rw [matchesAt_of_facing hp hf]
  · rw [matchesAt_of_enclosed hp ha]
    rfl

theorem folded_free : ∀ s ∈ Text.Table.folded, s.span.covers '\''.toNat = false := by decide +kernel

theorem averse_quote_word {s : String} (h : ∀ c ∈ s.toList, Text.foldCase c ≠ '\'') :
    (word s).Averse '\'' :=
  averse_word (by decide) folded_free h

theorem averse_keyword : ∀ s ∈ ["select", "from", "union", "all", "distinct", "limit", "top", "fetch",
    "first"] ++ mutations, (word s).Averse '\'' := by
  have hkeywords : ∀ s ∈ ["select", "from", "union", "all", "distinct", "limit", "top", "fetch",
      "first"] ++ mutations, s.toList.all (fun c => Text.foldCase c ≠ '\'') := by decide
  exact fun s hs => averse_quote_word (List.all_iff_forall_prop.mp (hkeywords s hs))

theorem averse_blanks : blanks.Averse '\'' := by
  rw [blanks, averse_star, averse_one]
  decide

theorem averse_gap : gap.Averse '\'' := by
  rw [gap, averse_plus, averse_one]
  decide

theorem averse_digits : digits.Averse '\'' := by
  rw [digits, averse_plus, averse_one]
  decide

theorem isPlain_stacked : ∀ entry ∈ stackedMutations, IsPlain entry.2 := by
  intro entry he
  obtain ⟨keyword, hk, rfl⟩ := List.mem_map.mp he
  have hkeyword := averse_keyword keyword (List.mem_append_right _ hk)
  exact ⟨by simp [stacked, boundary, averse_blanks, hkeyword], rfl⟩

theorem isPlain_startsWithSelect : IsPlain startsWithSelect :=
  ⟨by simp [startsWithSelect, boundary, averse_blanks, averse_keyword], by decide +kernel⟩

theorem isPlain_hasFrom : IsPlain hasFrom :=
  ⟨by simp [hasFrom, boundary, averse_keyword], by decide +kernel⟩

theorem isPlain_unionSelect : IsPlain unionSelect :=
  ⟨by simp [unionSelect, boundary, averse_gap, averse_keyword], by decide +kernel⟩

theorem isPlain_selectStar : IsPlain selectStar :=
  ⟨by simp [selectStar, boundary, averse_gap, averse_keyword], by decide +kernel⟩

theorem isPlain_rowLimit : IsPlain rowLimit :=
  ⟨by simp [rowLimit, boundary, averse_blanks, averse_gap, averse_digits, averse_keyword],
    by decide +kernel⟩

theorem stackedMutation?_of_twin {m m' : List Char} (h : Twin Blanks false m m') :
    stackedMutation? m = stackedMutation? m' := by
  rw [stackedMutation?, stackedMutation?, Place.all, Place.all]
  rw [findSome?_places (fun a a' hf => ?_) (fun a ha => ?_) h (fun _ => rfl) 0 0]
  · rw [List.find?_congr fun entry he => matchesAt_of_facing (isPlain_stacked entry he) hf]
  · rw [List.find?_eq_none.mpr fun entry he => ?_]
    · rfl
    · simp [matchesAt_of_enclosed (isPlain_stacked entry he) ha]

theorem contains_commentMark {m m' : List Char} (h : Twin Blanks false m m') :
    ∀ mark ∈ commentMarks, Text.contains mark.toList m = Text.contains mark.toList m' := by
  have hmarks : ∀ mark ∈ commentMarks, mark.toList ≠ [] ∧ mark.toList.head? ≠ some ' ' ∧
      '\'' ∉ mark.toList := by decide
  intro mark hmark
  obtain ⟨hne, hblank, hquote⟩ := hmarks mark hmark
  obtain ⟨d, rest, hd⟩ := List.exists_cons_of_ne_nil hne
  rw [hd] at hblank hquote ⊢
  exact contains_of_twin (by simpa using hblank) hquote h

theorem shapeErrors_of_twin {m m' : List Char} (h : Twin Blanks false m m') :
    shapeErrors m = shapeErrors m' := by
  have hmarks : (commentMarks.flatMap fun mark =>
        when (Text.contains mark.toList m) ("Comment delimiter '" ++ mark ++ "' is not allowed")) =
      commentMarks.flatMap fun mark =>
        when (Text.contains mark.toList m') ("Comment delimiter '" ++ mark ++ "' is not allowed") :=
    List.flatMap_congr fun mark hmark => by rw [contains_commentMark h mark hmark]
  rw [shapeErrors, shapeErrors, isIn_of_twin isPlain_hasFrom h, isIn_of_twin isPlain_unionSelect h,
    stackedMutation?_of_twin h, isBalanced, isBalanced, balancedFrom_of_twin h, hmarks]

theorem shapeWarnings_of_twin {m m' : List Char} (h : Twin Blanks false m m') :
    shapeWarnings m = shapeWarnings m' := by
  rw [shapeWarnings, shapeWarnings, isIn_of_twin isPlain_selectStar h,
    isIn_of_twin isPlain_rowLimit h]

theorem startErrors_of_twin {s t m m' : List Char} (hst : Twin Content false s t)
    (h : Twin Blanks false m m') : startErrors s m = startErrors t m' := by
  rw [startErrors, startErrors, all_isBlank_of_twin hst, isIn_of_twin isPlain_startsWithSelect h]

def isInjectionError (message : String) : Bool :=
  "Injection pattern detected".toList.isPrefixOf message.toList

theorem isInjectionError_append (label : String) :
    isInjectionError ("Injection pattern detected: " ++ label) = true := by
  have hlead : "Injection pattern detected: ".toList =
      "Injection pattern detected".toList ++ [':', ' '] := by decide
  rw [isInjectionError, List.isPrefixOf_iff_prefix, String.toList_append, hlead, List.append_assoc]
  exact List.prefix_append _ _

theorem mem_when {condition : Bool} {message x : String} :
    x ∈ when condition message ↔ condition = true ∧ x = message := by
  cases condition <;> simp [when]

theorem isInjectionError_of_mem {sql : List Char} {message : String}
    (h : message ∈ injectionErrors sql) : isInjectionError message = true := by
  obtain ⟨⟨pattern, label⟩, -, hmessage⟩ := List.mem_flatMap.mp h
  rw [(mem_when.mp hmessage).2]
  exact isInjectionError_append label

theorem filter_injectionErrors (sql : List Char) :
    (injectionErrors sql).filter (!isInjectionError ·) = [] :=
  List.filter_eq_nil_iff.mpr fun message h => by simp [isInjectionError_of_mem h]

theorem check_of_twin {s t : List Char} (h : Twin Content false s t) :
    (check s).warnings = (check t).warnings ∧
      (check s).errors.filter (!isInjectionError ·) =
        (check t).errors.filter (!isInjectionError ·) := by
  obtain ⟨m, m', hs, ht, hm⟩ := h.maskFrom
  have hmask : mask s = some m := hs
  have hmask' : mask t = some m' := ht
  simp only [check, hmask, hmask', Option.getD_some, Option.isNone_some, List.filter_append,
    filter_injectionErrors, startErrors_of_twin h hm, shapeErrors_of_twin hm,
    shapeWarnings_of_twin hm, and_self]

end Safety

end LinkedControls
