import Mathlib.Data.List.DropRight
import Mathlib.Data.Option.Basic
import LinkedControls.Json.Printer
import LinkedControls.Json.Reader
import LinkedControls.Proofs.Decimal.Digits

/-!
JSON text on several lines is read as the value that it was printed from, if the numbers in it are
integers of a machine word and its brackets do not nest too deep.
-/

namespace LinkedControls.Json

open Decimal

theorem unitValue?_hexDigit :
    ∀ n < 32, unitValue? '0' '0' (hexDigit (n / 16)) (hexDigit (n % 16)) = some n := by
  decide

theorem readQuoted_cons {c : Char} (hquote : c ≠ '"') (hslash : c ≠ '\\') (hc : 32 ≤ c.toNat)
    (rest : List Char) :
    readQuoted (c :: rest) = (readQuoted rest).map fun r => (c :: r.1, r.2) := by
  have hplain : (c.toNat < 32 || c == '\\') = false := by
    rw [Bool.or_eq_false_iff]
    exact ⟨decide_eq_false (Nat.not_lt.mpr hc), beq_eq_false_iff_ne.mpr hslash⟩
  rw [readQuoted.eq_def]
  split
  case h_1 heq => cases heq
  case h_2 heq => exact absurd (List.cons.inj heq).1 hquote
  case h_3 heq => exact absurd (List.cons.inj heq).1 hslash
  case h_4 heq => exact absurd (List.cons.inj heq).1 hslash
  case h_5 heq =>
    obtain ⟨rfl, rfl⟩ := List.cons.inj heq
    rw [hplain]
    rfl

theorem readQuoted_escape {e c : Char} (he : e ≠ 'u') (hc : unescape? e = some c)
    (rest : List Char) :
    readQuoted ('\\' :: e :: rest) = (readQuoted rest).map fun r => (c :: r.1, r.2) := by
  rw [readQuoted.eq_def]
  split
  case h_5 _ _ _ hnone heq =>
    obtain ⟨rfl, rfl⟩ := List.cons.inj heq
    exact absurd rfl (hnone e rest rfl)
  all_goals simp_all

theorem readQuoted_unit {a b c d : Char} {n : Nat} (hn : unitValue? a b c d = some n)
    (hlow : n < 0xD800) (rest : List Char) :
    readQuoted ('\\' :: 'u' :: a :: b :: c :: d :: rest) =
      (readQuoted rest).map fun r => (Char.ofNat n :: r.1, r.2) := by
  have hhigh : isHighSurrogate n = false := by simp [isHighSurrogate]; omega
  have hlow : isLowSurrogate n = false := by simp [isLowSurrogate]; omega
  rw [readQuoted.eq_def]
  simp [hn, hhigh, hlow]

theorem readQuoted_escapeCharacter (c : Char) (rest : List Char) :
    readQuoted (escapeCharacter c ++ rest) = (readQuoted rest).map fun r => (c :: r.1, r.2) := by
  have hnat : ∀ n, c.toNat = n → Char.ofNat n = c := fun n hn => hn ▸ Char.ofNat_toNat c
  unfold escapeCharacter
  split
  next h => exact readQuoted_escape (by decide) (by rw [h]; rfl) rest
  next hquote =>
  split
  next h => exact readQuoted_escape (by decide) (by rw [h]; rfl) rest
  next hslash =>
  split
  next h => exact readQuoted_escape (by decide) (h ▸ rfl) rest
  split
  next h => exact readQuoted_escape (by decide) (h ▸ rfl) rest
  split
  next h => exact readQuoted_escape (by decide) (h ▸ rfl) rest
  split
  next h => exact readQuoted_escape (by decide) (hnat 8 h ▸ rfl) rest
  split
  next h => exact readQuoted_escape (by decide) (hnat 12 h ▸ rfl) rest
  split
  next h =>
    have hread := readQuoted_unit (unitValue?_hexDigit c.toNat h) (by omega) rest
    rwa [Char.ofNat_toNat] at hread
  next h => exact readQuoted_cons hquote hslash (by omega) rest

theorem readQuoted_flatMap (cs rest : List Char) :
    readQuoted (cs.flatMap escapeCharacter ++ '"' :: rest) = some (cs, rest) := by
  induction cs with
  | nil => simp [readQuoted]
  | cons c cs ih =>
    rw [List.flatMap_cons, List.append_assoc, readQuoted_escapeCharacter, ih]
    rfl

theorem toList_quote (s : String) :
    (quote s).toList = '"' :: (s.toList.flatMap escapeCharacter ++ ['"']) := String.toList_ofList

theorem readText_quote (s : String) (rest : List Char) :
    ∃ inner, (quote s).toList ++ rest = '"' :: inner ∧ readText inner = some (s, rest) := by
  refine ⟨s.toList.flatMap escapeCharacter ++ '"' :: rest, by simp [toList_quote], ?_⟩
  rw [readText, readQuoted_flatMap]
  simp

def IsWord (n : Int) : Prop := -0x8000000000000000 ≤ n ∧ n ≤ 0xFFFFFFFFFFFFFFFF

/-- What follows a number does not prolong it. -/
def Ends (rest : List Char) : Prop :=
  ∀ c ∈ rest.head?, isDigit c = false ∧ c ≠ '.' ∧ c ≠ 'e' ∧ c ≠ 'E'

theorem ends_nil : Ends [] := fun _ hc => by cases hc

theorem ends_cons {c : Char} {rest : List Char}
    (h : isDigit c = false ∧ c ≠ '.' ∧ c ≠ 'e' ∧ c ≠ 'E') : Ends (c :: rest) := by
  intro d hd
  cases hd
  exact h

theorem le_foldl_digits (ds : List Char) (n : Nat) :
    n ≤ ds.foldl (fun n c => n * 10 + digitValue c) n := by
  induction ds generalizing n with
  | nil => exact Nat.le_refl n
  | cons c ds ih =>
    have hstep : n ≤ n * 10 + digitValue c := by omega
    exact Nat.le_trans hstep (ih _)

theorem appendDigits_eq {ds : List Char} {n : Nat}
    (h : ds.foldl (fun n c => n * 10 + digitValue c) n ≤ wordMax) :
    appendDigits n ds = (ds.foldl (fun n c => n * 10 + digitValue c) n, 0) := by
  induction ds generalizing n with
  | nil => rfl
  | cons c ds ih =>
    have hnext : n * 10 + digitValue c ≤ wordMax := Nat.le_trans (le_foldl_digits ds _) h
    rw [appendDigits, if_pos hnext]
    exact ih h

theorem appendDigits_repr {n : Nat} (h : n ≤ wordMax) :
    appendDigits 0 (Nat.repr n).toList = (n, 0) := by
  have hvalue := digitsValue_repr n
  rw [digitsValue] at hvalue
  rw [appendDigits_eq (by rw [hvalue]; exact h), hvalue]

theorem repr_has_no_leading_zero (n : Nat) :
    (!(Nat.repr n).toList.isEmpty &&
      ((Nat.repr n).toList.length == 1 || (Nat.repr n).toList.head? != some '0')) = true := by
  rw [Nat.toList_repr]
  by_cases h : n = 0
  · subst h
    rfl
  · simp [head?_toDigits h]

theorem repr_eq_cons (n : Nat) :
    ∃ c tail, isDigit c = true ∧ (Nat.repr n).toList = c :: tail := by
  have hne : (Nat.repr n).toList ≠ [] := by
    rw [Nat.toList_repr]
    exact Nat.toDigits_ne_nil
  obtain ⟨c, tail, htext⟩ := List.exists_cons_of_ne_nil hne
  have hc : c ∈ (Nat.repr n).toList := htext ▸ List.mem_cons_self
  exact ⟨c, tail, isDigit_of_mem_repr hc, htext⟩

theorem toText_negSucc (n : Nat) :
    (Number.integer (.negSucc n)).toText.toList = '-' :: (Nat.repr (n + 1)).toList := by
  simp [Number.toText, toString, Int.repr]

theorem toText_integer (n : Int) :
    ∃ c tail, (isDigit c = true ∨ c = '-') ∧ (Number.integer n).toText.toList = c :: tail := by
  cases n with
  | ofNat n =>
    obtain ⟨c, tail, hc, htext⟩ := repr_eq_cons n
    exact ⟨c, tail, .inl hc, htext⟩
  | negSucc n => exact ⟨'-', _, .inr rfl, toText_negSucc n⟩

theorem readFraction_of_ends {rest : List Char} (h : Ends rest) :
    readFraction rest = some (none, rest) := by
  unfold readFraction
  split
  next => exact absurd rfl (h '.' rfl).2.1
  next => rfl

theorem readExponent_of_ends {rest : List Char} (h : Ends rest) :
    readExponent rest = some (none, rest) := by
  cases rest with
  | nil => rfl
  | cons c rest =>
    obtain ⟨-, -, he, hE⟩ := h c rfl
    simp [readExponent, he, hE]

theorem readNumber_repr {n : Nat} (hn : n ≤ wordMax) {rest : List Char} (h : Ends rest) :
    readNumber ((Nat.repr n).toList ++ rest) = some (.integer n, rest) := by
  have hdigits : AllDigits (Nat.repr n).toList := fun _ => isDigit_of_mem_repr
  have hends : ∀ c ∈ rest.head?, isDigit c = false := fun c hc => (h c hc).1
  have hsign : ∀ s, (Nat.repr n).toList ++ rest = '-' :: s → False := by
    intro s hs
    obtain ⟨c, tail, hc, htext⟩ := repr_eq_cons n
    rw [htext] at hs
    obtain ⟨rfl, -⟩ := List.cons.inj hs
    cases hc
  unfold readNumber
  simp only
  rw [Text.takeWhile_append_of_head hdigits hends, Text.dropWhile_append_of_head hdigits hends,
    readFraction_of_ends h, repr_has_no_leading_zero, appendDigits_repr hn]
  simp [readExponent_of_ends h]

theorem readNumber_negative {n : Nat} (hpos : n ≠ 0) (hn : n ≤ 0x8000000000000000) {rest : List Char}
    (h : Ends rest) :
    readNumber ('-' :: ((Nat.repr n).toList ++ rest)) = some (.integer (-n), rest) := by
  have hdigits : AllDigits (Nat.repr n).toList := fun _ => isDigit_of_mem_repr
  have hends : ∀ c ∈ rest.head?, isDigit c = false := fun c hc => (h c hc).1
  have hword : n ≤ wordMax := by unfold wordMax; omega
  unfold readNumber
  simp only
  rw [Text.takeWhile_append_of_head hdigits hends, Text.dropWhile_append_of_head hdigits hends,
    readFraction_of_ends h, repr_has_no_leading_zero, appendDigits_repr hword]
  simp [readExponent_of_ends h, hpos, hn]

theorem readNumber_toText {n : Int} (hn : IsWord n) {rest : List Char} (h : Ends rest) :
    readNumber ((Number.integer n).toText.toList ++ rest) = some (.integer n, rest) := by
  cases n with
  | ofNat n => exact readNumber_repr (by have := hn.2; unfold wordMax; simp at this; omega) h
  | negSucc n =>
    have hnat : n + 1 ≤ 0x8000000000000000 := by have := hn.1; omega
    rw [toText_negSucc, List.cons_append, readNumber_negative (Nat.succ_ne_zero n) hnat h]
    rfl

theorem skipSpace_cons {c : Char} (h : isSpace c = false) (s : List Char) :
    skipSpace (c :: s) = c :: s := List.dropWhile_cons_of_neg (by simp [h])

theorem skipSpace_newline (level : Nat) (s : List Char) :
    skipSpace ((newline level).toList ++ s) = skipSpace s := by
  have hspaces : ∀ c ∈ (newline level).toList, isSpace c = true := by
    intro c hc
    simp only [newline, String.toList_ofList, List.mem_cons] at hc
    obtain rfl | hc := hc
    · rfl
    · rw [List.eq_of_mem_replicate hc]
      rfl
  exact List.dropWhile_append_of_pos hspaces

theorem skipSpace_skipSpace (s : List Char) : skipSpace (skipSpace s) = skipSpace s :=
  List.dropWhile_idempotent _ _

theorem readValue_congr {s t : List Char} (h : skipSpace s = skipSpace t) (fuel depth : Nat) :
    readValue fuel depth s = readValue fuel depth t := by
  cases fuel with
  | zero => simp only [readValue]
  | succ fuel => simp only [readValue, h]

theorem readItems_congr {s t : List Char} (h : skipSpace s = skipSpace t) (fuel depth : Nat) :
    readItems fuel depth s = readItems fuel depth t := by
  cases fuel with
  | zero => simp only [readItems]
  | succ fuel => simp only [readItems, readValue_congr h]

theorem readFields_congr {s t : List Char} (h : skipSpace s = skipSpace t) (fuel depth : Nat) :
    readFields fuel depth s = readFields fuel depth t := by
  cases fuel with
  | zero => simp only [readFields]
  | succ fuel => simp only [readFields, h]

variable {fuel depth : Nat}

theorem readValue_closing {s rest : List Char} (h : skipSpace s = ']' :: rest) :
    readValue fuel depth s = none := by
  cases fuel with
  | zero => simp only [readValue]
  | succ fuel =>
    simp only [readValue, h]
    rfl

theorem readFields_closing {s rest : List Char} (h : skipSpace s = '\x7d' :: rest) :
    readFields fuel depth s = none := by
  cases fuel with
  | zero => simp only [readFields]
  | succ fuel =>
    simp only [readFields, h]
    rfl

theorem readValue_items {s rest : List Char} {items : List Json}
    (h : readItems fuel depth s = some (items, rest)) :
    readValue (fuel + 1) (depth + 1) ('[' :: s) = some (.array items, rest) := by
  -- a bracket that closes is the beginning of no item, so the reader does not take `s` for empty
  have hopen : ∀ r, skipSpace s = ']' :: r → False := by
    intro r hr
    cases fuel with
    | zero => simp only [readItems, reduceCtorEq] at h
    | succ fuel =>
      rw [readItems, readValue_closing hr] at h
      cases h
  have hitems : readItems fuel depth (skipSpace s) = some (items, rest) :=
    (readItems_congr (skipSpace_skipSpace s) fuel depth).trans h
  rw [readValue, skipSpace_cons rfl]
  simp [hitems]

theorem readValue_fields {s rest : List Char} {fields : List (String × Json)}
    (h : readFields fuel depth s = some (fields, rest)) :
    readValue (fuel + 1) (depth + 1) ('\x7b' :: s) = some (.object fields, rest) := by
  have hopen : ∀ r, skipSpace s = '\x7d' :: r → False := by
    intro r hr
    rw [readFields_closing hr] at h
    cases h
  have hfields : readFields fuel depth (skipSpace s) = some (fields, rest) :=
    (readFields_congr (skipSpace_skipSpace s) fuel depth).trans h
  rw [readValue, skipSpace_cons rfl]
  simp [hfields]

/-- A value whose numbers are integers of a machine word and that stands for at most `depth` brackets
inside each other. -/
inductive Legible : Nat → Json → Prop
  | null (depth : Nat) : Legible depth .null
  | bool (depth : Nat) (b : Bool) : Legible depth (.bool b)
  | integer (depth : Nat) {n : Int} (h : IsWord n) : Legible depth (.number (.integer n))
  | text (depth : Nat) (s : String) : Legible depth (.text s)
  | array {depth : Nat} {items : List Json} (h : ∀ j ∈ items, Legible depth j) :
      Legible (depth + 1) (.array items)
  | object {depth : Nat} {fields : List (String × Json)} (h : ∀ f ∈ fields, Legible depth f.2) :
      Legible (depth + 1) (.object fields)

def ReadsBack (depth : Nat) (j : Json) : Prop :=
  ∀ (level fuel : Nat) (rest : List Char), (prettyAt level j).toList.length ≤ fuel → Ends rest →
    readValue (fuel + 1) depth ((prettyAt level j).toList ++ rest) = some (j, rest)

theorem ends_comma (s : List Char) : Ends (',' :: s) := ends_cons (by decide)

theorem ends_newline (level : Nat) (s : List Char) : Ends ((newline level).toList ++ s) := by
  rw [newline, String.toList_ofList]
  exact ends_cons (by decide)

theorem newline_length (level : Nat) : (newline level).toList.length = 2 * level + 1 := by
  simp [newline]

theorem ReadsBack.on_line {j : Json} (h : ReadsBack depth j) {level : Nat}
    (hfuel : (prettyAt level j).toList.length ≤ fuel) {rest : List Char} (hrest : Ends rest) :
    readValue (fuel + 1) depth ((newline level).toList ++ ((prettyAt level j).toList ++ rest)) =
      some (j, rest) :=
  (readValue_congr (skipSpace_newline level _) _ depth).trans (h level fuel rest hfuel hrest)

theorem readItems_last {s r rest : List Char} {j : Json} (hj : readValue fuel depth s = some (j, r))
    (hr : skipSpace r = ']' :: rest) : readItems (fuel + 1) depth s = some ([j], rest) := by
  rw [readItems, hj]
  simp [hr]

theorem readItems_more {s r t rest : List Char} {j : Json} {items : List Json}
    (hj : readValue fuel depth s = some (j, r)) (hr : skipSpace r = ',' :: t)
    (ht : readItems fuel depth t = some (items, rest)) :
    readItems (fuel + 1) depth s = some (j :: items, rest) := by
  rw [readItems, hj]
  simp [hr, ht]

theorem readItems_prettyItems {items : List Json} (hne : items ≠ [])
    (h : ∀ j ∈ items, ReadsBack depth j) (level close : Nat) (rest : List Char)
    (hfuel : (prettyItems level items).toList.length ≤ fuel) :
    readItems (fuel + 1) depth ((prettyItems level items).toList ++
      ((newline close).toList ++ ']' :: rest)) = some (items, rest) := by
  induction items generalizing fuel with
  | nil => exact absurd rfl hne
  | cons j items ih =>
    have hj := h j List.mem_cons_self
    have hclose : skipSpace ((newline close).toList ++ ']' :: rest) = ']' :: rest := by
      rw [skipSpace_newline, skipSpace_cons rfl]
    cases items with
    | nil =>
      simp only [prettyItems, String.toList_append, List.append_assoc, List.length_append,
        newline_length] at hfuel ⊢
      obtain ⟨fuel, rfl⟩ : ∃ f, fuel = f + 1 := ⟨fuel - 1, by omega⟩
      exact readItems_last (hj.on_line (by omega) (ends_newline _ _)) hclose
    | cons k items =>
      have hmore := fun f => @ih f (List.cons_ne_nil _ _)
        fun i hi => h i (List.mem_cons_of_mem _ hi)
      simp only [prettyItems, String.toList_append, List.append_assoc, List.length_append,
        newline_length] at hfuel hmore ⊢
      obtain ⟨fuel, rfl⟩ : ∃ f, fuel = f + 1 := ⟨fuel - 1, by omega⟩
      exact readItems_more (hj.on_line (by omega) (ends_comma _)) (skipSpace_cons rfl _)
        (hmore fuel (by omega))

theorem readFields_last {s r rest : List Char} {key : String} {j : Json} {inner t : List Char}
    (hs : skipSpace s = '"' :: inner) (hkey : readText inner = some (key, ':' :: t))
    (hj : readValue fuel depth t = some (j, r)) (hr : skipSpace r = '\x7d' :: rest) :
    readFields (fuel + 1) depth s = some ([(key, j)], rest) := by
  have hcolon : skipSpace (':' :: t) = ':' :: t := skipSpace_cons rfl t
  rw [readFields, hs]
  simp [hkey, hcolon, hj, hr]

theorem readFields_more {s r rest : List Char} {key : String} {j : Json} {inner t u : List Char}
    {fields : List (String × Json)}
    (hs : skipSpace s = '"' :: inner) (hkey : readText inner = some (key, ':' :: t))
    (hj : readValue fuel depth t = some (j, r)) (hr : skipSpace r = ',' :: u)
    (hu : readFields fuel depth u = some (fields, rest)) :
    readFields (fuel + 1) depth s = some ((key, j) :: fields, rest) := by
  have hcolon : skipSpace (':' :: t) = ':' :: t := skipSpace_cons rfl t
  rw [readFields, hs]
  simp [hkey, hcolon, hj, hr, hu]

theorem key_on_line (level : Nat) (key : String) (s : List Char) :
    ∃ inner, skipSpace ((newline level).toList ++ ((quote key).toList ++ s)) = '"' :: inner ∧
      readText inner = some (key, s) := by
  obtain ⟨inner, htext, hread⟩ := readText_quote key s
  exact ⟨inner, by rw [skipSpace_newline, htext, skipSpace_cons rfl], hread⟩

theorem ReadsBack.after_colon {j : Json} (h : ReadsBack depth j) {level : Nat}
    (hfuel : (prettyAt level j).toList.length ≤ fuel) {rest : List Char} (hrest : Ends rest) :
    readValue (fuel + 1) depth (' ' :: ((prettyAt level j).toList ++ rest)) = some (j, rest) :=
  (readValue_congr (List.dropWhile_cons_of_pos rfl) _ depth).trans
    (h level fuel rest hfuel hrest)

theorem readFields_prettyFields {fields : List (String × Json)} (hne : fields ≠ [])
    (h : ∀ f ∈ fields, ReadsBack depth f.2) (level close : Nat) (rest : List Char)
    (hfuel : (prettyFields level fields).toList.length ≤ fuel) :
    readFields (fuel + 1) depth ((prettyFields level fields).toList ++
      ((newline close).toList ++ '\x7d' :: rest)) = some (fields, rest) := by
  induction fields generalizing fuel with
  | nil => exact absurd rfl hne
  | cons f fields ih =>
    obtain ⟨key, j⟩ := f
    have hj : ReadsBack depth j := h (key, j) List.mem_cons_self
    have hclose : skipSpace ((newline close).toList ++ '\x7d' :: rest) = '\x7d' :: rest := by
      rw [skipSpace_newline, skipSpace_cons rfl]
    cases fields with
    | nil =>
      simp only [prettyFields, String.toList_append, List.append_assoc, List.length_append,
        newline_length] at hfuel ⊢
      obtain ⟨fuel, rfl⟩ : ∃ f, fuel = f + 1 := ⟨fuel - 1, by omega⟩
      obtain ⟨inner, hs, hkey⟩ := key_on_line level key _
      exact readFields_last hs hkey (hj.after_colon (by omega) (ends_newline _ _)) hclose
    | cons f fields =>
      have hmore := fun f => @ih f (List.cons_ne_nil _ _)
        fun i hi => h i (List.mem_cons_of_mem _ hi)
      simp only [prettyFields, String.toList_append, List.append_assoc, List.length_append,
        newline_length] at hfuel hmore ⊢
      obtain ⟨fuel, rfl⟩ : ∃ f, fuel = f + 1 := ⟨fuel - 1, by omega⟩
      obtain ⟨inner, hs, hkey⟩ := key_on_line level key _
      exact readFields_more hs hkey (hj.after_colon (by omega) (ends_comma _)) (skipSpace_cons rfl _)
        (hmore fuel (by omega))

theorem not_number_head : (['n', 't', 'f', '"', '[', '\x7b', ' ', '\n', '\t', '\r'].all fun c =>
    !isDigit c && c != '-') = true := by
  decide

theorem readValue_number {c : Char} (hc : isDigit c = true ∨ c = '-') (s : List Char) :
    readValue (fuel + 1) depth (c :: s) =
      (readNumber (c :: s)).map fun r => (.number r.1, r.2) := by
  have hother : ∀ d ∈ ['n', 't', 'f', '"', '[', '\x7b', ' ', '\n', '\t', '\r'], c ≠ d := by
    rintro d hd rfl
    have hhead := List.all_eq_true.mp not_number_head c hd
    simp only [Bool.and_eq_true, Bool.not_eq_true', bne_iff_ne] at hhead
    exact hc.elim (fun h => by simp [hhead.1] at h) hhead.2
  have hspace : isSpace c = false := by
    simp only [isSpace, Bool.or_eq_false_iff, beq_eq_false_iff_ne]
    simp [hother]
  rw [readValue, skipSpace_cons hspace]
  split
  all_goals simp_all

theorem readValue_brackets (s : List Char) :
    readValue (fuel + 1) (depth + 1) ('[' :: ']' :: s) = some (.array [], s) ∧
      readValue (fuel + 1) (depth + 1) ('\x7b' :: '\x7d' :: s) = some (.object [], s) := by
  have hclose : skipSpace (']' :: s) = ']' :: s := skipSpace_cons rfl s
  have hclose' : skipSpace ('\x7d' :: s) = '\x7d' :: s := skipSpace_cons rfl s
  constructor
  · rw [readValue, skipSpace_cons rfl]
    simp [hclose]
  · rw [readValue, skipSpace_cons rfl]
    simp [hclose']

theorem readValue_word (s : List Char) :
    readValue (fuel + 1) depth ("null".toList ++ s) = some (.null, s) ∧
      readValue (fuel + 1) depth ("true".toList ++ s) = some (.bool true, s) ∧
      readValue (fuel + 1) depth ("false".toList ++ s) = some (.bool false, s) := by
  refine ⟨?_, ?_, ?_⟩
  all_goals
    rw [readValue]
    rfl

theorem Legible.readsBack {j : Json} (h : Legible depth j) : ReadsBack depth j := by
  induction h with
  | null depth => exact fun level fuel rest _ _ => (readValue_word rest).1
  | bool depth b =>
    intro level fuel rest _ _
    cases b
    · exact (readValue_word rest).2.2
    · exact (readValue_word rest).2.1
  | @integer depth n h =>
    intro level fuel rest _ hrest
    obtain ⟨c, tail, hc, htext⟩ := toText_integer n
    have hnumber := readNumber_toText h hrest
    simp only [prettyAt]
    rw [htext, List.cons_append] at hnumber ⊢
    rw [readValue_number hc, hnumber]
    rfl
  | text depth s =>
    intro level fuel rest _ _
    obtain ⟨inner, htext, hread⟩ := readText_quote s rest
    simp only [prettyAt]
    rw [htext, readValue, skipSpace_cons rfl]
    simp [hread]
  | @array depth items h ih =>
    intro level fuel rest hfuel _
    cases items with
    | nil =>
      rw [prettyAt]
      exact (readValue_brackets rest).1
    | cons j items =>
      simp only [prettyAt, String.toList_append, List.append_assoc, List.length_append,
        newline_length] at hfuel ⊢
      obtain ⟨fuel, rfl⟩ : ∃ f, fuel = f + 1 := ⟨fuel - 1, by omega⟩
      exact readValue_items (readItems_prettyItems (List.cons_ne_nil _ _) ih (level + 1) level rest
        (by omega))
  | @object depth fields h ih =>
    intro level fuel rest hfuel _
    cases fields with
    | nil =>
      rw [prettyAt]
      exact (readValue_brackets rest).2
    | cons f fields =>
      simp only [prettyAt, String.toList_append, List.append_assoc, List.length_append,
        newline_length] at hfuel ⊢
      obtain ⟨fuel, rfl⟩ : ∃ f, fuel = f + 1 := ⟨fuel - 1, by omega⟩
      exact readValue_fields (readFields_prettyFields (List.cons_ne_nil _ _) ih (level + 1) level rest
        (by omega))

theorem ofText?_pretty {j : Json} (h : Legible 127 j) : ofText? j.pretty = some j := by
  have hread := h.readsBack 0 (2 * j.pretty.toList.length + 1) []
    (by rw [pretty]; omega) ends_nil
  rw [List.append_nil] at hread
  unfold ofText?
  rw [pretty] at hread ⊢
  simp [hread, skipSpace]

end LinkedControls.Json
