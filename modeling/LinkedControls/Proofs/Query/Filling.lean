import LinkedControls.Proofs.Query.Modes

/-!
Filling a template is one splice: its texts stay, and every reference gives way to a literal that is not
looked at again. It can be done in place, from the last reference to the first.
-/

namespace LinkedControls

open Text

def Value.isMute : Value → Bool
  | .number x => !x.isFinite
  | .numberRange _ => true
  | .dateRange _ => true
  | _ => false

theorem Value.literal?_isNone (v : Value) : v.literal?.isNone = v.isMute := by
  cases v with
  | number x => cases hx : x.isFinite <;> simp [literal?, isMute, hx]
  | list items => cases items <;> rfl
  | _ => rfl

def Reference.isMissing (r : Reference) (s : Snapshot) : Bool :=
  match r.resolve? s with
  | some v => v.isMute
  | none => true

theorem Reference.literal?_isNone (r : Reference) (s : Snapshot) :
    (r.literal? s).isNone = r.isMissing s := by
  unfold literal? isMissing
  cases r.resolve? s with
  | none => rfl
  | some v => exact v.literal?_isNone

namespace Template

/-- The template from byte `n` on, with a new text in the place of each of the occurrences. -/
def weave (text : Reference → List Char → List Char) (template : List Char) :
    Nat → List Occurrence → List Char
  | n, [] => dropBytes n template
  | n, o :: rest =>
      takeBytes (o.start - n) (dropBytes n template) ++ text o.reference o.source ++
        weave text template o.stop rest

def Segment.rendered (text : Reference → List Char → List Char) : Segment → List Char
  | .text s => s
  | .reference r inner => text r (written inner)

theorem weave_occurrencesFrom (text : Reference → List Char → List Char) (front gap : List Char)
    (segs : List Segment) :
    weave text (front ++ gap ++ segs.flatMap Segment.source) (byteLength front)
        (occurrencesFrom (byteLength (front ++ gap)) segs) =
      gap ++ segs.flatMap (Segment.rendered text) := by
  induction segs generalizing front gap with
  | nil => simp [occurrencesFrom, weave, dropBytes_append]
  | cons seg segs ih =>
    cases seg with
    | text s =>
      -- the text joins the gap that has been open since the last reference
      have hrest := ih front (gap ++ s)
      rw [← List.append_assoc, byteLength_append (front ++ gap)] at hrest
      simpa [occurrencesFrom, Segment.source, Segment.rendered] using hrest
    | reference r inner =>
      have hrest := ih (front ++ gap ++ written inner) []
      rw [List.append_nil, byteLength_append (front ++ gap)] at hrest
      have hgap : takeBytes (byteLength (front ++ gap) - byteLength front)
          (dropBytes (byteLength front)
            (front ++ (gap ++ (written inner ++ segs.flatMap Segment.source)))) = gap := by
        rw [dropBytes_append, byteLength_append, Nat.add_sub_cancel_left, takeBytes_append]
      simp only [List.append_assoc, List.nil_append] at hrest
      simp only [occurrencesFrom, weave, Occurrence.stop, List.flatMap_cons, Segment.source,
        Segment.rendered, List.append_assoc, hgap, hrest]

theorem weave_occurrences (text : Reference → List Char → List Char) (template : List Char) :
    weave text template 0 (occurrences template) =
      (segments template).flatMap (Segment.rendered text) := by
  have h := weave_occurrencesFrom text [] [] (segments template)
  rwa [List.nil_append, List.nil_append, flatMap_source_segments] at h

theorem weave_source (template : List Char) :
    weave (fun _ source => source) template 0 (occurrences template) = template := by
  rw [weave_occurrences]
  refine .trans (List.flatMap_congr fun seg _ => ?_) (flatMap_source_segments template)
  cases seg <;> rfl

theorem weave_literals (f : Reference → List Char) (template : List Char) :
    weave (fun r _ => f r) template 0 (occurrences template) = fill f template := by
  rw [weave_occurrences, fill]
  refine List.flatMap_congr fun seg _ => ?_
  cases seg <;> rfl

def settle (s : Snapshot) (o : Occurrence) (work : List Char × List String) :
    List Char × List String :=
  match o.reference.literal? s with
  | some literal => (Replacement.apply ⟨o.start, o.stop, literal⟩ work.1, work.2)
  | none => (Replacement.apply ⟨o.start, o.stop, nullLiteral⟩ work.1, o.reference.key :: work.2)

theorem foldr_settle (s : Snapshot) (os : List Occurrence) (template : List Char) :
    os.foldr (settle s) (template, []) =
      (splice (os.map (Occurrence.replacement fun r => (r.literal? s).getD nullLiteral)) template,
        ((os.map (·.reference)).filter fun r => (r.literal? s).isNone).map Reference.key) := by
  induction os with
  | nil => rfl
  | cons o os ih =>
    rw [List.foldr_cons, ih, settle]
    cases h : o.reference.literal? s with
    | none => simp [splice, Occurrence.replacement, h]
    | some literal => simp [splice, Occurrence.replacement, h]

theorem substitute_splices (template : List Char) (s : Snapshot) :
    weave (fun _ source => source) template 0 (occurrences template) = template ∧
    substitute template s =
      weave (fun r _ => ((r.resolve? s).bind Value.literal?).getD nullLiteral) template 0
        (occurrences template) ∧
    (occurrences template).foldr (settle s) (template, []) =
      (substitute template s, unresolved template s) ∧
    unresolved template s =
      (((occurrences template).map (·.reference)).filter (·.isMissing s)).map Reference.key := by
  refine ⟨weave_source template, (weave_literals _ template).symm, ?_, ?_⟩
  · rw [foldr_settle, splice_occurrences]
    rfl
  · unfold unresolved references
    simp only [Reference.literal?_isNone]

example : substitute "${a}${b}".toList
    ⟨[⟨"a", .text, .text "${b}"⟩, ⟨"b", .text, .text "x"⟩], 0⟩ = "'${b}''x'".toList := by cbv

end Template

end LinkedControls
