import LinkedControls.Proofs.Json.Fields
import LinkedControls.Proofs.Query.Naming
import LinkedControls.Proofs.Text.Splice
import LinkedControls.Query.Run

/-!
The two ways to fill a template. Where one puts a literal the other puts a placeholder, and the literals
of the bound values in the places of the placeholders give the same query.
-/

namespace LinkedControls.Template

open Text

def piece (source : Reference → List Char → List Char) (text : Reference → List Char) :
    Segment → Piece
  | .text s => ⟨s, none⟩
  | .reference r inner => ⟨source r inner, some (text r)⟩

variable {source : Reference → List Char → List Char} {text f : Reference → List Char}
  {template : List Char} {lead : String} {s : Snapshot}

theorem flatMap_target_piece (segs : List Segment) :
    (segs.map (piece source text)).flatMap Piece.target =
      segs.flatMap fun
        | .text s => s
        | .reference r _ => text r := by
  rw [List.flatMap_map]
  refine List.flatMap_congr fun seg _ => ?_
  cases seg <;> rfl

theorem flatMap_source_piece (segs : List Segment) :
    (segs.map (piece source text)).flatMap (·.source) =
      segs.flatMap fun
        | .text s => s
        | .reference r inner => source r inner := by
  rw [List.flatMap_map]
  refine List.flatMap_congr fun seg _ => ?_
  cases seg <;> rfl

def Occurrence.replacement (text : Reference → List Char) (o : Occurrence) : Replacement :=
  ⟨o.start, o.stop, text o.reference⟩

theorem map_replacement_occurrencesFrom (text : Reference → List Char) (offset : Nat)
    (segs : List Segment) :
    (occurrencesFrom offset segs).map (Occurrence.replacement text) =
      replacementsFrom offset (segs.map (piece (fun _ => written) text)) := by
  induction segs generalizing offset with
  | nil => rfl
  | cons seg segs ih =>
    cases seg with
    | text s => exact ih _
    | reference r inner => exact congrArg (_ :: ·) (ih _)

theorem splice_occurrences (text : Reference → List Char) (template : List Char) :
    splice ((occurrences template).map (Occurrence.replacement text)) template =
      fill text template := by
  have hsource : ((segments template).map (piece (fun _ => written) text)).flatMap (·.source) =
      template := by
    refine (flatMap_source_piece _).trans (.trans ?_ (flatMap_source_segments template))
    refine List.flatMap_congr fun seg _ => ?_
    cases seg <;> rfl
  have hsplice := splice_replacementsFrom [] ((segments template).map (piece (fun _ => written) text))
  rw [List.nil_append, List.nil_append, hsource, flatMap_target_piece] at hsplice
  rw [occurrences, map_replacement_occurrencesFrom]
  exact hsplice

structure Insertion where
  name : String
  start : Nat
deriving DecidableEq

namespace Insertion

def written (i : Insertion) : List Char := ':' :: i.name.toList

def stop (i : Insertion) : Nat := i.start + byteLength i.written

def replacement (text : String → List Char) (i : Insertion) : Replacement :=
  ⟨i.start, i.stop, text i.name⟩

end Insertion

def insertionsFrom (bound : List Binding) (offset : Nat) : List Segment → List Insertion
  | [] => []
  | .text s :: rest => insertionsFrom bound (offset + byteLength s) rest
  | .reference r _ :: rest =>
      match binding? bound r with
      | some b => ⟨b.name, offset⟩ :: insertionsFrom bound (Insertion.stop ⟨b.name, offset⟩) rest
      | none => insertionsFrom bound offset rest

def insertions (template : List Char) (lead : String) : List Insertion :=
  insertionsFrom (bindings template lead) 0 (segments template)

theorem map_name_insertionsFrom (bound : List Binding) (offset : Nat) (segs : List Segment) :
    (insertionsFrom bound offset segs).map (·.name) =
      (segs.filterMap Segment.reference?).filterMap fun r => (binding? bound r).map (·.name) := by
  induction segs generalizing offset with
  | nil => rfl
  | cons seg segs ih =>
    cases seg with
    | text s => exact ih _
    | reference r inner =>
      have href : (Segment.reference r inner :: segs).filterMap Segment.reference? =
          r :: segs.filterMap Segment.reference? := rfl
      rw [insertionsFrom, href, List.filterMap_cons]
      cases binding? bound r with
      | none => exact ih _
      | some b => exact congrArg (b.name :: ·) (ih _)

theorem map_replacement_insertionsFrom {bound : List Binding} {segs : List Segment}
    {literal : String → List Char}
    (h : ∀ r inner, .reference r inner ∈ segs →
      ∃ b, binding? bound r = some b ∧ literal b.name = text r) (offset : Nat) :
    (insertionsFrom bound offset segs).map (Insertion.replacement literal) =
      replacementsFrom offset (segs.map (piece (fun r _ => placeholder bound r) text)) := by
  induction segs generalizing offset with
  | nil => rfl
  | cons seg segs ih =>
    have hrest := ih fun r inner hr => h r inner (List.mem_cons_of_mem _ hr)
    cases seg with
    | text s => exact hrest _
    | reference r inner =>
      obtain ⟨b, hb, hliteral⟩ := h r inner List.mem_cons_self
      have hplaceholder := placeholder_of_binding? hb
      rw [insertionsFrom, hb]
      simp only [List.map_cons, piece, replacementsFrom, hplaceholder, hrest,
        Insertion.replacement, Insertion.stop, Insertion.written, hliteral]

theorem name_mem_insertions {name : String} :
    name ∈ (insertions template lead).map (·.name) ↔
      name ∈ (bindings template lead).map (·.name) := by
  have hbinds := binds_bindings template lead
  rw [insertions, map_name_insertionsFrom, ← references_eq, List.mem_filterMap, List.mem_map]
  constructor
  · rintro ⟨r, -, hr⟩
    obtain ⟨b, hb, rfl⟩ := Option.map_eq_some_iff.mp hr
    exact ⟨b, (hbinds.binding?_eq_some_iff.mp hb).1, rfl⟩
  · rintro ⟨b, hb, rfl⟩
    have hr := (hbinds.mem_iff b.reference).mp (List.mem_map_of_mem hb)
    exact ⟨b.reference, hr, by rw [hbinds.binding?_eq_some_iff.mpr ⟨hb, rfl⟩]; rfl⟩

theorem map_written_insertions (template : List Char) (lead : String) :
    (insertions template lead).map Insertion.written =
      (references template).map (placeholder (bindings template lead)) := by
  have hbinds := binds_bindings template lead
  have hnames := map_name_insertionsFrom (bindings template lead) 0 (segments template)
  rw [← insertions, ← references_eq] at hnames
  have hwritten : (insertions template lead).map Insertion.written =
      ((insertions template lead).map (·.name)).map fun name => ':' :: name.toList := by
    rw [List.map_map]
    rfl
  rw [hwritten, hnames, List.map_filterMap]
  have hsome : ∀ r ∈ references template,
      ((binding? (bindings template lead) r).map (·.name)).map (fun name => ':' :: name.toList) =
        some (placeholder (bindings template lead) r) := by
    intro r hr
    obtain ⟨b, hb, -⟩ := hbinds.exists_binding hr
    rw [placeholder_of_binding? hb, hb]
    rfl
  rw [List.filterMap_congr hsome, ← List.filterMap_eq_map]
  rfl

def boundLiteral (values : List (String × Value)) (name : String) : List Char :=
  ((values.lookup name).bind Value.literal?).getD nullLiteral

theorem parameters_perm (template : List Char) (lead : String) (s : Snapshot) :
    (parameters template lead s).Perm ((bindings template lead).map fun b =>
      (b.name, (b.reference.resolve? s).getD .null)) := by
  refine Json.sortFields_perm ?_
  rw [List.map_map]
  exact (binds_bindings template lead).names

theorem names_parameters_perm (template : List Char) (lead : String) (s : Snapshot) :
    ((parameters template lead s).map (·.1)).Perm ((bindings template lead).map (·.name)) := by
  have hperm := (parameters_perm template lead s).map (·.1)
  rwa [List.map_map] at hperm

theorem names_parameters_nodup (template : List Char) (lead : String) (s : Snapshot) :
    ((parameters template lead s).map (·.1)).Nodup :=
  (names_parameters_perm template lead s).nodup_iff.mpr (binds_bindings template lead).names

theorem boundLiteral_parameters {b : Binding} (hb : b ∈ bindings template lead) (s : Snapshot) :
    boundLiteral (parameters template lead s) b.name =
      (b.reference.literal? s).getD nullLiteral := by
  have hmem : (b.name, (b.reference.resolve? s).getD .null) ∈ parameters template lead s :=
    (parameters_perm template lead s).mem_iff.mpr (List.mem_map.mpr ⟨b, hb, rfl⟩)
  rw [boundLiteral, lookup_key (names_parameters_nodup template lead s) hmem, Reference.literal?]
  cases b.reference.resolve? s with
  | none => rfl
  | some v => rfl

theorem splice_insertions (template : List Char) (lead : String) (s : Snapshot) :
    splice ((insertions template lead).map
        (Insertion.replacement (boundLiteral (parameters template lead s))))
      (parameterize template lead) = substitute template s := by
  have hbinds := binds_bindings template lead
  have hliteral : ∀ r inner, .reference r inner ∈ segments template →
      ∃ b, binding? (bindings template lead) r = some b ∧
        boundLiteral (parameters template lead s) b.name = (r.literal? s).getD nullLiteral := by
    intro r inner hr
    obtain ⟨b, hbr, hb, rfl⟩ := hbinds.exists_binding (mem_references hr)
    exact ⟨b, hbr, boundLiteral_parameters hb s⟩
  have hsplice := splice_replacementsFrom [] ((segments template).map
    (piece (fun r _ => placeholder (bindings template lead) r)
      fun r => (r.literal? s).getD nullLiteral))
  rw [List.nil_append, List.nil_append, flatMap_source_piece, flatMap_target_piece] at hsplice
  rw [insertions, map_replacement_insertionsFrom hliteral]
  exact hsplice

theorem names_parameters_congr (template : List Char) (lead : String) (s s' : Snapshot) :
    (parameters template lead s).map (·.1) = (parameters template lead s').map (·.1) := by
  refine Json.keys_sortFields ?_
  rw [List.map_map, List.map_map]
  rfl

theorem render_modes_agree (template : List Char) (settings : QuerySettings) (s : Snapshot) :
    (∀ r ∈ references template, ∀ q ∈ references template,
      (placeholder (bindings template settings.placeholder) r =
          placeholder (bindings template settings.placeholder) q ↔
        r.control = q.control ∧ r.path = q.path) ∧
      (r.key = q.key ↔ r = q)) ∧
    (Query.ofTemplate template s settings .parameterized).sql =
      splice ((occurrences template).map
        (Occurrence.replacement (placeholder (bindings template settings.placeholder)))) template ∧
    (insertions template settings.placeholder).map Insertion.written =
      (references template).map (placeholder (bindings template settings.placeholder)) ∧
    ((Query.ofTemplate template s settings .parameterized).parameters.map (·.1)).Nodup ∧
    (∀ name, name ∈ (Query.ofTemplate template s settings .parameterized).parameters.map (·.1) ↔
      ∃ i ∈ insertions template settings.placeholder, i.name = name) ∧
    splice ((insertions template settings.placeholder).map (Insertion.replacement
        (boundLiteral (Query.ofTemplate template s settings .parameterized).parameters)))
      (Query.ofTemplate template s settings .parameterized).sql =
        (Query.ofTemplate template s settings .literal).sql ∧
    ∀ s', (Query.ofTemplate template s' settings .parameterized).sql =
        (Query.ofTemplate template s settings .parameterized).sql ∧
      (Query.ofTemplate template s' settings .parameterized).parameters.map (·.1) =
        (Query.ofTemplate template s settings .parameterized).parameters.map (·.1) := by
  have hbinds := binds_bindings template settings.placeholder
  refine ⟨fun r hr q hq => ⟨?_, key_eq_key_iff hr hq⟩, (splice_occurrences _ _).symm,
    map_written_insertions _ _, names_parameters_nodup _ _ s, fun name => ?_, splice_insertions _ _ s,
    fun s' => ⟨rfl, names_parameters_congr _ _ s' s⟩⟩
  · obtain ⟨control, path⟩ := r
    rw [hbinds.placeholder_inj hr hq, Reference.mk.injEq]
  · rw [← List.mem_map, name_mem_insertions]
    exact (names_parameters_perm _ _ s).mem_iff

example : (bindings "${a-b}${a_b}${a_b_2}${a-b}".toList "p").map (·.name) =
    ["p_a_b", "p_a_b_2", "p_a_b_2_2"] := by cbv

end LinkedControls.Template
