import LinkedControls.Text.Blank
import LinkedControls.Text.Split

/-!
Query templates: texts in which a dollar sign and a name in braces refer to a control, or to a named
part of its value behind a point. Everything that is no well-formed reference is text.
-/

namespace LinkedControls

open Text

structure Reference where
  control : String
  path : Option String
deriving DecidableEq, Repr

namespace Reference

def key (r : Reference) : String :=
  match r.path with
  | some path => r.control ++ "." ++ path
  | none => r.control

/-- What stands between the braces of a reference. Blanks around the names do not count, and a name
has to be there on either side of the point. -/
def ofInner? (inner : List Char) : Option Reference :=
  match splitFirst '.' inner with
  | none =>
      let control := trim inner
      if control.isEmpty then none else some ⟨String.ofList control, none⟩
  | some (before, after) =>
      let control := trim before
      let path := trim after
      if control.isEmpty || path.isEmpty then none
      else some ⟨String.ofList control, some (String.ofList path)⟩

end Reference

namespace Template

def isInner (c : Char) : Bool := c != '\x7b' && c != '\x7d' && c != '$'

def braced? : List Char → Option (List Char × List Char)
  | '$' :: '\x7b' :: s =>
      match s.takeWhile isInner, s.dropWhile isInner with
      | c :: inner, '\x7d' :: rest => some (c :: inner, rest)
      | _, _ => none
  | _ => none

def written (inner : List Char) : List Char := '$' :: '\x7b' :: (inner ++ ['\x7d'])

theorem eq_written_of_braced? {s inner rest : List Char} (h : braced? s = some (inner, rest)) :
    s = written inner ++ rest := by
  unfold braced? at h
  split at h
  · rename_i s
    split at h
    · rename_i c tail rest' htake hdrop
      simp only [Option.some.injEq, Prod.mk.injEq] at h
      obtain ⟨rfl, rfl⟩ := h
      have := List.takeWhile_append_dropWhile (p := isInner) (l := s)
      rw [htake, hdrop] at this
      simp [written, ← this]
    · simp at h
  · simp at h

theorem length_lt_of_braced? {s inner rest : List Char} (h : braced? s = some (inner, rest)) :
    rest.length < s.length := by
  rw [eq_written_of_braced? h]
  simp only [written, List.cons_append, List.append_assoc, List.length_cons, List.length_append]
  omega

inductive Segment
  | text (s : List Char)
  | reference (r : Reference) (inner : List Char)
deriving DecidableEq

def Segment.ofInner (inner : List Char) : Segment :=
  match Reference.ofInner? inner with
  | some r => .reference r inner
  | none => .text (written inner)

def Segment.source : Segment → List Char
  | .text s => s
  | .reference _ inner => written inner

def segments (s : List Char) : List Segment :=
  match h : braced? s with
  | some (inner, rest) =>
      have := length_lt_of_braced? h
      .ofInner inner :: segments rest
  | none =>
      match s with
      | [] => []
      | c :: rest => .text [c] :: segments rest
termination_by s.length

/-- A reference at its place; offsets are counted in bytes. -/
structure Occurrence where
  reference : Reference
  source : List Char
  start : Nat
deriving DecidableEq

def Occurrence.stop (o : Occurrence) : Nat := o.start + byteLength o.source

def occurrencesFrom (offset : Nat) : List Segment → List Occurrence
  | [] => []
  | .text s :: rest => occurrencesFrom (offset + byteLength s) rest
  | .reference r inner :: rest =>
      ⟨r, written inner, offset⟩ :: occurrencesFrom (offset + byteLength (written inner)) rest

def occurrences (template : List Char) : List Occurrence := occurrencesFrom 0 (segments template)

def references (template : List Char) : List Reference :=
  (occurrences template).map (·.reference)

def controls (template : List Char) : List String :=
  (references template).foldl
    (fun seen r => if seen.contains r.control then seen else seen ++ [r.control]) []

def fill (f : Reference → List Char) (template : List Char) : List Char :=
  (segments template).flatMap fun
    | .text s => s
    | .reference r _ => f r

end Template

end LinkedControls
