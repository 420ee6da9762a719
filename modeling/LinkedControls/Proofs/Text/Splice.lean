import LinkedControls.Text.Split

/-!
Replacing stretches of a text that are given by their places in bytes. When the last one is replaced
first, the places of the others stay right, and so each stretch gets its own new text.
-/

namespace LinkedControls.Text

def takeBytes : Nat → List Char → List Char
  | _, [] => []
  | n, c :: rest => if c.utf8Size ≤ n then c :: takeBytes (n - c.utf8Size) rest else []

def dropBytes : Nat → List Char → List Char
  | _, [] => []
  | n, c :: rest => if c.utf8Size ≤ n then dropBytes (n - c.utf8Size) rest else c :: rest

theorem byteLength_append (s t : List Char) : byteLength (s ++ t) = byteLength s + byteLength t := by
  induction s with
  | nil => exact (Nat.zero_add _).symm
  | cons c s ih => simp only [List.cons_append, byteLength, ih, Nat.add_assoc]

theorem takeBytes_append (s t : List Char) : takeBytes (byteLength s) (s ++ t) = s := by
  induction s with
  | nil =>
    cases t with
    | nil => rfl
    | cons c t => exact if_neg (Nat.not_le_of_lt c.utf8Size_pos)
  | cons c s ih => simp [takeBytes, byteLength, ih]

theorem dropBytes_append (s t : List Char) : dropBytes (byteLength s) (s ++ t) = t := by
  induction s with
  | nil =>
    cases t with
    | nil => rfl
    | cons c t => exact if_neg (Nat.not_le_of_lt c.utf8Size_pos)
  | cons c s ih => simp [dropBytes, byteLength, ih]

theorem size_utf8Encode (s : List Char) : s.utf8Encode.size = byteLength s := by
  induction s with
  | nil => rfl
  | cons c s ih =>
    rw [List.utf8Encode_cons, ByteArray.size_append, ih, List.utf8Encode_singleton,
      List.size_toByteArray, String.length_utf8EncodeChar, byteLength]

theorem extract_utf8Encode (front source back : List Char) :
    (front ++ source ++ back).utf8Encode.extract (byteLength front) (byteLength (front ++ source)) =
      source.utf8Encode := by
  have hstop : (front ++ source).utf8Encode.extract (byteLength front)
      (byteLength (front ++ source)) = source.utf8Encode := by
    rw [List.utf8Encode_append]
    exact ByteArray.extract_append_eq_right (size_utf8Encode front).symm
      (by rw [byteLength_append, size_utf8Encode, size_utf8Encode])
  have hback : byteLength front - byteLength (front ++ source) = 0 := by
    rw [byteLength_append]
    omega
  rw [List.utf8Encode_append, ByteArray.extract_append, hstop, size_utf8Encode, hback, Nat.sub_self]
  simp

structure Replacement where
  start : Nat
  stop : Nat
  text : List Char

def Replacement.apply (r : Replacement) (s : List Char) : List Char :=
  takeBytes r.start s ++ r.text ++ dropBytes r.stop s

def splice (rs : List Replacement) (s : List Char) : List Char := rs.foldr Replacement.apply s

theorem apply_append (front source back text : List Char) :
    Replacement.apply ⟨byteLength front, byteLength (front ++ source), text⟩
      (front ++ source ++ back) = front ++ text ++ back := by
  have htake : takeBytes (byteLength front) (front ++ source ++ back) = front := by
    rw [List.append_assoc, takeBytes_append]
  rw [Replacement.apply, htake, dropBytes_append]

structure Piece where
  source : List Char
  text : Option (List Char)

def Piece.target (p : Piece) : List Char := p.text.getD p.source

def replacementsFrom (offset : Nat) : List Piece → List Replacement
  | [] => []
  | ⟨source, none⟩ :: rest => replacementsFrom (offset + byteLength source) rest
  | ⟨source, some text⟩ :: rest =>
      ⟨offset, offset + byteLength source, text⟩ ::
        replacementsFrom (offset + byteLength source) rest

theorem splice_replacementsFrom (front : List Char) (pieces : List Piece) :
    splice (replacementsFrom (byteLength front) pieces) (front ++ pieces.flatMap (·.source)) =
      front ++ pieces.flatMap Piece.target := by
  induction pieces generalizing front with
  | nil => rfl
  | cons p pieces ih =>
    obtain ⟨source, text⟩ := p
    have hrest := ih (front ++ source)
    rw [byteLength_append, List.append_assoc] at hrest
    cases text with
    | none => exact hrest.trans (List.append_assoc _ _ _)
    | some text =>
      -- the rest has been replaced already, and the stretch of this piece is still at its place
      have hsplice : splice (replacementsFrom (byteLength front) (⟨source, some text⟩ :: pieces))
          (front ++ (source ++ pieces.flatMap (·.source))) =
          Replacement.apply ⟨byteLength front, byteLength front + byteLength source, text⟩
            (front ++ source ++ pieces.flatMap Piece.target) :=
        congrArg (Replacement.apply _) hrest
      rw [List.flatMap_cons, hsplice, ← byteLength_append, apply_append, List.append_assoc]
      rfl

end LinkedControls.Text
