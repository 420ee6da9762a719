import LinkedControls.Link.Script
import LinkedControls.Store.Basic
import LinkedControls.Value.Wire

/-!
Controls in the query part of a link. Every control with an opinion is written as one pair. A link says
nothing about the controls that it does not name, and what it says is taken only if it is short, looks
like no script, and can be read.
-/

namespace LinkedControls.Link

open Text

def reservedKeys : List String := ["page", "tab", "view", "mode", "debug", "theme"]

def isReserved (key : String) : Bool :=
  reservedKeys.any fun r => asciiLower key.toList == r.toList

structure Limits where
  pairs : Nat
  valueBytes : Nat
deriving DecidableEq, Repr

def Limits.default : Limits := ⟨50, 2048⟩

inductive RejectReason
  | tooLong (length limit : Nat)
  | tooMany (limit : Nat)
  | scriptPattern
  | undecodable
deriving DecidableEq, Repr

structure Rejected where
  key : String
  reason : RejectReason
deriving DecidableEq, Repr

structure Decoded where
  values : List (String × Value)
  rejected : List Rejected
deriving DecidableEq

def Decoded.empty : Decoded := ⟨[], []⟩

def encodePair (c : Control) : List Char :=
  escapeComponent c.id.toList ++ '=' :: Wire.encode c.value c.kind

def written (s : Snapshot) : List Control :=
  s.sorted.filter fun c => c.isActive && !isReserved c.id

def encodeQuery (s : Snapshot) : List Char := join ['&'] ((written s).map encodePair)

def splitPair (pair : List Char) : List Char × List Char :=
  (splitFirst '=' pair).getD (pair, [])

def pairs (query : List Char) : List (List Char) :=
  (splitOn '&' query).filter (!·.isEmpty)

def addressed? (kinds : List (String × Kind)) (pair : List Char) : Option (String × Kind) := do
  let key := String.ofList (← unescapeComponent? (splitPair pair).1)
  if isReserved key then none
  else return (key, ← kinds.lookup key)

def readValue (limits : Limits) (accepted : Nat) (k : Kind) (raw : List Char) :
    Except RejectReason Value :=
  if limits.pairs ≤ accepted then .error (.tooMany limits.pairs)
  else if limits.valueBytes < byteLength raw then
    .error (.tooLong (byteLength raw) limits.valueBytes)
  else if isScriptLike raw then .error .scriptPattern
  else
    let v := Wire.decode raw k
    if v.isNull && raw != Wire.nullToken && raw != Wire.emptyToken then .error .undecodable
    else .ok v

/-- Reads pairs one after the other. A later value of a control replaces an earlier one, but both
count. -/
def decodePairs (kinds : List (String × Kind)) (limits : Limits) :
    Nat → Decoded → List (List Char) → Decoded
  | _, d, [] => d
  | accepted, d, pair :: rest =>
      match addressed? kinds pair with
      | none => decodePairs kinds limits accepted d rest
      | some (key, k) =>
          match readValue limits accepted k (splitPair pair).2 with
          | .ok v =>
              decodePairs kinds limits (accepted + 1)
                { d with values := Json.insertField key v d.values } rest
          | .error reason =>
              decodePairs kinds limits accepted
                { d with rejected := d.rejected ++ [⟨key, reason⟩] } rest

def decodeQuery (query : List Char) (kinds : List (String × Kind)) (limits : Limits) : Decoded :=
  let query := match query with
    | '?' :: rest => rest
    | query => query
  decodePairs kinds limits 0 .empty (pairs query)

def isKept (s : Snapshot) (pair : List Char) : Bool :=
  match unescapeComponent? (splitPair pair).1 with
  | some key => isReserved (String.ofList key) || (s.get? (String.ofList key)).isNone
  | none => true

def mergeQuery (query : List Char) (s : Snapshot) : List Char :=
  let controls := encodeQuery s
  join ['&'] ((pairs query).filter (isKept s) ++ if controls.isEmpty then [] else [controls])

def applyTo (store : Store) (values : List (String × Value)) : Nat × Store :=
  values.foldl
    (fun (n, store) (id, v) =>
      match store.write id v .url with
      | .ok (store, _) => (n + 1, store)
      | .error _ => (n, store))
    (0, store)

end LinkedControls.Link
