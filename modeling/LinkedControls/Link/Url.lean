import LinkedControls.Link.Host
import LinkedControls.Link.Query

/-!
Absolute addresses. Reading one brings it into a normal form, so that two ways to write an address
have one text.
-/

namespace LinkedControls.Link

open Text

structure Url where
  scheme : List Char
  authority : Option (List Char)
  path : List Char
  query : Option (List Char)
  fragment : Option (List Char)
deriving DecidableEq, Repr

namespace Url

inductive SchemeKind
  | file
  | special
  | other
deriving DecidableEq, Repr

def knownPorts : List (String × Nat) :=
  [("http", 80), ("https", 443), ("ws", 80), ("wss", 443), ("ftp", 21)]

def defaultPort? (scheme : List Char) : Option Nat := knownPorts.lookup (String.ofList scheme)

def schemeKind (scheme : List Char) : SchemeKind :=
  if scheme = "file".toList then .file
  else if (defaultPort? scheme).isSome then .special
  else .other

def isSchemeCharacter (c : Char) : Bool :=
  isAsciiLetter c || isAsciiDigit c || c == '+' || c == '-' || c == '.'

def readScheme? (s : List Char) : Option (List Char × List Char) := do
  let (scheme, rest) ← splitFirst ':' s
  guard (scheme.head?.any isAsciiLetter && scheme.all isSchemeCharacter)
  return (asciiLower scheme, rest)

def fragmentSet : List Char := [' ', '"', '<', '>', Char.ofNat 96]

def pathSet : List Char := fragmentSet ++ ['#', '?', '\x7b', '\x7d']

def userSet : List Char := pathSet ++ ['/', ':', ';', '=', '@', '[', '\\', ']', '^', '|']

def querySet (kind : SchemeKind) : List Char :=
  [' ', '"', '#', '<', '>'] ++ if kind = .other then [] else ['\'']

def isSpecial (kind : SchemeKind) : Bool := kind != .other

def endsAuthority (kind : SchemeKind) (c : Char) : Bool :=
  c == '/' || c == '?' || c == '#' || (c == '\\' && isSpecial kind)

def splitLast (c : Char) (s : List Char) : Option (List Char × List Char) :=
  (splitFirst c s.reverse).map fun (after, before) => (before.reverse, after.reverse)

def writeUser (user : List Char) : List Char :=
  let (name, password) := match splitFirst ':' user with
    | some (name, password) => (name, password)
    | none => (user, [])
  let name := percentEncode userSet name
  let password := percentEncode userSet password
  if name.isEmpty && password.isEmpty then []
  else if password.isEmpty then name ++ ['@']
  else name ++ ':' :: (password ++ ['@'])

def takeHost : Bool → List Char → List Char
  | _, [] => []
  | inside, c :: rest =>
      if c = ':' ∧ !inside then []
      else c :: takeHost (if c = '[' then true else if c = ']' then false else inside) rest

def readPort (scheme ds : List Char) : Except UrlError (List Char) :=
  if !ds.all isAsciiDigit then .error .invalidPort
  else
    let n := ds.foldl (fun n c => n * 10 + (c.toNat - 48)) 0
    if 65535 < n then .error .invalidPort
    else if ds.isEmpty ∨ defaultPort? scheme = some n then .ok []
    else .ok (':' :: (Nat.repr n).toList)

def readAuthority (kind : SchemeKind) (scheme s : List Char) : Except UrlError (List Char) := do
  let (user, hostAndPort) := match splitLast '@' s with
    | some (user, rest) => (some user, rest)
    | none => (none, s)
  let lead := writeUser (user.getD [])
  if user.isSome && hostAndPort.isEmpty && user == some [] then throw .emptyHost
  let host := takeHost false hostAndPort
  let port := hostAndPort.drop host.length
  if host.isEmpty then
    if kind = .special || !port.isEmpty || !lead.isEmpty then throw .emptyHost
    return []
  else
    let host ← if kind = .other then opaqueHost host else specialHost host
    return lead ++ host ++ (← readPort scheme (port.drop 1))

def isDoubleDot (segment : List Char) : Bool :=
  ["..", ".%2e", "%2e.", "%2e%2e"].contains (String.ofList (asciiLower segment))

def isSingleDot (segment : List Char) : Bool :=
  [".", "%2e"].contains (String.ofList (asciiLower segment))

/-- Adds a segment to a path; dots go nowhere or up. A path that ends in dots ends in a slash. -/
def addSegment (path : List (List Char)) (segment : List Char) (isLast : Bool) :
    List (List Char) :=
  if isDoubleDot segment then path.dropLast ++ if isLast then [[]] else []
  else if isSingleDot segment then path ++ if isLast then [[]] else []
  else path ++ [percentEncode pathSet segment]

def addSegments : List (List Char) → List (List Char) → List (List Char)
  | path, [] => path
  | path, [segment] => addSegment path segment true
  | path, segment :: rest => addSegments (addSegment path segment false) rest

def readPath (kind : SchemeKind) (s : List Char) : List Char :=
  let s := if isSpecial kind then s.map fun c => if c = '\\' then '/' else c else s
  let path := '/' :: join ['/'] (addSegments [] (splitOn '/' s))
  if kind = .file then '/' :: path.dropWhile (· == '/') else path

def withoutFirstSlash (kind : SchemeKind) : List Char → List Char
  | c :: rest => if c = '/' ∨ (c = '\\' ∧ isSpecial kind) then rest else c :: rest
  | [] => []

def readPathAfter (kind : SchemeKind) (s : List Char) : List Char :=
  if kind = .other ∧ s = [] then [] else readPath kind (withoutFirstSlash kind s)

def splitTail (s : List Char) : List Char × Option (List Char) × Option (List Char) :=
  let (s, fragment) := match splitFirst '#' s with
    | some (s, fragment) => (s, some fragment)
    | none => (s, none)
  match splitFirst '?' s with
  | some (s, query) => (s, some query, fragment)
  | none => (s, none, fragment)

def isSlash (c : Char) : Bool := c == '/' || c == '\\'

def isDrive : List Char → Bool
  | [a, b] => isAsciiLetter a && (b == ':' || b == '|')
  | _ => false

def readFile (s : List Char) : Except UrlError (List Char × List Char) :=
  match s with
  | a :: b :: rest =>
      if isSlash a && isSlash b then do
        let host := rest.takeWhile (!isSlash ·)
        if isDrive host then return ([], readPath .file rest)
        let path := readPathAfter .file (rest.dropWhile (!isSlash ·))
        if host.isEmpty then return ([], path)
        let host ← specialHost host
        return (if host = "localhost".toList then [] else host, path)
      else .ok ([], readPathAfter .file s)
  | s => .ok ([], readPathAfter .file s)

def readHierarchy (kind : SchemeKind) (scheme s : List Char) :
    Except UrlError (Option (List Char) × List Char) :=
  let withAuthority (s : List Char) : Except UrlError (Option (List Char) × List Char) := do
    let authority ← readAuthority kind scheme (s.takeWhile (!endsAuthority kind ·))
    return (some authority, readPathAfter kind (s.dropWhile (!endsAuthority kind ·)))
  match kind with
  | .file => (readFile s).map fun (host, path) => (some host, path)
  | .special => withAuthority (s.dropWhile isSlash)
  | .other =>
      match s with
      | '/' :: '/' :: rest => withAuthority rest
      | '/' :: rest => .ok (none, readPath kind rest)
      | s => .ok (none, percentEncode [] s)

def clean (s : List Char) : List Char :=
  let isEdge (c : Char) : Bool := c.toNat ≤ 32
  let s := (s.dropWhile isEdge).reverse.dropWhile isEdge |>.reverse
  s.filter fun c => !(c == '\t' || c == '\n' || c == '\r')

def encodeQuery (kind : SchemeKind) (s : List Char) : List Char := percentEncode (querySet kind) s

def ofText? (s : List Char) : Except UrlError Url :=
  match readScheme? (clean s) with
  | none => .error .relativeWithoutBase
  | some (scheme, rest) => do
      let kind := schemeKind scheme
      let (rest, query, fragment) := splitTail rest
      let (authority, path) ← readHierarchy kind scheme rest
      return {
        scheme := scheme
        authority := authority
        path := path
        query := query.map (encodeQuery kind)
        fragment := fragment.map (percentEncode fragmentSet) }

def isOpaque (u : Url) : Bool := u.authority.isNone && u.path.head? != some '/'

/-- The address with another query. Without a query and a fragment, an opaque path loses the blanks at
its end. -/
def withQuery (u : Url) (query : List Char) : Url :=
  if query.isEmpty then
    let path :=
      if u.isOpaque && u.fragment.isNone then (u.path.reverse.dropWhile (· == ' ')).reverse
      else u.path
    { u with path := path, query := none }
  else { u with query := some (encodeQuery (schemeKind u.scheme) query) }

/-- The path, which must not begin like an authority where there is none. -/
def writePath (u : Url) : List Char :=
  match u.authority, u.path with
  | none, '/' :: '/' :: rest => ['/', '.', '/', '/'] ++ rest
  | _, path => path

def toChars (u : Url) : List Char :=
  u.scheme ++ ':' :: ((u.authority.map fun a => '/' :: '/' :: a).getD []) ++ u.writePath ++
    ((u.query.map ('?' :: ·)).getD []) ++ ((u.fragment.map ('#' :: ·)).getD [])

end Url

def decodeUrl (url : List Char) (kinds : List (String × Kind)) (limits : Limits) :
    Except UrlError Decoded := do
  let u ← Url.ofText? url
  return decodeQuery (u.query.getD []) kinds limits

def mergeIntoUrl (url : List Char) (s : Snapshot) : Except UrlError (List Char) := do
  let u ← Url.ofText? url
  return (u.withQuery (mergeQuery (u.query.getD []) s)).toChars

end LinkedControls.Link
