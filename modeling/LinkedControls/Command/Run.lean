import LinkedControls.Command.Arguments
import LinkedControls.Command.Display
import LinkedControls.Json.Reader

/-!
Running commands over a tree of files. A command reads its files in a fixed order, so that the first one
that is missing or malformed is the one to be reported.
-/

namespace LinkedControls

namespace Command

structure Answer where
  lines : List String
  error : Option CommandError

def Answer.ofLines (lines : List String) : Answer := ⟨lines, none⟩

def Answer.ofJson (j : Json) : Answer := ⟨[j.pretty], none⟩

def load {α : Type} (decode : Json → Option α) (t : FileTree) (path : String) :
    Except CommandError α :=
  match t.read path with
  | .error e => .error (.unreadable path e)
  | .ok content =>
      match (Json.ofText? content).bind decode with
      | some a => .ok a
      | none => .error (.malformed path)

def loadStore (t : FileTree) (path : String) : Except CommandError Store := do
  let declarations ← load (Json.asList? Declaration.ofJson?) t path
  (Store.ofDeclarations declarations).mapError .store

def record? (j : Json) : Option Record :=
  match j.settle with
  | .object fields => some fields
  | _ => none

def template (t : FileTree) (argument : String) : Except CommandError (List Char) :=
  match argument.toList with
  | '@' :: rest =>
      let path := String.ofList rest
      match t.read path with
      | .error e => .error (.unreadable path e)
      | .ok content => .ok content.toList
  | cs => .ok cs

def Answer.ofTemplate (t : FileTree) (source controls : String) (parameterized json : Bool) :
    Except CommandError Answer := do
  let template ← template t source
  let s := (← loadStore t controls).snapshot
  let placeholder := Template.defaultPlaceholder
  return match parameterized, json with
    | true, true => .ofJson (Display.parameterized template placeholder s)
    | true, false => .ofLines (Display.parameterizedLines template placeholder s)
    | false, true => .ofJson (Display.filled template s)
    | false, false => .ofLines (Display.filledLines template s)

def Answer.ofQuery (t : FileTree) (source : String) (controls : Option String) (json : Bool) :
    Except CommandError Answer := do
  let template ← template t source
  let report ← match controls with
    | some path => do
        pure (Safety.checkTemplate template (← loadStore t path).snapshot)
    | none => pure (Safety.check template)
  return {
    lines := if json then [(Display.report report).pretty] else Display.reportLines report
    error := if report.isValid then none else some .unsafeQuery }

def Answer.ofRecords (t : FileTree) (records targets controls : String) (json : Bool) :
    Except CommandError Answer := do
  let records ← load (Json.asList? record?) t records
  let targets ← load (Json.asList? FilterTarget.ofJson?) t targets
  let predicates := Predicate.deriveAll targets (← loadStore t controls).snapshot
  let kept := applyFilters records predicates
  return if json then .ofJson (.array (kept.map .object))
    else .ofLines (Display.filterLines predicates kept records.length)

def Answer.ofControls (t : FileTree) (controls : String) (base : Option String) (json : Bool) :
    Except CommandError Answer := do
  let s := (← loadStore t controls).snapshot
  let link ← match base with
    | some url => (Link.mergeIntoUrl url.toList s).mapError .link
    | none => pure (Link.encodeQuery s)
  let link := String.ofList link
  return .ofLines [if json then (Json.object [("url", .text link)]).compact else link]

def Answer.ofLink (t : FileTree) (link controls : String) (limits : Link.Limits) (json : Bool) :
    Except CommandError Answer := do
  let kinds := (← loadStore t controls).snapshot.kinds
  let decoded ← if Text.contains [':', '/', '/'] link.toList then
      (Link.decodeUrl link.toList kinds limits).mapError .link
    else pure (Link.decodeQuery link.toList kinds limits)
  return if json then .ofJson (Display.decoded decoded)
    else .ofLines (Display.decodedLines decoded)

def Answer.ofScript (t : FileTree) (script : String) (settings : SyncSettings) :
    Except CommandError Answer := do
  let script ← load Script.ofJson? t script
  let session ← (script.replay settings 0).mapError .script
  return .ofLines (Display.sessionLines session)

def Answer.ofSettings (s : Settings) (json : Bool) : Answer :=
  if json then .ofJson s.toJson else .ofLines (Display.settingsLines s)

def Answer.ofAssignment (t : FileTree) (env : Environment) (path key value : String) :
    Except CommandError Answer × FileTree :=
  let (result, t) := Settings.assign t env path key value
  match result with
  | .ok () => (.ok (.ofLines ["✓ Config updated: " ++ key ++ " = " ++ value]), t)
  | .error e => (.error (.assignment e), t)

def run (c : Command) (t : FileTree) (env : Environment) (path : String) (s : Settings)
    (json : Bool) : Except CommandError Answer × FileTree :=
  match c with
  | .render source controls parameterized =>
      (Answer.ofTemplate t source controls parameterized json, t)
  | .validate source controls => (Answer.ofQuery t source controls json, t)
  | .filter records targets controls => (Answer.ofRecords t records targets controls json, t)
  | .encodeLink controls base => (Answer.ofControls t controls base json, t)
  | .decodeLink link controls => (Answer.ofLink t link controls s.url json, t)
  | .replay script => (Answer.ofScript t script s.sync, t)
  | .showSettings => (.ok (.ofSettings s json), t)
  | .settingsPath => (.ok (.ofLines [path]), t)
  | .assign key value => Answer.ofAssignment t env path key value

end Command

structure Transcript where
  output : String
  error : Option CommandError
  files : FileTree

namespace Transcript

def failed (e : CommandError) (t : FileTree) : Transcript := ⟨"", some e, t⟩

def ofAnswer : Except CommandError Command.Answer × FileTree → Transcript
  | (.ok a, t) => ⟨String.join (a.lines.map (· ++ "\n")), a.error, t⟩
  | (.error e, t) => failed e t

end Transcript

namespace Invocation

def locateSettings (i : Invocation) (t : FileTree) (env : Environment) :
    Except SettingsError (String × FileTree) :=
  match i.settingsPath with
  | some path => .ok (path, t)
  | none => Settings.defaultPath t env

def run (i : Invocation) (t : FileTree) (env : Environment) : Transcript :=
  match i.locateSettings t env with
  | .error e => .failed (.settings e) t
  | .ok (path, t) =>
      match Settings.load t env path with
      | .error e => .failed (.settings e) t
      | .ok s => .ofAnswer (i.command.run t env path s i.json)

end Invocation

end LinkedControls
