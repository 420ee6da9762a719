import LinkedControls.Files.Tree
import LinkedControls.Json.Printer
import LinkedControls.Json.Reader
import LinkedControls.Settings.Basic

/-!
Settings in a file. A missing file stands for the defaults, and two variables of the environment
override what the file says.
-/

namespace LinkedControls

abbrev Environment := List (String × String)

namespace Settings

def debounceVariable : String := "PARAMSYNC_DEBOUNCE_MS"

def logVariable : String := "PARAMSYNC_LOG"

def folderVariable : String := "PARAMSYNC_DATA_DIR"

def pathVariable : String := "PARAMSYNC_CONFIG"

def homeVariable : String := "HOME"

def overrideDebounce (env : Environment) (s : Settings) : Except SettingsError Settings :=
  match env.lookup debounceVariable with
  | none => .ok s
  | some raw =>
      match Decimal.naturalOfText? numberLimit (Text.trim raw.toList) with
      | some n => .ok { s with sync := { s.sync with debounce := n } }
      | none =>
          .error (.invalid debounceVariable ("'" ++ raw ++ "' is not a number of milliseconds"))

def overrideLog (env : Environment) (s : Settings) : Settings :=
  match env.lookup logVariable with
  | some level =>
      if Text.isBlankText level then s else { s with log := { s.log with level := level } }
  | none => s

def override (env : Environment) (s : Settings) : Except SettingsError Settings :=
  (overrideDebounce env s).map (overrideLog env)

def read (t : FileTree) (path : String) : Except SettingsError Settings :=
  if t.contains path then
    match t.read path with
    | .error e => .error (.malformed ("Failed to read " ++ path ++ ": " ++ e.message))
    | .ok content =>
        match (Json.ofText? content).bind ofJson? with
        | some s => .ok s
        | none => .error (.malformed "the file does not hold settings")
  else .ok default

def load (t : FileTree) (env : Environment) (path : String) : Except SettingsError Settings := do
  let s ← override env (← read t path)
  s.validate
  return s

def toText (s : Settings) : String := s.toJson.pretty

def unwritable {α : Type} (result : Except FileError α) : Except SettingsError α :=
  result.mapError fun e => .unwritable e.message

def makeFolder (t : FileTree) (path : String) : Except FileError FileTree :=
  match Path.parent? path with
  | none => .ok t
  | some parent => if parent = "" ∨ t.contains parent then .ok t else t.makeFolders parent

def save (s : Settings) (t : FileTree) (path : String) : Except SettingsError Unit × FileTree :=
  match s.validate with
  | .error e => (.error e, t)
  | .ok () =>
      match makeFolder t path with
      | .error e => (.error (.unwritable e.message), t)
      | .ok t =>
          let (result, t) := t.replace path s.toText
          (unwritable result, t)

def update (t : FileTree) (env : Environment) (path : String) (f : Settings → Settings) :
    Except SettingsError Settings × FileTree :=
  match load t env path with
  | .error e => (.error e, t)
  | .ok s =>
      let (result, t) := (f s).save t path
      (result.map fun _ => f s, t)

inductive AssignError
  | settings (e : SettingsError)
  | unknownKey (key : String)
  | fault (f : SettingFault)
deriving DecidableEq, Repr

def AssignError.message : AssignError → String
  | .settings e => e.message
  | .unknownKey key => "Unknown config key: " ++ key
  | .fault f => f.message

/-- Sets the field of a key in the file of settings. What the environment overrides is written as
well. -/
def assign (t : FileTree) (env : Environment) (path key value : String) :
    Except AssignError Unit × FileTree :=
  match load t env path with
  | .error e => (.error (.settings e), t)
  | .ok s =>
      match SettingKey.named? key with
      | none => (.error (.unknownKey key), t)
      | some k =>
          match s.set k value with
          | .error f => (.error (.fault f), t)
          | .ok s =>
              let (result, t) := s.save t path
              (result.mapError .settings, t)

def folder (t : FileTree) (env : Environment) : Except SettingsError (String × FileTree) := do
  let path ← match env.lookup folderVariable, env.lookup homeVariable with
    | some path, _ => pure path
    | none, some home => pure (Path.join home ".paramsync")
    | none, none => throw (.notFound "home directory")
  if t.contains path then return (path, t)
  else return (path, ← unwritable (t.makeFolders path))

def defaultPath (t : FileTree) (env : Environment) : Except SettingsError (String × FileTree) := do
  let (path, t) ← folder t env
  return (Path.join path "config.json", t)

end Settings

end LinkedControls
