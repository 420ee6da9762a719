import LinkedControls.Command.Run

/-!
The program. It takes in the files that an invocation may read, runs the invocation on them, and writes
what has changed.
-/

namespace LinkedControls

def Command.templatePath (argument : String) : List String :=
  match argument.toList with
  | '@' :: path => [String.ofList path]
  | _ => []

def Command.paths : Command → List String
  | .render source controls _ => templatePath source ++ [controls]
  | .validate source controls => templatePath source ++ controls.toList
  | .filter records targets controls => [records, targets, controls]
  | .encodeLink controls _ => [controls]
  | .decodeLink _ controls => [controls]
  | .replay script => [script]
  | .showSettings => []
  | .settingsPath => []
  | .assign _ _ => []

namespace Invocation

def settingsPaths (i : Invocation) (env : Environment) : List String :=
  match i.locateSettings .empty env with
  | .ok (path, _) => (Path.parent? path).toList ++ [path]
  | .error _ => []

def paths (i : Invocation) (env : Environment) : List String :=
  i.settingsPaths env ++ i.command.paths

end Invocation

namespace Main

def environment : IO Environment := do
  let names := [Settings.debounceVariable, Settings.logVariable, Settings.folderVariable,
    Settings.pathVariable, Settings.homeVariable]
  names.filterMapM fun name => do
    return (← IO.getEnv name).map fun value => (name, value)

def takeIn (t : FileTree) (path : String) : IO FileTree := do
  match ← (IO.FS.realPath path).toBaseIO with
  | .error _ => return t
  | .ok found =>
      if ← found.isDir then
        return (t.makeFolders path).toOption.getD t
      else if ← found.pathExists then
        let content ← IO.FS.readFile found
        return ((t.makeParents path).bind (·.write path content)).toOption.getD t
      else return t

def writeOut (before after : FileTree) (path : String) : IO Unit := do
  if after.isFolder path then
    if !before.isFolder path then IO.FS.createDirAll path
  else
    match after.read path with
    | .error _ => return
    | .ok content =>
        if (before.read path).toOption != some content then
          match Path.parent? path with
          | some "" | none => pure ()
          | some parent => IO.FS.createDirAll parent
          IO.FS.writeFile path content

end Main

end LinkedControls

open LinkedControls in
/-- The program ends with 0, with 1 when the command fails, and with 2 when no command can be made out of
the arguments. -/
def main (args : List String) : IO UInt32 := do
  let env ← Main.environment
  match Invocation.ofArguments? env args with
  | none =>
      IO.eprintln "error: these arguments are not understood"
      return 2
  | some invocation =>
      let paths := invocation.paths env
      let before ← paths.foldlM Main.takeIn .empty
      let result := invocation.run before env
      IO.print result.output
      paths.forM (Main.writeOut before result.files)
      match result.error with
      | none => return 0
      | some e =>
          IO.eprintln ("error: " ++ e.message)
          return 1
