import LinkedControls.Link.Url
import LinkedControls.Settings.File
import LinkedControls.Sync.Script

namespace LinkedControls

inductive Command
  | render (template controls : String) (parameterized : Bool)
  | validate (template : String) (controls : Option String)
  | filter (records targets controls : String)
  | encodeLink (controls : String) (base : Option String)
  | decodeLink (link controls : String)
  | replay (script : String)
  | showSettings
  | settingsPath
  | assign (key value : String)
deriving DecidableEq, Repr

structure Invocation where
  command : Command
  settingsPath : Option String
  json : Bool
deriving DecidableEq, Repr

inductive CommandError
  | settings (e : SettingsError)
  | assignment (e : Settings.AssignError)
  | unreadable (path : String) (e : FileError)
  | malformed (path : String)
  | store (e : StoreError)
  | link (e : Link.UrlError)
  | script (e : ScriptError)
  | unsafeQuery
deriving DecidableEq

namespace CommandError

def message : CommandError → String
  | .settings e => e.message
  | .assignment e => e.message
  | .unreadable path e => "Failed to read " ++ path ++ ": " ++ e.message
  | .malformed path => "Failed to parse " ++ path
  | .store e => e.message
  | .link e => e.message
  | .script e => e.message
  | .unsafeQuery => "Query is not safe to execute"

def settings? : CommandError → Option SettingsError
  | .settings e => some e
  | .assignment (.settings e) => some e
  | _ => none

end CommandError

end LinkedControls
