import LinkedControls.Command.Basic
import LinkedControls.Text.Split

/-!
Arguments of the program as invocations. Options may stand before and after operands, and those for
all commands at every level of command names, where the innermost one counts. Of equal options at one level,
unknown ones and missing ones, nothing is accepted.
-/

namespace LinkedControls

namespace Arguments

inductive Content
  | nothing
  | text
  | path
deriving DecidableEq, Repr

structure OptionForm where
  name : String
  letter : Option Char
  content : Content
deriving DecidableEq, Repr

inductive Token
  | separator
  | named (name : String) (content : Option String)
  | lettered (letter : Char) (content : Option String)
  | operand (s : String)
deriving DecidableEq, Repr

def attached : List Char → Option String
  | [] => none
  | '=' :: rest => some (String.ofList rest)
  | cs => some (String.ofList cs)

def Token.ofText (s : String) : Token :=
  match s.toList with
  | ['-', '-'] => .separator
  | '-' :: '-' :: rest =>
      match Text.splitFirst '=' rest with
      | some (name, content) => .named (String.ofList name) (some (String.ofList content))
      | none => .named (String.ofList rest) none
  | '-' :: letter :: rest => .lettered letter (attached rest)
  | _ => .operand s

structure Given where
  options : List (String × String)
  operands : List String
deriving DecidableEq, Repr

namespace Given

def nothing : Given := ⟨[], []⟩

def option? (g : Given) (name : String) : Option String := g.options.lookup name

def has (g : Given) (name : String) : Bool := (g.option? name).isSome

def addOperands (g : Given) (operands : List String) : Given :=
  { g with operands := g.operands ++ operands }

def add? (g : Given) (form : OptionForm) (content : String) : Option Given :=
  if g.has form.name || (form.content == .path && content.isEmpty) then none
  else some { g with options := g.options ++ [(form.name, content)] }

end Given

def Token.option? (forms : List OptionForm) : Token → Option (OptionForm × Option String)
  | .named name content => (forms.find? (·.name == name)).map (·, content)
  | .lettered letter content => (forms.find? (·.letter == some letter)).map (·, content)
  | _ => none

def read (forms : List OptionForm) (commands : List String) (g : Given) :
    List String → Option (Given × List String)
  | [] => some (g, [])
  | s :: rest =>
      match Token.ofText s with
      | .separator => some (g.addOperands rest, [])
      | .operand s =>
          if commands.contains s then some (g, s :: rest)
          else read forms commands (g.addOperands [s]) rest
      | token =>
          match token.option? forms with
          | none => none
          | some (form, content) =>
              match form.content == .nothing, content, rest with
              | true, none, rest =>
                  (g.add? form "").bind fun g => read forms commands g rest
              | true, some _, _ => none
              | false, some content, rest =>
                  (g.add? form content).bind fun g => read forms commands g rest
              | false, none, [] => none
              | false, none, t :: rest =>
                  match Token.ofText t with
                  | .operand t => (g.add? form t).bind fun g => read forms commands g rest
                  | _ => none

/-- The options for all commands. The level of logging is taken, but no answer depends on it. -/
def commonForms : List OptionForm :=
  [⟨"config", some 'c', .path⟩, ⟨"log-level", some 'l', .text⟩, ⟨"json", none, .nothing⟩]

def controlsForm : OptionForm := ⟨"controls", some 'C', .path⟩

def readName (commands : List String) (args : List String) :
    Option (Given × String × List String) := do
  match ← read commonForms commands .nothing args with
  | (g, name :: rest) => if g.operands.isEmpty then return (g, name, rest) else none
  | (_, []) => none

def forms : List String → List OptionForm
  | ["render"] => [controlsForm, ⟨"parameterized", none, .nothing⟩]
  | ["validate"] => [controlsForm]
  | ["filter"] => [⟨"records", some 'r', .path⟩, ⟨"targets", some 't', .path⟩, controlsForm]
  | ["url", "encode"] => [controlsForm, ⟨"base", none, .text⟩]
  | ["url", "decode"] => [controlsForm]
  | ["sync"] => [⟨"script", some 's', .path⟩]
  | _ => []

def command? (names : List String) (g : Given) : Option Command :=
  match names, g.operands with
  | ["render"], [template] =>
      (g.option? "controls").map (.render template · (g.has "parameterized"))
  | ["validate"], [template] => some (.validate template (g.option? "controls"))
  | ["filter"], [] => do
      return .filter (← g.option? "records") (← g.option? "targets") (← g.option? "controls")
  | ["url", "encode"], [] => (g.option? "controls").map (.encodeLink · (g.option? "base"))
  | ["url", "decode"], [link] => (g.option? "controls").map (.decodeLink link ·)
  | ["sync"], [] => (g.option? "script").map .replay
  | ["config", "show"], [] => some .showSettings
  | ["config", "path"], [] => some .settingsPath
  | ["config", "set"], [key, value] => some (.assign key value)
  | _, _ => none

def readCommand (names args : List String) : Option (Given × Command) := do
  let (g, _) ← read (commonForms ++ forms names) [] .nothing args
  return (g, ← command? names g)

def commands : List (String × List String) := [
  ("render", []),
  ("validate", []),
  ("filter", []),
  ("url", ["encode", "decode"]),
  ("sync", []),
  ("config", ["show", "path", "set"])]

def levels? (args : List String) : Option (List Given × Command) := do
  let (top, name, args) ← readName (commands.map (·.1)) args
  match commands.lookup name with
  | none | some [] =>
      let (g, command) ← readCommand [name] args
      return ([top, g], command)
  | some inner =>
      let (middle, innerName, args) ← readName inner args
      let (g, command) ← readCommand [name, innerName] args
      return ([top, middle, g], command)

/-- Where the settings are: as the innermost level says, or else the environment, whose variable must not
be empty where a level says nothing. -/
def settingsPath? (env : Environment) (levels : List Given) : Option (Option String) :=
  let preset := env.lookup Settings.pathVariable
  if preset == some "" && levels.any fun g => !g.has "config" then none
  else some (levels.reverse.findSome? (·.option? "config") <|> preset)

end Arguments

def Invocation.ofArguments? (env : Environment) (args : List String) : Option Invocation := do
  let (levels, command) ← Arguments.levels? args
  return {
    command := command
    settingsPath := ← Arguments.settingsPath? env levels
    json := levels.any (·.has "json") }

end LinkedControls
