import LinkedControls.Pattern.Basic
import LinkedControls.Text.Percent

namespace LinkedControls.Link

open Pattern

def scheme (name : String) : Pattern := sequences [word name, blanks, exact ':']

def scriptPattern : Pattern :=
  choices [
    sequences [exact '<', blanks, optional (exact '/'), blanks, word "script"],
    scheme "javascript",
    scheme "vbscript",
    sequences [scheme "data", blanks, word "text", exact '/', word "html"],
    sequences [.one (.union .blank (.ofChars ['"', '\'', '/', '<'])), word "on",
      plus (.one (.anyCase (.between 'a' 'z'))), blanks, exact '=']]

def isScriptLike (raw : List Char) : Bool :=
  scriptPattern.isIn raw || (Text.unescapeComponent? raw).any scriptPattern.isIn

end LinkedControls.Link
