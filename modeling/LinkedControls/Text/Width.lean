import LinkedControls.Text.Category
import LinkedControls.Text.Table.Width

namespace LinkedControls.Text

def columns (c : Char) : Nat :=
  let n := c.toNat
  if n < 128 then (if n < 32 || n == 127 then 0 else 1)
  else if Category.holds [.nonspacingMark, .enclosingMark, .format, .control] c then 0
  else if covered Table.wide n then 2
  else 1

def width : List Char → Nat
  | [] => 0
  | c :: rest => columns c + width rest

end LinkedControls.Text
