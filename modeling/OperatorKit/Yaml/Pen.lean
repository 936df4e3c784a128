/-!
A pen that writes text by columns. It knows whether the last thing written leaves a blank before the
next, and whether the line holds nothing but indentation and indicators so far.
-/

namespace OperatorKit.Yaml

structure Pen where
  text : String
  column : Nat
  blank : Bool
  indented : Bool

namespace Pen

def start : Pen := ⟨"", 0, true, true⟩

def put (pen : Pen) (c : Char) : Pen :=
  { pen with text := pen.text.push c, column := pen.column + 1 }

def putAll (pen : Pen) (cs : List Char) : Pen :=
  cs.foldl put pen

def endLine (pen : Pen) (c : Char) : Pen :=
  { pen with text := pen.text.push c, column := 0 }

/-- Goes to a column, on a new line unless this one is still free up to there. -/
def indentTo (pen : Pen) (column : Nat) : Pen :=
  let pen :=
    if !pen.indented || pen.column > column || (pen.column = column && !pen.blank) then
      pen.endLine '\n'
    else pen
  let pen := pen.putAll (List.replicate (column - pen.column) ' ')
  { pen with blank := true, indented := true }

/-- Writes an indicator, after a blank if it needs one. -/
def indicator (pen : Pen) (mark : List Char) (apart blank indented : Bool) : Pen :=
  let pen := if apart && !pen.blank then pen.put ' ' else pen
  let pen := pen.putAll mark
  { pen with blank, indented := pen.indented && indented }

def written (pen : Pen) : Pen :=
  { pen with blank := false, indented := false }

end Pen

end OperatorKit.Yaml
