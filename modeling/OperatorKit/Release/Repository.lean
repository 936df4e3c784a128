import OperatorKit.Release.Error
import OperatorKit.Text.Split
import OperatorKit.Unicode.Uppercase

/-!
Repositories, written `owner/name`, and the variable that holds the version of each.
-/

namespace OperatorKit

/-- White space, as the Unicode property has it. -/
def Unicode.isBlank (c : Char) : Bool :=
  let n := c.toNat
  (9 ≤ n && n ≤ 13) || n = 0x20 || n = 0x85 || n = 0xA0 || n = 0x1680 ||
    (0x2000 ≤ n && n ≤ 0x200A) || n = 0x2028 || n = 0x2029 || n = 0x202F || n = 0x205F || n = 0x3000

structure Repository where
  owner : String
  name : String
deriving DecidableEq, Repr

namespace Repository

/-- Blanks around the text do not count. There is one slash, with something on either side. -/
def ofString (input : String) : Except ReleaseError Repository :=
  match Text.splitFirst '/' (Text.trim Unicode.isBlank input.toList) with
  | none => .error (.invalidRepository input)
  | some (owner, name) =>
    if owner.isEmpty || name.isEmpty || name.contains '/' then .error (.invalidRepository input)
    else .ok ⟨String.ofList owner, String.ofList name⟩

def text (r : Repository) : String :=
  r.owner ++ "/" ++ r.name

def latestPath (r : Repository) : String :=
  "/repos/" ++ r.owner ++ "/" ++ r.name ++ "/releases/latest"

/-- The name of a variable: upper case, with `_` for all but letters and digits of ASCII. -/
def variableName (text : String) : String :=
  String.ofList ((Unicode.upper text.toList).map fun c => if c.isUpper || c.isDigit then c else '_')

def versionVariable (r : Repository) : String :=
  variableName r.text ++ "_VERSION"

end Repository

end OperatorKit
