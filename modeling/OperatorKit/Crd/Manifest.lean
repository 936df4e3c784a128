import OperatorKit.Crd.Kind
import OperatorKit.Crd.ObjectList
import OperatorKit.Yaml.Text

/-! The manifest: the definitions of all kinds in one list, and its text. -/

namespace OperatorKit

inductive OutputFormat where
  | json
  | yaml
deriving DecidableEq, Repr

namespace OutputFormat

def name : OutputFormat → String
  | json => "json"
  | yaml => "yaml"

def lower (text : String) : String :=
  String.ofList (text.toList.map Char.toLower)

/-- A format by its name in any case, or why there is none. -/
def ofString (text : String) : Except String OutputFormat :=
  match lower text with
  | "json" => .ok json
  | "yaml" | "yml" => .ok yaml
  | other => .error ("unknown output format '" ++ other ++ "'")

end OutputFormat

namespace Manifest

/-- The definitions of all kinds, or why the first kind without one has none. -/
def generate (document : Json) (limit : Nat) : Except CrdError ObjectList :=
  (ResourceKind.all.mapM (ResourceKind.definition · document limit)).map ObjectList.ofItems

def render (list : ObjectList) : OutputFormat → String
  | .json => list.toJson.pretty
  | .yaml => Yaml.render list.toJson

end Manifest

end OperatorKit
