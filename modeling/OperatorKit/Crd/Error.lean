import OperatorKit.Schema.Error

/-! Why custom resource definitions cannot be generated. -/

namespace OperatorKit

inductive CrdError where
  | sourceUnavailable (source reason : String)
  | shapeMismatch (kind path reason : String)
  | schema (kind : String) (cause : SchemaError)
  | serialization (reason : String)
deriving DecidableEq, Repr

namespace CrdError

def message : CrdError → String
  | sourceUnavailable source reason => "OpenAPI source unavailable: " ++ source ++ " - " ++ reason
  | shapeMismatch kind path reason =>
    "Schema shape mismatch in " ++ kind ++ ": " ++ path ++ " - " ++ reason
  | schema kind cause => "Failed to resolve " ++ kind ++ " schema: " ++ cause.message
  | serialization reason => "Serialization error: " ++ reason

end CrdError

end OperatorKit
