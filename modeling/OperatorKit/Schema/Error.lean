import OperatorKit.Text.Digits

/-! Why a schema cannot be resolved. -/

namespace OperatorKit

inductive SchemaError where
  | unresolved (pointer : String)
  | unsupported (pointer : String)
  | invalid (pointer : String) (reason : String)
  /-- The references being expanded, outermost first, and the one met again. -/
  | circular (chain : List String)
  | tooDeep (limit : Nat)
deriving DecidableEq, Repr

namespace SchemaError

def message : SchemaError → String
  | unresolved p => "Unresolved reference: " ++ p ++ " does not exist in the document"
  | unsupported p => "Unsupported reference: " ++ p ++ " (only local '#/' references are resolved)"
  | invalid p reason => "Invalid reference " ++ p ++ ": " ++ reason
  | circular chain => "Circular reference: " ++ " -> ".intercalate chain
  | tooDeep limit => "Schema nesting exceeds maximum depth of " ++ Digits.decimal limit

end SchemaError

end OperatorKit
