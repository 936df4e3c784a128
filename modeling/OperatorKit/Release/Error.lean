import OperatorKit.Http.Error

/-! Why the latest releases cannot be reported. -/

namespace OperatorKit

inductive ReleaseError where
  | invalidRepository (input : String)
  | fetch (repository : String) (cause : FetchError)
  | client (cause : FetchError)
deriving DecidableEq, Repr

def ReleaseError.message : ReleaseError → String
  | invalidRepository input => "Invalid repository '" ++ input ++ "': expected owner/name"
  | fetch repository cause =>
    "Failed to look up latest release of " ++ repository ++ ": " ++ cause.message
  | client cause => "Failed to create HTTP client: " ++ cause.message

end OperatorKit
