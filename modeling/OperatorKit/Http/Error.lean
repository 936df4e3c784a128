import OperatorKit.Text.Digits

/-! Why a fetch fails. -/

namespace OperatorKit

inductive FetchError where
  | status (code : Nat) (url : String)
  | network (reason : String)
  | timeout (url : String)
  | tooManyRedirects (limit : Nat) (url : String)
  | missingLocation (url : String)
  | invalidUrl (url reason : String)
  | decode (url reason : String)
  | clientBuild (reason : String)
deriving DecidableEq, Repr

namespace FetchError

def message : FetchError → String
  | status code url =>
    "HTTP error: " ++ Digits.decimal code ++ " - request to " ++ url ++ " failed"
  | network reason => "Network error: " ++ reason
  | timeout url => "Request to " ++ url ++ " timed out"
  | tooManyRedirects limit url =>
    "Too many redirects (max " ++ Digits.decimal limit ++ ") while fetching " ++ url
  | missingLocation url => "Redirect from " ++ url ++ " without Location header"
  | invalidUrl url reason => "Invalid URL: " ++ url ++ " - " ++ reason
  | decode url reason => "Failed to decode response from " ++ url ++ ": " ++ reason
  | clientBuild reason => "Failed to build HTTP client: " ++ reason

/-- Whether no usable answer was received, as opposed to one that says something else. -/
def isTransport : FetchError → Bool
  | network _ | timeout _ | tooManyRedirects _ _ | missingLocation _ => true
  | _ => false

end FetchError

end OperatorKit
