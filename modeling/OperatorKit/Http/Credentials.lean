import OperatorKit.Http.Base64
import OperatorKit.Text.Split

/-!
Credentials for Basic authentication, and the header they are sent as. A token with a colon is a
user and a password; one without is sent as it stands.
-/

namespace OperatorKit

inductive Credentials where
  | basic (username password : String)
  | token (value : String)
deriving DecidableEq, Repr

namespace Credentials

/-- A token split at its first colon; an empty token is no credential. -/
def ofToken (value : String) : Option Credentials :=
  if value.isEmpty then none
  else
    match Text.splitFirst ':' value.toList with
    | some (username, password) => some (basic (String.ofList username) (String.ofList password))
    | none => some (token value)

def text : Credentials → String
  | basic username password => username ++ ":" ++ password
  | token value => value

def headerOf (bytes : List UInt8) : String :=
  "Basic " ++ String.ofList (Base64.encode bytes)

def header (credentials : Credentials) : String :=
  headerOf (Utf8.encode credentials.text)

end Credentials

end OperatorKit
