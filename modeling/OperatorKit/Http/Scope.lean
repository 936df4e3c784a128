import OperatorKit.Data.Entries
import OperatorKit.Http.Credentials

/-!
Credentials by scope. A scope is the beginning of a URL, without final slashes. The longest scope
that a URL begins with decides, and of two credentials for one scope the later one stays.
-/

namespace OperatorKit

/-- Credentials by their scopes, which are distinct. -/
abbrev Scopes := Entries Credentials

namespace Scopes

def add (scopes : Scopes) (start : String) (credentials : Credentials) : Scopes :=
  scopes.put (Text.withoutFinalSlashes start) credentials

def single (start : String) (credentials : Credentials) : Scopes :=
  add [] start credentials

def covers (scope url : String) : Bool :=
  scope.toList.isPrefixOf url.toList

def longest? (url : String) : Scopes → Option (String × Credentials)
  | [] => none
  | (scope, c) :: rest =>
    match longest? url rest with
    | none => if covers scope url then some (scope, c) else none
    | some (other, d) =>
      if covers scope url && other.length < scope.length then some (scope, c) else some (other, d)

def credentials? (scopes : Scopes) (url : String) : Option Credentials :=
  (longest? url scopes).map (·.2)

end Scopes

end OperatorKit
