import OperatorKit.Http.Network

/-!
A network that follows a script. The n-th request for a URL is answered by the n-th entry for it, and
further ones by the last entry.
-/

namespace OperatorKit.Script

inductive Fault where
  | drop
  | hang
  | truncate
deriving DecidableEq, Repr

structure Entry where
  url : String
  status : Nat
  headers : List (String × String)
  body : List UInt8
  fault : Option Fault
deriving DecidableEq, Repr

/-- What an entry answers; two statuses never have a body. -/
def Entry.exchange (e : Entry) : Exchange :=
  let body := if e.status = 204 ∨ e.status = 304 then [] else e.body
  match e.fault with
  | some .drop => .dropped
  | some .hang => .hung
  | some .truncate => .truncated ⟨e.status, e.headers, body⟩
  | none => .answered ⟨e.status, e.headers, body⟩

def notFound : Exchange :=
  .answered ⟨404, [], []⟩

/-- Whether a request needs a connection that the script has no part for. -/
def isSecure (url : String) : Bool :=
  "https:".toList.isPrefixOf url.toList

def network (script : List Entry) : Network where
  exchange past request :=
    if isSecure request.url then .refused
    else
      let entries := script.filter (·.url = request.url)
      let asked := (past.filter (·.url = request.url)).length
      ((entries[asked]?.or entries.getLast?).map Entry.exchange).getD notFound

end OperatorKit.Script
