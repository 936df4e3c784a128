import OperatorKit.Text.Split

/-!
The network a client talks to. What it answers may depend on all that it was asked before.
-/

namespace OperatorKit

structure Request where
  /-- Without user, password and fragment. -/
  url : String
  accept : String
  /-- One value for each time the header is sent. -/
  authorization : List String
  userAgent : String
deriving DecidableEq, Repr

structure Response where
  status : Nat
  headers : List (String × String)
  /-- As the transport hands it over, its content encoding taken off. -/
  body : List UInt8
deriving DecidableEq, Repr

namespace Response

def lower (name : String) : List Char :=
  name.toList.map Char.toLower

/-- The first value of a header, without the blanks around it. -/
def header? (r : Response) (name : String) : Option String :=
  (r.headers.find? fun h => lower h.1 = lower name).map fun h =>
    String.ofList (Text.trim (fun c => c = ' ' || c = '\t') h.2.toList)

/-- Where a redirect leads; a value that is not plain ASCII counts as none. -/
def location? (r : Response) : Option String :=
  (r.header? "location").filter fun v =>
    v.toList.all fun c => c = '\t' || (0x20 ≤ c.toNat && c.toNat < 0x7F)

/-- A status that sends the client elsewhere: neither several choices nor an unchanged page. -/
def isRedirect (r : Response) : Bool :=
  300 < r.status && r.status < 400 && r.status ≠ 304

end Response

inductive Exchange where
  /-- No connection is made, so that the request arrives nowhere. -/
  | refused
  | dropped
  | hung
  | answered (response : Response)
  /-- The body ends too early, or the transport cannot take its content encoding off. -/
  | truncated (response : Response)
deriving DecidableEq, Repr

structure Network where
  /-- What happens to a request after others. -/
  exchange : List Request → Request → Exchange

def Network.unreachable : Network where
  exchange _ _ := .refused

end OperatorKit
