import OperatorKit.Crd.Envelope
import OperatorKit.Crd.Rules
import OperatorKit.Schema.Resolve

/-!
The kinds of resource and where the document describes them: the schema of a kind is that of the
body its creating request takes.
-/

namespace OperatorKit

inductive Method where
  | post
  | put
deriving DecidableEq, Repr

def Method.key : Method → String
  | .post => "post"
  | .put => "put"

inductive ResourceKind where
  | accessGroup
  | tunnel
  | tunnelConfig
deriving DecidableEq, Repr

namespace ResourceKind

def all : List ResourceKind := [accessGroup, tunnel, tunnelConfig]

def name : ResourceKind → String
  | accessGroup => "AccessGroup"
  | tunnel => "CFDTunnel"
  | tunnelConfig => "CFDTunnelConfig"

def singular : ResourceKind → String
  | accessGroup => "access-group"
  | tunnel => "cfd-tunnel"
  | tunnelConfig => "cfd-tunnel-config"

def names (kind : ResourceKind) : ResourceNames :=
  .cloudflare kind.name kind.singular

def route : ResourceKind → String
  | accessGroup => "/accounts/\x7baccount_id\x7d/access/groups"
  | tunnel => "/accounts/\x7baccount_id\x7d/cfd_tunnel"
  | tunnelConfig => "/accounts/\x7baccount_id\x7d/cfd_tunnel/\x7btunnel_id\x7d/configurations"

def method : ResourceKind → Method
  | tunnelConfig => .put
  | _ => .post

def schemaPath (kind : ResourceKind) : List String :=
  ["paths", kind.route, kind.method.key, "requestBody", "content", "application/json", "schema"]

/-- A path for a reader: keys with a slash or a dot are quoted in brackets. -/
def displayPath (path : List String) : String :=
  match path with
  | [] => ""
  | first :: rest =>
    let quoted (key : String) : Bool := key.toList.any fun c => c = '/' ∨ c = '.'
    let bracketed (key : String) : String := "[\"" ++ key ++ "\"]"
    (if quoted first then bracketed first else first) ++
      String.join (rest.map fun key => if quoted key then bracketed key else "." ++ key)

def mismatch (kind : ResourceKind) (reason : String) : CrdError :=
  .shapeMismatch kind.name (displayPath kind.schemaPath) reason

/-- Says that the body is an object, unless the schema says what it is. -/
def seeded (schema : Fields) : Fields :=
  Entries.overlay [("type", .string "object")] schema

def sourceSchema (kind : ResourceKind) (document : Json) : Except CrdError Fields :=
  match document.walk? kind.schemaPath with
  | none => .error (kind.mismatch "path not found in document")
  | some (.object fields) => .ok fields
  | some _ => .error (kind.mismatch "request body schema is not an object")

/-- The resolved schema of a kind, before its rules are restructured. -/
def resolved (kind : ResourceKind) (document : Json) (limit : Nat) : Except CrdError Json :=
  match kind.sourceSchema document with
  | .error e => .error e
  | .ok fields =>
    match Schema.resolve document limit (.object (seeded fields)) with
    | .error e => .error (.schema kind.name e)
    | .ok v => .ok v

def specSchema (kind : ResourceKind) (document : Json) (limit : Nat) : Except CrdError Json :=
  match kind.resolved document limit with
  | .error e => .error e
  | .ok spec => if kind = accessGroup then Rules.restructure spec else .ok spec

def definition (kind : ResourceKind) (document : Json) (limit : Nat) : Except CrdError Json :=
  (kind.specSchema document limit).map (Envelope.embed (Envelope.build kind.names))

end ResourceKind

end OperatorKit
