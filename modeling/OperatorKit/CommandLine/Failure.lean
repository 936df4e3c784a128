import OperatorKit.Crd.Error
import OperatorKit.Release.Error
import OperatorKit.Storage.Files

/-! How a command fails: what is said, what may help, and the status the program exits with. -/

namespace OperatorKit

inductive FailureKind where
  | source
  | schema
  | network
  | usage
  | io
  | other
  | internal
deriving DecidableEq, Repr

namespace FailureKind

/-- What stands before the message. -/
def label : FailureKind → String
  | source => "Source error: "
  | schema => "Schema error: "
  | network => "Network error: "
  | usage => "Invalid input: "
  | io => "IO error: "
  | other => ""
  | internal => "Internal error: "

def code : FailureKind → String
  | source => "adviser::cli::source"
  | schema => "adviser::cli::schema"
  | network => "adviser::cli::network"
  | usage => "adviser::cli::usage"
  | io => "adviser::cli::io"
  | other => "adviser::cli::error"
  | internal => "adviser::cli::internal"

def exitCode : FailureKind → Nat
  | source => 3
  | schema => 4
  | network => 5
  | usage => 64
  | io | other | internal => 1

end FailureKind

structure Failure where
  kind : FailureKind
  reason : String
  help : Option String := none
deriving DecidableEq, Repr

namespace Failure

def message (f : Failure) : String :=
  f.kind.label ++ f.reason

def exitCode (f : Failure) : Nat :=
  f.kind.exitCode

def ofFile (e : FileError) : Failure :=
  { kind := .io, reason := e.message }

def ofFetch (e : FetchError) : Failure :=
  let kind := match e with
    | .clientBuild _ => .internal
    | .invalidUrl _ _ => .usage
    | _ => .network
  { kind, reason := e.message }

def ofCrd (e : CrdError) : Failure :=
  match e with
  | .sourceUnavailable _ _ =>
    { kind := .source, reason := e.message
      help := some "Pass --source with a reachable URL or a local copy of the OpenAPI document" }
  | .shapeMismatch _ _ _ =>
    { kind := .schema, reason := e.message
      help := some "The upstream document layout may have changed" }
  | .schema _ _ => { kind := .schema, reason := e.message }
  | .serialization reason => { kind := .other, reason }

def ofRelease (e : ReleaseError) : Failure :=
  match e with
  | .invalidRepository _ =>
    { kind := .usage, reason := e.message, help := some "Repositories are given as owner/name" }
  | .fetch _ cause =>
    if cause.isTransport then { kind := .network, reason := e.message }
    else
      { kind := .other, reason := e.message
        help := some ("The API answered with something other than a release; " ++
          "set APIUSER if the rate limit was hit") }
  | .client cause => ofFetch cause

end Failure

end OperatorKit
