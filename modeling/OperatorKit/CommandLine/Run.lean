import OperatorKit.CommandLine.Arguments
import OperatorKit.CommandLine.Failure
import OperatorKit.Crd.Source
import OperatorKit.Release.Reporter

/-!
Carrying out a command line. What a command prints or writes is complete, or there is none of it.
-/

namespace OperatorKit

structure Outcome where
  exitCode : Nat
  output : String
  requests : List Request
  files : Files
  failure : Option Failure
deriving DecidableEq, Repr

namespace Outcome

def success (output : String) (requests : List Request) (files : Files) : Outcome :=
  ⟨0, output, requests, files, none⟩

def failed (failure : Failure) (requests : List Request) (files : Files) : Outcome :=
  ⟨failure.exitCode, "", requests, files, some failure⟩

end Outcome

/-- A text that ends in a line end, added only if there is none. -/
def withLineEnd (text : String) : String :=
  if text.toList.getLast? = some '\n' then text else text ++ "\n"

/-- What a program runs in. -/
structure World where
  environment : List (String × String)
  files : Files
  network : Network

namespace World

/-- Gives the finished text to standard output or to a file. -/
def deliver (world : World) (requests : List Request) (text : String) : Option String → Outcome
  | none => .success text requests world.files
  | some path =>
    match world.files.write path (Utf8.encode text) with
    | .ok files => .success "" requests files
    | .error e => .failed (.ofFile e) requests world.files

/-- Generates the definitions from a source. A fetch that does not end has no outcome. -/
def buildCrd (world : World) (source : String) (output : Option String) (format : OutputFormat)
    (maxDepth : Nat) (options : FetchOptions) : Option Outcome :=
  match Client.build options [] with
  | .error e => some (.failed (.ofFetch e) [] world.files)
  | .ok client =>
    let loading := (Source.ofLocation source).load client world.network world.files
    loading.result.map fun result =>
      match result.bind fun document => Manifest.generate document maxDepth with
      | .error e => .failed (.ofCrd e) loading.requests world.files
      | .ok list =>
        world.deliver loading.requests (withLineEnd (Manifest.render list format)) output

/-- Reports the versions of repositories, all of which are checked before the first request. -/
def queryVersions (world : World) (repositories : List String) (apiUser : Option String)
    (apiUrl : String) (options : FetchOptions) : Option Outcome :=
  let ready := do
    let repositories ← repositories.mapM Repository.ofString
    let reporter ← Reporter.build {
      apiUrl, credentials := apiUser.bind Credentials.ofToken
      fetch := { options with accept := some "application/vnd.github.v3+json" } }
    return (repositories, reporter)
  match ready with
  | .error e => some (.failed (.ofRelease e) [] world.files)
  | .ok (repositories, reporter) =>
    let report := reporter.reportAll world.network [] repositories
    report.result.map fun result =>
      match result with
      | .error e => .failed (.ofRelease e) report.requests world.files
      | .ok lines =>
        .success (String.join (lines.map fun line => line.text ++ "\n")) report.requests world.files

def helpText : String :=
  "CI helpers: Cloudflare CRDs and latest GitHub release versions\n\n" ++
  "Usage: adviser [OPTIONS] <COMMAND>\n\n" ++
  "Commands:\n" ++
  "  build-crd       Generate Kubernetes CRDs for Cloudflare resources\n" ++
  "  query-versions  Print NAME_VERSION=tag for the latest release of each repository\n"

def stopped (world : World) (stop : Stop) : Outcome :=
  match stop with
  | .usage => ⟨FailureKind.usage.exitCode, "", [], world.files, none⟩
  | .help => .success helpText [] world.files
  | .version program => .success (program ++ " 0.1.0\n") [] world.files

def run (world : World) (arguments : List String) : Option Outcome :=
  match readArguments world.environment arguments with
  | .error stop => some (world.stopped stop)
  | .ok invocation =>
    let options : FetchOptions := { maxRedirects := invocation.maxRedirects }
    match invocation.command with
    | .buildCrd source output format maxDepth =>
      world.buildCrd source output format maxDepth options
    | .queryVersions repositories apiUser apiUrl =>
      world.queryVersions repositories apiUser apiUrl options

end World

end OperatorKit
