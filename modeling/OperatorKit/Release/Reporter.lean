import OperatorKit.Http.Client
import OperatorKit.Release.Version

/-!
Reporting the latest release of each of several repositories. A release without a tag leaves its line
empty; a lookup that fails fails the report.
-/

namespace OperatorKit

structure ReporterOptions where
  apiUrl : String := "https://api.github.com"
  credentials : Option Credentials := none
  fetch : FetchOptions := { accept := some "application/vnd.github.v3+json" }
deriving DecidableEq, Repr

structure Reporter where
  client : Client
  apiUrl : String

namespace Reporter

/-- The credentials of a reporter are for its interface only. -/
def build (options : ReporterOptions) : Except ReleaseError Reporter :=
  let apiUrl := Text.withoutFinalSlashes options.apiUrl
  let scopes := match options.credentials with
    | some credentials => Scopes.single apiUrl credentials
    | none => []
  match Client.build options.fetch scopes with
  | .ok client => .ok ⟨client, apiUrl⟩
  | .error e => .error (.client e)

def url (reporter : Reporter) (repository : Repository) : String :=
  reporter.apiUrl ++ repository.latestPath

/-- What is made of the result of a fetch: the tag of the release, whatever the status. -/
def tagOf (repository : Repository) (result : Except FetchError Page) :
    Except ReleaseError (Option String) :=
  match result with
  | .error e => .error (.fetch repository.text e)
  | .ok page =>
    match page.decode Release.decoder with
    | .error e => .error (.fetch repository.text e)
    | .ok release => .ok release.tag

/-- What is noticed in the result of a fetch. -/
def warningsOf (repository : Repository) (result : Except FetchError Page) : List Warning :=
  match result with
  | .error _ => []
  | .ok page =>
    let status := if page.isSuccess then [] else [.status page.url page.status]
    match page.decode Release.decoder with
    | .ok ⟨none⟩ => status ++ [.noTag repository.text page.status]
    | _ => status

/-- A report so far or in the end; one that does not end has no result. -/
structure Report (α : Type) where
  requests : List Request
  warnings : List Warning
  result : Option (Except ReleaseError α)

/-- Looks up one repository after `past` requests for others. -/
def report (reporter : Reporter) (network : Network) (past : List Request)
    (repository : Repository) : Report VersionLine :=
  let fetch := reporter.client.get network past (reporter.url repository)
  { requests := fetch.state.requests
    warnings := fetch.state.warnings ++
      (match fetch.result with
        | none => []
        | some result => warningsOf repository result)
    result := fetch.result.map fun result =>
      (tagOf repository result).map fun tag => ⟨repository, tag⟩ }

def reportAll (reporter : Reporter) (network : Network) (past : List Request) :
    List Repository → Report (List VersionLine)
  | [] => ⟨[], [], some (.ok [])⟩
  | repository :: rest =>
    let first := reporter.report network past repository
    match first.result with
    | none => ⟨first.requests, first.warnings, none⟩
    | some (.error e) => ⟨first.requests, first.warnings, some (.error e)⟩
    | some (.ok line) =>
      let others := reportAll reporter network (past ++ first.requests) rest
      ⟨first.requests ++ others.requests, first.warnings ++ others.warnings,
        others.result.map fun result => result.map fun lines => line :: lines⟩

end Reporter

end OperatorKit
