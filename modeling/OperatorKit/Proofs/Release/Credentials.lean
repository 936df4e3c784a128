import OperatorKit.Proofs.Url.Origin
import OperatorKit.Release.Reporter

/-!
Whether the credentials of a reporter stay with a lookup that is moved within the origin of the
interface. They are for texts that begin with the URL of the interface as it is typed, while a
redirect leads to a URL as URLs are written. So they stay if it is typed the way it is written, and
the first redirect may leave them behind if it is not.
-/

namespace OperatorKit

def Url.IsWritten (text : String) : Prop :=
  ∃ url, parse text = .ok url ∧ url.IsOrigin ∧ Text.withoutFinalSlashes text ++ "/" = url.text

theorem Url.IsWritten.hosted {text : String} (written : Url.IsWritten text) :
    Url.IsHosted text := by
  obtain ⟨url, read, isOrigin, _⟩ := written
  exact ⟨url, read, isOrigin.hosted⟩

def Client.Visit.Shows (v : Visit) (c : Credentials) : Prop :=
  v.request.authorization = v.own ++ [c.header]

namespace Reporter

open Client

variable {options : ReporterOptions} {c : Credentials} {reporter : Reporter} {network : Network}
  {past : List Request} {start apiUrl : String} {visits before : List Visit} {v : Visit}

theorem scopes_of_build (given : options.credentials = some c)
    (built : build options = .ok reporter) :
    reporter.client.scopes = [(Text.withoutFinalSlashes options.apiUrl, c)] ∧
      reporter.apiUrl = Text.withoutFinalSlashes options.apiUrl := by
  have bare : Text.withoutFinalSlashes (Text.withoutFinalSlashes options.apiUrl) =
      Text.withoutFinalSlashes options.apiUrl := by
    unfold Text.withoutFinalSlashes
    rw [String.toList_ofList]
    exact congrArg String.ofList (List.rdropWhile_idempotent _ _)
  unfold build at built
  simp only [given, Scopes.single, Scopes.add, bare] at built
  split at built
  · rename_i client allowed
    unfold Client.build at allowed
    split at allowed
    · cases allowed
      cases built
      exact ⟨rfl, rfl⟩
    · cases allowed
  · cases built

theorem authorization_of_scope {client : Client} {scope : String}
    (only : client.scopes = [(scope, c)]) (makes : Makes client network past start before v) :
    v.request.authorization = v.own ++
      if Url.sameOrigin start v.url && Scopes.covers scope v.url then [c.header] else [] := by
  rw [makes.authorization, credentialsFor, only]
  cases Url.sameOrigin start v.url with
  | false => rfl
  | true =>
    cases begins : Scopes.covers scope v.url <;>
      simp [Scopes.credentials?, Scopes.longest?, begins]

theorem shows_iff_of_scope {client : Client} {scope : String}
    (only : client.scopes = [(scope, c)]) (makes : Makes client network past start before v) :
    v.Shows c ↔ Url.sameOrigin start v.url = true ∧ Scopes.covers scope v.url = true := by
  rw [Visit.Shows, authorization_of_scope only makes, List.append_cancel_left_eq,
    ← Bool.and_eq_true]
  split <;> simp_all

theorem covers_append (scope tail : String) : Scopes.covers scope (scope ++ tail) = true := by
  rw [Scopes.covers, List.isPrefixOf_iff_prefix, String.toList_append]
  exact List.prefix_append _ _

theorem readable_start {client : Client} (route : Route client network past start visits)
    (member : v ∈ visits) : ∃ target, Url.parse start = .ok target := by
  cases visits with
  | nil => cases member
  | cons first rest =>
    obtain ⟨_, makes⟩ := route.makes (v := first) List.mem_cons_self
    have begins : first.url = start := route.begins rfl
    exact ⟨first.out.base, begins ▸ (outgoing_ok makes.sends).1⟩

theorem sameOrigin_url (hosted : Url.IsHosted apiUrl) (bare : Url.EndsBare apiUrl)
    (repository : Repository)
    (readable : ∃ target,
      Url.parse (Text.withoutFinalSlashes apiUrl ++ repository.latestPath) = .ok target) :
    Url.sameOrigin apiUrl (Text.withoutFinalSlashes apiUrl ++ repository.latestPath) = true := by
  apply Url.sameOrigin_of_ends hosted bare String.toList_append _ readable
  intro c first
  have slash : repository.latestPath.toList.head? = some '/' := by
    simp [Repository.latestPath]
  cases slash.symm.trans first
  decide

theorem begins_of_isWritten (written : Url.IsWritten apiUrl) {base : Url}
    (read : Url.parse v.url = .ok base) (anonymous : ¬ base.HasUserinfo)
    (same : Url.sameOrigin apiUrl v.url = true) (plain : base.text = v.url) :
    Scopes.covers (Text.withoutFinalSlashes apiUrl) v.url = true := by
  obtain ⟨url, read', isOrigin, typed⟩ := written
  obtain ⟨a, b, readA, readB, origin⟩ := Url.sameOrigin_iff.mp same
  cases read'.symm.trans readA
  cases read.symm.trans readB
  rw [Scopes.covers, List.isPrefixOf_iff_prefix, ← plain]
  exact Url.begins_of_isOrigin readA readB isOrigin anonymous origin typed

/-- How credentials for an interface fare at a visit of a lookup. They are shown where the URL has the
origin at which the lookup begins, which is that of the interface, and begins with the URL of the
interface as it is typed. If that is typed the way it is written, every URL of the origin does so that
is written so too and names no user. -/
structure Fares (apiUrl start : String) (c : Credentials) (v : Visit) : Prop where
  shows_iff : v.Shows c ↔
    Url.sameOrigin start v.url = true ∧ Scopes.covers (Text.withoutFinalSlashes apiUrl) v.url = true
  hidden : ¬ v.Shows c → v.request.authorization = v.own
  origin : Url.IsHosted apiUrl → Url.EndsBare apiUrl →
    Url.sameOrigin apiUrl v.url = Url.sameOrigin start v.url
  written : Url.IsWritten apiUrl → Url.EndsBare apiUrl → Url.sameOrigin apiUrl v.url = true →
    ¬ v.out.base.HasUserinfo → v.out.base.text = v.url → v.Shows c

theorem Fares.of_visit {client : Client} {repository : Repository}
    (only : client.scopes = [(Text.withoutFinalSlashes apiUrl, c)])
    (lookup : start = Text.withoutFinalSlashes apiUrl ++ repository.latestPath)
    (route : Route client network past start visits) (member : v ∈ visits) :
    Fares apiUrl start c v := by
  obtain ⟨_, makes⟩ := route.makes member
  have shown := shows_iff_of_scope only makes
  have origin : Url.IsHosted apiUrl → Url.EndsBare apiUrl →
      Url.sameOrigin apiUrl v.url = Url.sameOrigin start v.url := by
    intro hosted bare
    have readable := readable_start route member
    subst lookup
    exact Url.sameOrigin_congr (sameOrigin_url hosted bare repository readable) v.url
  refine ⟨shown, fun hidden => ?_, origin, fun written bare same anonymous plain => ?_⟩
  · rw [shown, ← Bool.and_eq_true] at hidden
    rw [authorization_of_scope only makes, if_neg hidden, List.append_nil]
  · have started := (origin written.hosted bare).symm.trans same
    have begins := begins_of_isWritten written (outgoing_ok makes.sends).1 anonymous same plain
    exact shown.mpr ⟨started, begins⟩

theorem report_fares (given : options.credentials = some c)
    (built : build options = .ok reporter) (network : Network) (past : List Request)
    (repository : Repository) :
    ∃ visits, Route reporter.client network past (reporter.url repository) visits ∧
      (reporter.report network past repository).requests = visits.map Visit.request ∧
      (∀ v ∈ visits.head?, v.Shows c) ∧
      ∀ v ∈ visits, Fares options.apiUrl (reporter.url repository) c v := by
  obtain ⟨only, typed⟩ := scopes_of_build given built
  have lookup : reporter.url repository =
      Text.withoutFinalSlashes options.apiUrl ++ repository.latestPath := by
    rw [Reporter.url, typed]
  obtain ⟨visits, route, sent⟩ :=
    get_route reporter.client network past (reporter.url repository)
  refine ⟨visits, route, sent, fun v first => ?_, fun v member => ?_⟩
  · have member : v ∈ visits := List.mem_of_mem_head? first
    obtain ⟨_, makes⟩ := route.makes member
    obtain ⟨target, read⟩ := readable_start route member
    refine (shows_iff_of_scope only makes).mpr ?_
    rw [route.begins first]
    refine ⟨Url.sameOrigin_iff.mpr ⟨target, target, read, read, rfl⟩, ?_⟩
    rw [lookup]
    exact covers_append _ _
  · exact Fares.of_visit only lookup route member

def moved : List Script.Entry := [
  ⟨"http://api.test/repos/o/n/releases/latest", 302, [("Location", "/x")], [], none⟩,
  ⟨"http://api.test/x", 200, [], Utf8.encode "{}", none⟩]

def optionsFor (apiUrl : String) : ReporterOptions :=
  { apiUrl, credentials := some (.basic "user" "pass") }

def reporterFor (apiUrl : String) : Reporter :=
  ⟨⟨(optionsFor apiUrl).fetch, Scopes.single apiUrl (.basic "user" "pass")⟩, apiUrl⟩

def testOrigin : Url :=
  ⟨"http", some ⟨"", "", some (.domain "api.test"), none⟩, .segments [""], none, none⟩

theorem testOrigin_isOrigin : testOrigin.IsOrigin := by
  have anonymous : ¬ testOrigin.HasUserinfo := by
    rintro ⟨_, ⟨⟩, named⟩
    exact named ⟨rfl, rfl⟩
  exact ⟨rfl, anonymous, rfl, rfl, rfl⟩

def movedRequest (url : String) (authorization : List String) : Request :=
  ⟨url, "application/vnd.github.v3+json", authorization, "adviser/0.1.0"⟩

theorem moved_fares :
    build (optionsFor "http://api.test") = .ok (reporterFor "http://api.test") ∧
      Url.IsWritten "http://api.test" ∧ Url.EndsBare "http://api.test" ∧
      ∃ visits : List Visit,
        visits.map Visit.request = [
          movedRequest "http://api.test/repos/o/n/releases/latest" ["Basic dXNlcjpwYXNz"],
          movedRequest "http://api.test/x" ["Basic dXNlcjpwYXNz"]] ∧
        (∀ v ∈ visits.head?, v.Shows (.basic "user" "pass")) ∧
        ∀ v ∈ visits, Fares "http://api.test"
          ((reporterFor "http://api.test").url ⟨"o", "n"⟩) (.basic "user" "pass") v := by
  have built : build (optionsFor "http://api.test") = .ok (reporterFor "http://api.test") := rfl
  have written : Url.IsWritten "http://api.test" :=
    ⟨testOrigin, by decide +kernel, testOrigin_isOrigin, by decide +kernel⟩
  have bare : Url.EndsBare "http://api.test" := ⟨'t', by decide +kernel, by decide⟩
  obtain ⟨visits, _, sent, first, fares⟩ :=
    report_fares rfl built (Script.network moved) [] ⟨"o", "n"⟩
  refine ⟨built, written, bare, visits, ?_, first, fares⟩
  rw [← sent]
  decide +kernel

/-- The same lookup with the host in capitals, which a redirect writes in small letters. -/
theorem credentials_left_behind :
    ¬ ∀ (options : ReporterOptions) (c : Credentials) (reporter : Reporter)
      (script : List Script.Entry) (repository : Repository),
      options.credentials = some c →
      (∃ url, Url.parse options.apiUrl = .ok url ∧ url.scheme = "http" ∧ url.IsOrigin) →
      build options = .ok reporter →
      ∀ request ∈ (reporter.report (Script.network script) [] repository).requests,
        Url.sameOrigin options.apiUrl request.url = true → c.header ∈ request.authorization := by
  intro carried
  have isOrigin : ∃ url, Url.parse "http://API.test" = .ok url ∧ url.scheme = "http" ∧
      url.IsOrigin :=
    ⟨testOrigin, by decide +kernel, rfl, testOrigin_isOrigin⟩
  have shown := carried (optionsFor "http://API.test") _ (reporterFor "http://API.test") moved
    ⟨"o", "n"⟩ rfl isOrigin rfl (movedRequest "http://api.test/x" []) (by decide +kernel)
    (by decide +kernel)
  cases shown

end Reporter

end OperatorKit
