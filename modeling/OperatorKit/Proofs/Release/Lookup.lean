import OperatorKit.Proofs.Release.Credentials
import OperatorKit.Proofs.Release.Repository
import OperatorKit.Proofs.Url.Continuation

/-!
Where the lookup of a repository goes. Owner and name are written into the path of a URL as they
stand, so the lookup asks for the release of that repository if and only if each of them stays one
segment there; it is another segment, and maybe another place, if one of them ends the path, cuts it,
goes up from it or loses a character.
-/

namespace OperatorKit

theorem Url.address_of_anonymous {url : Url} (anonymous : ¬ url.HasUserinfo) :
    url.address = { url with fragment := none }.text := by
  rw [address, splitCredentials_of_not_hasUserinfo anonymous]

namespace Repository

/-- A URL without query, whose path is that of the latest release of a repository: owner and name,
percent-encoded, are the second and the third of five segments. -/
def IsLatestAt (r : Repository) (url : Url) : Prop :=
  url.query = none ∧ url.path = .segments
    ["repos", UrlPath.encoded r.owner.toList, UrlPath.encoded r.name.toList, "releases", "latest"]

theorem toList_latestPath (r : Repository) : r.latestPath.toList =
    UrlPath.written ["repos".toList, r.owner.toList, r.name.toList, "releases".toList,
      "latest".toList] := by
  simp [latestPath, UrlPath.written]

end Repository

namespace Reporter

open Client

variable {options : ReporterOptions} {reporter : Reporter} {input : String} {r : Repository}

theorem apiUrl_of_build (built : build options = .ok reporter) :
    reporter.apiUrl = Text.withoutFinalSlashes options.apiUrl := by
  unfold build at built
  cases given : options.credentials
  all_goals
    simp only [given] at built
    split at built
    · cases built
      rfl
    · cases built

theorem first_request {request : Request} {target : Url} (network : Network) (past : List Request)
    (parsed : Url.parse (reporter.url r) = .ok target)
    (first : request ∈ (reporter.report network past r).requests.head?) :
    request.url = target.address := by
  obtain ⟨visits, route, sent⟩ := get_route reporter.client network past (reporter.url r)
  have first : request ∈ (visits.map Visit.request).head? := sent ▸ first
  rw [List.head?_map] at first
  obtain ⟨v, begins, rfl⟩ := Option.map_eq_some_iff.mp first
  obtain ⟨_, makes⟩ := route.makes (List.mem_of_mem_head? begins)
  obtain ⟨base, read, address⟩ := makes.addressed
  rw [route.begins begins, parsed] at read
  cases read
  exact address

theorem visible_latestPath (r : Repository) :
    r.latestPath.toList.head? = some '/' ∧ ∀ c ∈ r.latestPath.toList.getLast?, 0x20 < c.toNat := by
  have last : r.latestPath.toList.getLast? = some 't' := by
    rw [Repository.latestPath, String.toList_append, List.getLast?_append]
    rfl
  refine ⟨by simp [Repository.latestPath], fun c final => ?_⟩
  cases last.symm.trans final
  decide

/-- What is written behind an origin for a repository is read as the path of its release if and only
if owner and name are segments. -/
theorem isLatestAt_iff (r : Repository) (scheme : String) (authority : Option Authority) :
    r.IsLatestAt (Url.continued scheme authority r.latestPath.toList) ↔
      UrlPath.IsSegment r.owner.toList ∧ UrlPath.IsSegment r.name.toList := by
  have repos : UrlPath.IsSegment "repos".toList := ⟨by simp [UrlPath.marks], by decide⟩
  have releases : UrlPath.IsSegment "releases".toList := ⟨by simp [UrlPath.marks], by decide⟩
  have latest : UrlPath.IsSegment "latest".toList := ⟨by simp [UrlPath.marks], by decide⟩
  have names : UrlPath.encoded "repos".toList = "repos" ∧
      UrlPath.encoded "releases".toList = "releases" ∧
      UrlPath.encoded "latest".toList = "latest" := by decide
  rw [Repository.IsLatestAt, Repository.toList_latestPath]
  simpa only [List.map_cons, List.map_nil, names, List.forall_mem_cons, repos, releases, latest,
    true_and, List.not_mem_nil, false_implies, implies_true, and_true] using
    Url.continued_written_iff scheme authority "repos".toList
      [r.owner.toList, r.name.toList, "releases".toList, "latest".toList]

/-- Let the interface be a plain origin. The lookup of a repository begins at a URL of that origin, and
its first request goes there. This is the URL of the latest release of that repository if and only if
owner and name are segments, and such a segment is read as owner or name if and only if that has no
escape. -/
theorem report_asks (plain : Url.IsPlainOrigin options.apiUrl)
    (built : build options = .ok reporter) (network : Network) (past : List Request)
    (r : Repository) :
    ∃ base target, Url.parse options.apiUrl = .ok base ∧ Url.parse (reporter.url r) = .ok target ∧
      target.origin = base.origin ∧
      (∀ request ∈ (reporter.report network past r).requests.head?,
        request.url = { target with fragment := none }.text) ∧
      (r.IsLatestAt target ↔
        UrlPath.IsSegment r.owner.toList ∧ UrlPath.IsSegment r.name.toList) ∧
      ∀ part ∈ [r.owner, r.name],
        Percent.decode (Utf8.encode (UrlPath.encoded part.toList)) = Utf8.encode part ↔
          ¬ Percent.HasEscape part.toList := by
  obtain ⟨slash, last⟩ := visible_latestPath r
  obtain ⟨base, parsed, anonymous, target⟩ := Url.parse_continued plain r.latestPath slash last
  rw [← apiUrl_of_build built] at target
  refine ⟨base, _, parsed, target, rfl, ?_, isLatestAt_iff r _ _, fun part _ => ?_⟩
  · intro request first
    rw [first_request network past target first]
    exact Url.address_of_anonymous anonymous
  · exact Percent.decode_encode_eq_iff part

def emptyAnswers : Network where
  exchange _ _ := .answered ⟨200, [], []⟩

theorem blankOwner_asks :
    Url.IsPlainOrigin "http://API.test:80/" ∧
      build (optionsFor "http://API.test:80/") = .ok (reporterFor "http://API.test:80") ∧
      ∃ base target request, Url.parse "http://API.test:80/" = .ok base ∧
        target.origin = base.origin ∧ Repository.IsLatestAt ⟨"a b", "ü"⟩ target ∧
        target.path = .segments ["repos", "a%20b", "%C3%BC", "releases", "latest"] ∧
        request ∈
          ((reporterFor "http://API.test:80").report emptyAnswers [] ⟨"a b", "ü"⟩).requests.head? ∧
        request.url = { target with fragment := none }.text := by
  have plain : Url.IsPlainOrigin "http://API.test:80/" := by
    refine ⟨⟨testOrigin, by decide +kernel⟩, "http".toList, "API.test:80".toList, "/".toList, ?_⟩
    exact ⟨by simp, by decide, by simp, by simp, by simp [Url.authorityMarks], by simp⟩
  have built : build (optionsFor "http://API.test:80/") = .ok (reporterFor "http://API.test:80") :=
    rfl
  obtain ⟨base, target, read, _, origin, first, asks, _⟩ :=
    report_asks plain built emptyAnswers [] ⟨"a b", "ü"⟩
  have segments : UrlPath.IsSegment "a b".toList ∧ UrlPath.IsSegment "ü".toList :=
    ⟨⟨by simp [UrlPath.marks], by decide⟩, ⟨by simp [UrlPath.marks], by decide⟩⟩
  have latest := asks.mpr segments
  have sent : movedRequest "http://api.test/repos/a%20b/%C3%BC/releases/latest"
      ["Basic dXNlcjpwYXNz"] ∈
        ((reporterFor "http://API.test:80").report emptyAnswers [] ⟨"a b", "ü"⟩).requests.head? := by
    decide +kernel
  exact ⟨plain, built, base, target, _, read, origin, latest, latest.2, sent, first _ sent⟩

def questionUrl : Url :=
  { testOrigin with path := .segments ["repos", "o", "x"], query := some "y/releases/latest" }

/-- A question mark in the name ends the path, and the rest is asked for as a query. -/
theorem question_ends_path :
    ¬ ∀ (options : ReporterOptions) (reporter : Reporter) (input : String) (r : Repository)
      (network : Network), Url.IsPlainOrigin options.apiUrl → build options = .ok reporter →
      Repository.ofString input = .ok r →
      ∀ request ∈ (reporter.report network [] r).requests.head?,
        ∃ target, Url.parse request.url = .ok target ∧ r.IsLatestAt target := by
  intro asks
  have plain : Url.IsPlainOrigin "http://api.test" := by
    refine ⟨⟨testOrigin, by decide +kernel⟩, "http".toList, "api.test".toList, "".toList, ?_⟩
    exact ⟨by simp, by decide, by simp, by simp, by simp [Url.authorityMarks], by simp⟩
  have read : Repository.ofString "o/x?y" = .ok ⟨"o", "x?y"⟩ := by decide +kernel
  obtain ⟨target, parsed, query, _⟩ := asks (optionsFor "http://api.test")
    (reporterFor "http://api.test") "o/x?y" _ emptyAnswers plain rfl read
    (movedRequest "http://api.test/repos/o/x?y/releases/latest" ["Basic dXNlcjpwYXNz"])
    (by decide +kernel)
  have cut : Url.parse "http://api.test/repos/o/x?y/releases/latest" = .ok questionUrl := by
    decide +kernel
  cases parsed.symm.trans cut
  cases query

end Reporter

end OperatorKit
