import OperatorKit.Http.Script
import OperatorKit.Proofs.Http.Scope
import OperatorKit.Proofs.Http.Walk

/-!
Which requests of a fetch carry credentials. Each visit is judged by its own URL: the credentials of
the client go along if the URL has the origin of the start and begins with a scope, whatever was
visited in between. So a fetch that has left its origin sends them again when it is led back.
-/

namespace OperatorKit.Client

variable {client : Client} {network : Network} {past : List Request} {start url : String}
  {visits : List Visit} {v : Visit}

def Covers (client : Client) (start url : String) : Prop :=
  Url.sameOrigin start url = true ∧ ∃ entry ∈ client.scopes, Scopes.covers entry.1 url = true

theorem credentialsFor_eq_none_iff :
    client.credentialsFor start url = none ↔ ¬ client.Covers start url := by
  unfold credentialsFor Covers
  split
  · rename_i same
    simp [same, Scopes.credentials?_eq_none_iff]
  · rename_i apart
    simp [apart]

theorem longest_of_credentialsFor {c : Credentials}
    (found : client.credentialsFor start url = some c) :
    client.Covers start url ∧ ∃ scope, client.scopes.Longest url (scope, c) := by
  unfold credentialsFor at found
  split at found
  · rename_i same
    obtain ⟨scope, best⟩ := Scopes.longest_of_credentials? found
    exact ⟨⟨same, _, best.member, best.covers⟩, scope, best⟩
  · cases found

/-- The headers for the user and the password that are written in the URL itself. -/
def Visit.own (v : Visit) : List String :=
  v.out.base.splitCredentials.1.toList.map Credentials.header

theorem Makes.authorization (makes : Makes client network past start visits v) :
    v.request.authorization =
      v.own ++ (client.credentialsFor start v.url).toList.map Credentials.header := by
  obtain ⟨_, _, request⟩ := outgoing_ok makes.sends
  rw [Visit.request, request, List.map_append]
  rfl

def Carries (client : Client) (v : Visit) : Prop :=
  ∃ entry ∈ client.scopes, v.request.authorization = v.own ++ [entry.2.header]

theorem Makes.carries_iff (makes : Makes client network past start visits v) :
    client.Carries v ↔ client.Covers start v.url := by
  unfold Carries
  rw [makes.authorization]
  cases found : client.credentialsFor start v.url with
  | none =>
    refine ⟨?_, fun covered => absurd covered (credentialsFor_eq_none_iff.mp found)⟩
    rintro ⟨entry, _, both⟩
    simp at both
  | some c =>
    obtain ⟨covered, scope, best⟩ := longest_of_credentialsFor found
    exact ⟨fun _ => covered, fun _ => ⟨_, best.member, rfl⟩⟩

/-- Once a visit has left the origin of the start, neither it nor a later one carries credentials. -/
def KeepsBack (client : Client) (start : String) (visits : List Visit) : Prop :=
  ∀ (i j : Nat) (v w : Visit), visits[i]? = some v → visits[j]? = some w → i ≤ j →
    Url.sameOrigin start v.url = false → ¬ client.Carries w

def Returns (client : Client) (start : String) (visits : List Visit) : Prop :=
  ∃ (i j : Nat) (v w : Visit), visits[i]? = some v ∧ visits[j]? = some w ∧ i < j ∧
    Url.sameOrigin start v.url = false ∧ client.Covers start w.url

theorem Route.keepsBack_iff (route : Route client network past start visits) :
    client.KeepsBack start visits ↔ ¬ client.Returns start visits := by
  constructor
  · rintro keeps ⟨i, j, v, w, first, second, before, left, covered⟩
    obtain ⟨_, makes⟩ := route.makes (List.mem_of_getElem? second)
    exact keeps i j v w first second (Nat.le_of_lt before) left (makes.carries_iff.mpr covered)
  · intro away i j v w first second order left carried
    obtain ⟨_, makes⟩ := route.makes (List.mem_of_getElem? second)
    have covered := makes.carries_iff.mp carried
    rcases Nat.lt_or_eq_of_le order with before | rfl
    · exact away ⟨i, j, v, w, first, second, before, left, covered⟩
    · cases first.symm.trans second
      cases left.symm.trans covered.1

/-- A visit of a fetch carries credentials if and only if they are meant for its URL. So a fetch
keeps them back for good, once it has left the origin of the start, if and only if it never returns to
a URL for which they are meant. -/
theorem get_keepsBack_iff (client : Client) (network : Network) (past : List Request)
    (start : String) :
    ∃ visits, Route client network past start visits ∧
      (client.get network past start).state.requests = visits.map Visit.request ∧
      (∀ v ∈ visits, client.Carries v ↔ client.Covers start v.url) ∧
      (client.KeepsBack start visits ↔ ¬ client.Returns start visits) := by
  obtain ⟨visits, route, sent⟩ := get_route client network past start
  refine ⟨visits, route, sent, fun v member => ?_, route.keepsBack_iff⟩
  obtain ⟨_, makes⟩ := route.makes member
  exact makes.carries_iff

def detour : List Script.Entry := [
  ⟨"http://a.test/", 302, [("Location", "http://b.test/")], [], none⟩,
  ⟨"http://b.test/", 302, [("Location", "http://a.test/x")], [], none⟩,
  ⟨"http://a.test/x", 200, [], Utf8.encode "{}", none⟩]

def detourClient : Client :=
  ⟨{}, Scopes.single "http://a.test" (.basic "user" "pass")⟩

def detourVisit (host page : String) (authorization : List String) (response : Response) : Visit :=
  let url : Url := ⟨"http", some ⟨"", "", some (.domain host), none⟩, .segments [page], none, none⟩
  let request : Request := ⟨url.text, "*/*", authorization, "adviser/0.1.0"⟩
  ⟨url.text, ⟨url, url, request⟩, .answered response⟩

def leavingVisit : Visit :=
  detourVisit "a.test" "" ["Basic dXNlcjpwYXNz"] ⟨302, [("Location", "http://b.test/")], []⟩

def foreignVisit : Visit :=
  detourVisit "b.test" "" [] ⟨302, [("Location", "http://a.test/x")], []⟩

def returningVisit : Visit :=
  detourVisit "a.test" "x" ["Basic dXNlcjpwYXNz"] ⟨200, [], Utf8.encode "{}"⟩

theorem credentials_sent_after_return :
    ¬ ∀ (client : Client) (script : List Script.Entry) (start : String) (visits : List Visit),
      Route client (Script.network script) [] start visits →
      (client.get (Script.network script) [] start).state.requests = visits.map Visit.request →
      client.KeepsBack start visits := by
  intro keeps
  let network := Script.network detour
  have leaves : Makes detourClient network [] "http://a.test/" [] leavingVisit :=
    ⟨rfl, by decide +kernel⟩
  have stays : Makes detourClient network [] "http://a.test/" [leavingVisit] foreignVisit :=
    ⟨rfl, by decide +kernel⟩
  have returns :
      Makes detourClient network [] "http://a.test/" [leavingVisit, foreignVisit] returningVisit :=
    ⟨rfl, by decide +kernel⟩
  have away : leavingVisit.LeadsTo foreignVisit.url :=
    ⟨_, _, _, _, rfl, by decide, rfl, rfl, rfl, rfl⟩
  have back : foreignVisit.LeadsTo returningVisit.url :=
    ⟨_, _, _, _, rfl, by decide, rfl, rfl, rfl, rfl⟩
  have walk : Walk detourClient network [] "http://a.test/" [leavingVisit, foreignVisit]
      returningVisit.url :=
    .visit (.visit .here leaves away) stays back
  have route : Route detourClient network [] "http://a.test/"
      [leavingVisit, foreignVisit, returningVisit] :=
    Or.inr ⟨[leavingVisit, foreignVisit], returningVisit, rfl, walk, returns⟩
  refine keeps detourClient detour "http://a.test/" _ route (by decide +kernel) 1 2 foreignVisit
    returningVisit rfl rfl (by decide) (by decide +kernel) ?_
  exact ⟨("http://a.test", .basic "user" "pass"), List.mem_singleton.mpr rfl, by decide +kernel⟩

end OperatorKit.Client
