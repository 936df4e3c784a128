import OperatorKit.Proofs.Data.Entries
import OperatorKit.Proofs.Http.Authorization
import OperatorKit.Proofs.Url.Authority

/-!
How far credentials reach. A scope is a beginning of texts and not an origin: credentials go to no
other origin than that of their scope, unless the scope ends in its authority and a URL of another
origin goes on within it, with more labels of a host, more digits of a port or a host after a user.
-/

namespace OperatorKit

namespace Scopes

def ofAdditions (additions : List (String × Credentials)) : Scopes :=
  additions.foldl (fun scopes addition => scopes.add addition.1 addition.2) []

theorem mem_of_mem_ofAdditions {additions : List (String × Credentials)}
    {entry : String × Credentials} (member : entry ∈ ofAdditions additions) :
    ∃ addition ∈ additions, entry = (Text.withoutFinalSlashes addition.1, addition.2) := by
  induction additions using List.reverseRecOn with
  | nil => cases member
  | append_singleton additions last ih =>
    rw [ofAdditions, List.foldl_append] at member
    rcases Entries.mem_put member with new | old
    · exact ⟨last, List.mem_append_right _ List.mem_cons_self, new⟩
    · obtain ⟨addition, earlier, same⟩ := ih old
      exact ⟨addition, List.mem_append_left _ earlier, same⟩

theorem mem_names_ofAdditions {additions : List (String × Credentials)}
    {addition : String × Credentials} (added : addition ∈ additions) :
    Text.withoutFinalSlashes addition.1 ∈ (ofAdditions additions).map Prod.fst := by
  induction additions using List.reverseRecOn with
  | nil => cases added
  | append_singleton additions last ih =>
    rw [ofAdditions, List.foldl_append]
    apply Entries.mem_keys_put.mpr
    rcases List.mem_append.mp added with earlier | final
    · exact Or.inr (ih earlier)
    · cases List.mem_singleton.mp final
      exact Or.inl rfl

theorem covers_ofAdditions_iff {additions : List (String × Credentials)} {url : String} :
    (∃ entry ∈ ofAdditions additions, covers entry.1 url = true) ↔
      ∃ addition ∈ additions, covers (Text.withoutFinalSlashes addition.1) url = true := by
  constructor
  · rintro ⟨entry, member, begins⟩
    obtain ⟨addition, added, rfl⟩ := mem_of_mem_ofAdditions member
    exact ⟨addition, added, begins⟩
  · rintro ⟨addition, added, begins⟩
    obtain ⟨entry, member, scope⟩ := List.mem_map.mp (mem_names_ofAdditions added)
    exact ⟨entry, member, scope ▸ begins⟩

end Scopes

namespace Client

/-- Of some scopes, one decides for a URL in a fetch that began at another. -/
structure Reaches (scopes : List String) (start scope url : String) : Prop where
  stays : Url.sameOrigin start url = true
  begins : Scopes.covers (Text.withoutFinalSlashes scope) url = true
  longest : ∀ other ∈ scopes, Scopes.covers (Text.withoutFinalSlashes other) url = true →
    (Text.withoutFinalSlashes other).length ≤ (Text.withoutFinalSlashes scope).length
  origin : Url.IsHosted scope → Url.EndsBare scope →
    Url.sameOrigin scope url = true ∨ Url.Extends scope url

variable {client : Client} {network : Network} {past : List Request} {start : String}
  {visits : List Visit} {v : Visit}

theorem reaches_of_longest {additions : List (String × Credentials)}
    {addition : String × Credentials} {url : String} (stays : Url.sameOrigin start url = true)
    (best : (Scopes.ofAdditions additions).Longest url
      (Text.withoutFinalSlashes addition.1, addition.2)) :
    Reaches (additions.map Prod.fst) start addition.1 url := by
  obtain ⟨_, target, _, read, _⟩ := Url.sameOrigin_iff.mp stays
  refine ⟨stays, best.covers, fun other named also => ?_, fun hosted bare => ?_⟩
  · obtain ⟨rival, added, rfl⟩ := List.mem_map.mp named
    obtain ⟨entry, member, scope⟩ := List.mem_map.mp (Scopes.mem_names_ofAdditions added)
    rw [← scope] at also ⊢
    exact best.longest entry member also
  · have begins := List.isPrefixOf_iff_prefix.mp best.covers
    exact Url.sameOrigin_or_extends hosted bare begins ⟨target, read⟩

/-- A request carries one of the credentials that were added if its URL has the origin of the start
and begins with a scope, and otherwise none. They go to the origin of their scope, or to a URL that
goes on within the authority in which the scope ends. -/
theorem get_reaches (options : FetchOptions) (additions : List (String × Credentials))
    (network : Network) (past : List Request) (start : String) :
    ∃ visits, Route ⟨options, Scopes.ofAdditions additions⟩ network past start visits ∧
      (get ⟨options, Scopes.ofAdditions additions⟩ network past start).state.requests =
        visits.map Visit.request ∧
      ∀ v ∈ visits,
        (v.request.authorization = v.own ∧
          ¬ (Url.sameOrigin start v.url = true ∧ ∃ addition ∈ additions,
            Scopes.covers (Text.withoutFinalSlashes addition.1) v.url = true)) ∨
        ∃ addition ∈ additions, v.request.authorization = v.own ++ [addition.2.header] ∧
          Reaches (additions.map Prod.fst) start addition.1 v.url := by
  obtain ⟨visits, route, sent⟩ :=
    get_route ⟨options, Scopes.ofAdditions additions⟩ network past start
  refine ⟨visits, route, sent, fun v member => ?_⟩
  obtain ⟨_, makes⟩ := route.makes member
  rw [makes.authorization]
  cases found : credentialsFor ⟨options, Scopes.ofAdditions additions⟩ start v.url with
  | none =>
    have uncovered := credentialsFor_eq_none_iff.mp found
    rw [Covers, Scopes.covers_ofAdditions_iff] at uncovered
    exact Or.inl ⟨List.append_nil _, uncovered⟩
  | some c =>
    obtain ⟨⟨stays, _⟩, scope, best⟩ := longest_of_credentialsFor found
    obtain ⟨addition, added, same⟩ := Scopes.mem_of_mem_ofAdditions best.member
    cases same
    exact Or.inr ⟨addition, added, rfl, reaches_of_longest stays best⟩

/-- Credentials for a host are sent to another one whose name begins with its name. -/
theorem credentials_reach_longer_host :
    ¬ ∀ (options : FetchOptions) (additions : List (String × Credentials))
      (script : List Script.Entry) (start : String),
      (∀ addition ∈ additions, ∃ url, Url.parse addition.1 = .ok url ∧
        (url.scheme = "http" ∨ url.scheme = "https") ∧ url.host?.isSome) →
      ∀ request ∈ (get ⟨options, Scopes.ofAdditions additions⟩ (Script.network script) []
        start).state.requests,
      ∀ addition ∈ additions, addition.2.header ∈ request.authorization →
        Url.sameOrigin addition.1 request.url = true := by
  intro within
  let scope : Url :=
    ⟨"http", some ⟨"", "", some (.domain "api.test"), none⟩, .segments [""], none, none⟩
  have absolute : ∀ addition ∈ [("http://api.test", Credentials.basic "user" "pass")],
      ∃ url, Url.parse addition.1 = .ok url ∧
        (url.scheme = "http" ∨ url.scheme = "https") ∧ url.host?.isSome := by
    intro addition member
    cases List.mem_singleton.mp member
    exact ⟨scope, by decide +kernel, Or.inl rfl, rfl⟩
  let request : Request :=
    ⟨"http://api.test.evil.test/", "*/*", ["Basic dXNlcjpwYXNz"], "adviser/0.1.0"⟩
  have same := within {} _ [] "http://api.test.evil.test/" absolute request (by decide +kernel) _
    List.mem_cons_self (by decide +kernel)
  have apart : Url.sameOrigin "http://api.test" "http://api.test.evil.test/" = false := by
    decide +kernel
  cases same.symm.trans apart

end Client

end OperatorKit
