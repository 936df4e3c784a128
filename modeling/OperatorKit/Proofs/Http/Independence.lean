import OperatorKit.Proofs.Http.Authorization

/-!
What a fetch shows of its credentials. A network that does not look at the authorization of a request
answers alike whatever the credentials are, so that two clients with the same options visit the same
URLs and come to the same end. Their requests differ in the authorization only, and only where a URL
has the origin of the start and begins with a scope.
-/

namespace OperatorKit

namespace Request

def bare (r : Request) : Request :=
  { r with authorization := [] }

theorem eq_of_bare {r s : Request} (same : r.bare = s.bare)
    (authorization : r.authorization = s.authorization) : r = s := by
  obtain ⟨_, _, _, _⟩ := r
  obtain ⟨_, _, _, _⟩ := s
  cases same
  cases authorization
  rfl

end Request

namespace Network

/-- What the network does depends on no authorization. -/
def Blind (network : Network) : Prop :=
  ∀ {past others : List Request} {r s : Request},
    past.map Request.bare = others.map Request.bare → r.bare = s.bare →
      network.exchange past r = network.exchange others s

end Network

theorem Script.network_blind (script : List Entry) : (Script.network script).Blind := by
  intro past others r s history same
  have url : r.bare.url = s.bare.url := congrArg Request.url same
  change r.url = s.url at url
  have counted (requests : List Request) :
      ((requests.map Request.bare).filter (·.url = s.url)).length =
        (requests.filter (·.url = s.url)).length := by
    rw [List.filter_map, List.length_map]
    rfl
  have asked : (past.filter (·.url = s.url)).length = (others.filter (·.url = s.url)).length := by
    rw [← counted, history, counted]
  simp only [network, url, asked]

namespace Url

def HasUserinfo (url : Url) : Prop :=
  ∃ a, url.authority = some a ∧ ¬ (a.username = "" ∧ a.password = "")

theorem splitCredentials_of_not_hasUserinfo {url : Url} (plain : ¬ url.HasUserinfo) :
    url.splitCredentials = (none, url) := by
  unfold splitCredentials
  cases named : url.authority with
  | none => rfl
  | some a =>
    have empty : a.username = "" ∧ a.password = "" :=
      Decidable.byContradiction fun filled => plain ⟨a, named, filled⟩
    obtain ⟨username, password, host, port⟩ := a
    obtain ⟨rfl, rfl⟩ := empty
    rfl

def IsAnonymous (text : String) : Prop :=
  ∀ url, parse text = .ok url → ¬ url.HasUserinfo

end Url

namespace Client

variable {options : FetchOptions} {first : Scopes} {network : Network} {past : List Request}
  {start url : String} {visits last : List Visit} {v : Visit} {redirects : UInt32}
  {result : Except FetchError Page}

def dressed (client : Client) (start : String) (url : String) (out : Outgoing) : Outgoing :=
  { out with
    request := { out.request with
      authorization := (out.base.splitCredentials.1.toList ++
        (client.credentialsFor start url).toList).map Credentials.header } }

theorem outgoing_dressed (options : FetchOptions) (first second : Scopes) (start url : String) :
    Client.outgoing ⟨options, second⟩ start url =
      (Client.outgoing ⟨options, first⟩ start url).map (dressed ⟨options, second⟩ start url) := by
  unfold outgoing
  cases Url.parse url with
  | error e => rfl
  | ok base =>
    dsimp only
    split
    · rfl
    · split
      · rfl
      · split <;> rfl

def Visit.under (client : Client) (start : String) (v : Visit) : Visit :=
  { v with out := client.dressed start v.url v.out }

theorem Makes.under (second : Scopes) (blind : network.Blind)
    (makes : Makes ⟨options, first⟩ network past start visits v) :
    Makes ⟨options, second⟩ network past start (visits.map (Visit.under ⟨options, second⟩ start))
      (v.under ⟨options, second⟩ start) where
  sends := by
    rw [outgoing_dressed options first second]
    change Except.map _ (Client.outgoing ⟨options, first⟩ start v.url) = _
    rw [makes.sends]
    rfl
  meets := by
    refine makes.meets.trans (blind ?_ rfl)
    rw [List.map_append, List.map_append, List.map_map, List.map_map, List.map_map]
    rfl

theorem Walk.under (second : Scopes) (blind : network.Blind)
    (walk : Walk ⟨options, first⟩ network past start visits url) :
    Walk ⟨options, second⟩ network past start (visits.map (Visit.under ⟨options, second⟩ start))
      url := by
  induction walk with
  | here => exact .here
  | visit _ makes leads ih =>
    rw [List.map_append]
    exact .visit ih (makes.under second blind) leads

/-- The end is settled by the URLs of a visit and by what becomes of it. -/
theorem Visit.Concludes.under {limit : UInt32} {client : Client}
    (concludes : v.Concludes limit start redirects result) :
    (v.under client start).Concludes limit start redirects result := by
  cases concludes with
  | refused exchange => exact .refused exchange
  | dropped exchange => exact .dropped exchange
  | hung exchange => exact .hung exchange
  | overrun answer followed full => exact .overrun answer followed full
  | astray answer followed room found => exact .astray answer followed room found
  | unreadable answer followed room found joined =>
    exact .unreadable answer followed room found joined
  | page exchange terminal => exact .page exchange terminal
  | cut exchange terminal => exact .cut exchange terminal

theorem Visit.arrived_under (client : Client) (start : String) (v : Visit) :
    (v.under client start).arrived = v.arrived.map (Visit.under client start) := by
  by_cases refused : v.exchange = .refused
  · rw [arrived, arrived, if_pos refused]
    exact if_pos refused
  · rw [arrived, arrived, if_neg refused]
    exact if_neg refused

theorem Ends.under (second : Scopes) (blind : network.Blind)
    (ends : Ends ⟨options, first⟩ network past start visits redirects url last result) :
    Ends ⟨options, second⟩ network past start (visits.map (Visit.under ⟨options, second⟩ start))
      redirects url (last.map (Visit.under ⟨options, second⟩ start)) result := by
  cases ends with
  | unsendable refused =>
    refine .unsendable ?_
    rw [outgoing_dressed options first second, refused]
    rfl
  | @last v _ makes concludes =>
    rw [← Visit.arrived_under]
    exact .last (makes.under second blind) concludes.under

/-- The same fetch with other credentials makes the same visits and comes to the same end. -/
theorem get_under (blind : network.Blind) (options : FetchOptions) (first second : Scopes)
    (past : List Request) (start : String) :
    ∃ visits, Route ⟨options, first⟩ network past start visits ∧
      Route ⟨options, second⟩ network past start
        (visits.map (Visit.under ⟨options, second⟩ start)) ∧
      (Client.get ⟨options, first⟩ network past start).state.requests =
        visits.map Visit.request ∧
      (Client.get ⟨options, second⟩ network past start).state.requests =
        (visits.map (Visit.under ⟨options, second⟩ start)).map Visit.request ∧
      (Client.get ⟨options, first⟩ network past start).result =
        (Client.get ⟨options, second⟩ network past start).result := by
  obtain ⟨visits, url, walk, allowed, ended⟩ :=
    get_cases ⟨options, first⟩ network past start
  have other := walk.under second blind
  have count : (visits.map (Visit.under ⟨options, second⟩ start)).length = visits.length :=
    List.length_map ..
  -- Under the largest limit a fetch may go on for ever, and then it does so under both clients.
  rcases ended with long | ⟨few, last, result, ends⟩
  · obtain ⟨_, same⟩ := get_of_long_walk walk allowed long
    obtain ⟨_, otherSame⟩ := get_of_long_walk other (count ▸ allowed) (count.trans long)
    refine ⟨visits, Or.inl ⟨url, walk⟩, Or.inl ⟨url, other⟩, ?_⟩
    rw [same, otherSame]
    exact ⟨rfl, rfl, rfl⟩
  · have otherEnds := ends.under second blind
    obtain ⟨_, same⟩ := get_of_ends walk allowed few ends
    obtain ⟨_, otherSame⟩ := get_of_ends other (count ▸ allowed) (count ▸ few) (count ▸ otherEnds)
    refine ⟨visits ++ last, ends.route walk, ?_, ?_⟩
    · rw [List.map_append]
      exact otherEnds.route other
    · rw [same, otherSame, @List.map_append _ _ (Visit.under ⟨options, second⟩ start)]
      exact ⟨rfl, rfl, rfl⟩

/-- The authorization that belongs to a URL without userinfo: that of the longest scope if the
credentials are meant for the URL, and none otherwise. -/
structure Authorizes (client : Client) (start url : String) (authorization : List String) :
    Prop where
  sent_iff : authorization ≠ [] ↔ client.Covers start url
  longest : authorization ≠ [] →
    ∃ entry, client.scopes.Longest url entry ∧ authorization = [entry.2.header]

theorem Makes.own_eq_nil {client : Client} (makes : Makes client network past start visits v)
    (anonymous : Url.IsAnonymous v.url) : v.own = [] := by
  obtain ⟨read, _, _⟩ := outgoing_ok makes.sends
  rw [Visit.own, Url.splitCredentials_of_not_hasUserinfo (anonymous _ read)]
  rfl

theorem Makes.authorizes {client : Client} (makes : Makes client network past start visits v)
    (anonymous : Url.IsAnonymous v.url) :
    client.Authorizes start v.url v.request.authorization := by
  rw [makes.authorization, makes.own_eq_nil anonymous]
  cases found : client.credentialsFor start v.url with
  | none =>
    have uncovered := credentialsFor_eq_none_iff.mp found
    exact ⟨⟨fun sent => absurd rfl sent, fun covered => absurd covered uncovered⟩,
      fun sent => absurd rfl sent⟩
  | some c =>
    obtain ⟨covered, scope, best⟩ := longest_of_credentialsFor found
    exact ⟨⟨fun _ => covered, fun _ => List.cons_ne_nil _ _⟩, fun _ => ⟨_, best, rfl⟩⟩

theorem Makes.authorization_of_foreign {client : Client}
    (makes : Makes client network past start visits v)
    (foreign : Url.sameOrigin start v.url = false) : v.request.authorization = v.own := by
  have withheld : client.credentialsFor start v.url = none :=
    credentialsFor_eq_none_iff.mpr fun covered => by cases foreign.symm.trans covered.1
  rw [makes.authorization, withheld]
  exact List.append_nil _

def Asks (client : Client) (network : Network) (past : List Request) (start : String)
    (urls : List String) : Prop :=
  ∃ visits, Route client network past start visits ∧ visits.map Visit.url = urls ∧
    (client.get network past start).state.requests = visits.map Visit.request ∧
    ∀ v ∈ visits, Url.IsAnonymous v.url → client.Authorizes start v.url v.request.authorization

theorem Route.asks {client : Client} (route : Route client network past start visits)
    (sent : (client.get network past start).state.requests = visits.map Visit.request) :
    client.Asks network past start (visits.map Visit.url) := by
  refine ⟨visits, route, rfl, sent, fun v member anonymous => ?_⟩
  obtain ⟨_, makes⟩ := route.makes member
  exact makes.authorizes anonymous

/-- Whatever the credentials are, a fetch asks for the same URLs in the same words and comes to the
same result, over every network that does not look at the authorization, such as one that follows a
script. The credentials show in the authorization alone, and for a URL of another origin than that of
the start, not even there. -/
theorem get_independent_of_scopes (blind : network.Blind) (past : List Request) (start : String)
    (options : FetchOptions) (first second : Scopes) :
    let one := Client.get ⟨options, first⟩ network past start
    let other := Client.get ⟨options, second⟩ network past start
    one.result = other.result ∧
    one.state.requests.map Request.bare = other.state.requests.map Request.bare ∧
    ∃ urls, Asks ⟨options, first⟩ network past start urls ∧
      Asks ⟨options, second⟩ network past start urls ∧
      ∀ (i : Nat) (url : String), urls[i]? = some url → Url.sameOrigin start url = false →
        ∃ request, one.state.requests[i]? = some request ∧
          other.state.requests[i]? = some request ∧
          (Url.IsAnonymous url → request.authorization = []) := by
  intro one other
  obtain ⟨visits, route, otherRoute, sent, otherSent, same⟩ :=
    get_under blind options first second past start
  refine ⟨same, ?_, visits.map Visit.url, route.asks sent, ?_, fun i url asked foreign => ?_⟩
  · rw [sent, otherSent, List.map_map, List.map_map, List.map_map]
    rfl
  · have asks := otherRoute.asks otherSent
    rw [List.map_map] at asks
    exact asks
  · rw [List.getElem?_map, Option.map_eq_some_iff] at asked
    obtain ⟨v, found, rfl⟩ := asked
    obtain ⟨_, makes⟩ := route.makes (List.mem_of_getElem? found)
    have otherMakes := makes.under second blind
    have equal : (v.under ⟨options, second⟩ start).request = v.request :=
      Request.eq_of_bare rfl ((otherMakes.authorization_of_foreign foreign).trans
        (makes.authorization_of_foreign foreign).symm)
    refine ⟨v.request, ?_, ?_, fun anonymous => ?_⟩
    · rw [sent, List.getElem?_map, found, Option.map_some]
    · rw [otherSent, List.getElem?_map, List.getElem?_map, found, Option.map_some, Option.map_some,
        equal]
    · rw [makes.authorization_of_foreign foreign, makes.own_eq_nil anonymous]

def movedPage : List Script.Entry :=
  [⟨"http://a.test/", 302, [("Location", "http://b.test/")], [], none⟩,
    ⟨"http://b.test/", 200, [], [104, 105], none⟩]

theorem movedPage_independent :
    let network := Script.network movedPage
    let one := Client.get ⟨{}, Scopes.single "http://a.test" (.token "one")⟩ network []
      "http://a.test/"
    let other := Client.get ⟨{}, []⟩ network [] "http://a.test/"
    network.Blind ∧ one.result = other.result ∧
      one.state.requests.map Request.bare = other.state.requests.map Request.bare ∧
      one.state.requests.map Request.authorization = [["Basic b25l"], []] ∧
      other.state.requests.map Request.authorization = [[], []] := by
  intro network one other
  have blind : network.Blind := Script.network_blind movedPage
  obtain ⟨same, alike, _⟩ := get_independent_of_scopes blind [] "http://a.test/" {}
    (Scopes.single "http://a.test" (.token "one")) []
  exact ⟨blind, same, alike, by decide +kernel, by decide +kernel⟩

end Client

end OperatorKit
