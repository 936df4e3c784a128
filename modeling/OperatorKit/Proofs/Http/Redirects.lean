import OperatorKit.Http.Script
import OperatorKit.Proofs.Http.Walk

/-!
Redirects and their limit. A fetch makes at most one request more than redirects are allowed, and
what it gives is settled by the chain of answers alone: a page if the chain ends at one, the limit if
every request it allows was answered by a redirect, a missing location if a redirect says nowhere.
-/

namespace OperatorKit

namespace Network

/-- What the network answers to requests made one after the other. A request without an answer is
left out. -/
def answers (network : Network) (past : List Request) : List Request → List Response
  | [] => []
  | request :: rest =>
    (network.exchange past request).response?.toList ++ network.answers (past ++ [request]) rest

theorem answers_append (network : Network) (past first second : List Request) :
    network.answers past (first ++ second) =
      network.answers past first ++ network.answers (past ++ first) second := by
  induction first generalizing past with
  | nil => simp [answers]
  | cons request rest ih => simp [answers, ih]

end Network

namespace Client

variable {client : Client} {network : Network} {past : List Request} {start url : String}
  {visits : List Visit} {v : Visit} {last : List Visit} {result : Except FetchError Page}

theorem overruns_iff {limit : UInt32} {n : Nat} (small : n < UInt32.size - 1) :
    limit < UInt32.ofNat n + 1 ↔ limit.toNat ≤ n := by
  rw [UInt32.lt_iff_toNat_lt, UInt32.toNat_add, UInt32.toNat_ofNat']
  simp only [UInt32.reduceToNat]
  have size : UInt32.size = 4294967296 := rfl
  omega

theorem allows_of_le {n : Nat} (few : n ≤ client.options.maxRedirects.toNat) :
    client.Allows n := by
  intro k below
  have small := client.options.maxRedirects.toNat_lt_size
  rw [overruns_iff (by omega)]
  omega

theorem Allows.le {n : Nat} (allowed : client.Allows n)
    (bounded : client.options.maxRedirects.toNat < UInt32.size - 1) :
    n ≤ client.options.maxRedirects.toNat := by
  refine Nat.le_of_not_lt fun more => allowed client.options.maxRedirects.toNat more ?_
  exact (overruns_iff bounded).mpr (Nat.le_refl _)

theorem get_ends (client : Client) (network : Network) (past : List Request) (start : String)
    (bounded : client.options.maxRedirects.toNat < UInt32.size - 1) :
    ∃ visits url last result noticed, Walk client network past start visits url ∧
      visits.length ≤ client.options.maxRedirects.toNat ∧
      Ends client network past start visits (UInt32.ofNat visits.length) url last result ∧
      client.get network past start =
        ⟨.after (visits ++ last) url (UInt32.ofNat visits.length) noticed, some result⟩ := by
  obtain ⟨visits, url, walk, allowed, long | ⟨few, last, result, ends⟩⟩ :=
    get_cases client network past start
  · exact absurd (allowed.le bounded) (by omega)
  · obtain ⟨noticed, same⟩ := get_of_ends walk allowed few ends
    exact ⟨visits, url, last, result, noticed, walk, few, ends, same⟩

theorem Ends.length_le {redirects : UInt32}
    (ends : Ends client network past start visits redirects url last result) : last.length ≤ 1 := by
  cases ends with
  | unsendable _ => exact Nat.zero_le 1
  | @last v _ _ _ =>
    unfold Visit.arrived
    split <;> simp

theorem get_of_concludes (walk : Walk client network past start visits v.url)
    (few : visits.length ≤ client.options.maxRedirects.toNat)
    (makes : Makes client network past start visits v)
    (concludes : v.Concludes client.options.maxRedirects start (UInt32.ofNat visits.length) result) :
    (client.get network past start).result = some result := by
  obtain ⟨noticed, same⟩ := get_of_ends walk (allows_of_le few) few (.last makes concludes)
  rw [same]

theorem Walk.answers (walk : Walk client network past start visits url) :
    (network.answers past (visits.map Visit.request)).length = visits.length ∧
      ∀ response ∈ network.answers past (visits.map Visit.request), response.Followed := by
  induction walk with
  | here => exact ⟨rfl, fun response member => by cases member⟩
  | @visit visits v next _ makes leads ih =>
    obtain ⟨response, _, _, _, answer, followed, _⟩ := leads
    have final : network.answers (past ++ visits.map Visit.request) [v.request] = [response] := by
      simp [Network.answers, ← makes.meets, answer]
    rw [List.map_append, List.map_cons, List.map_nil, Network.answers_append, final]
    refine ⟨by simp [ih.1], fun r member => ?_⟩
    rcases List.mem_append.mp member with earlier | here
    · exact ih.2 r earlier
    · cases List.mem_singleton.mp here
      exact followed

theorem Makes.answers (makes : Makes client network past start visits v) :
    network.answers (past ++ visits.map Visit.request) (v.arrived.map Visit.request) =
      v.exchange.response?.toList := by
  by_cases refused : v.exchange = .refused
  · simp [Visit.arrived, refused, Network.answers, Exchange.response?]
  · simp [Visit.arrived, refused, Network.answers, ← makes.meets]

/-- A fetch that was answered by a redirect as often as it may make a request overran the limit. -/
theorem Ends.overrun (walk : Walk client network past start visits url)
    (bounded : client.options.maxRedirects.toNat < UInt32.size - 1)
    (few : visits.length ≤ client.options.maxRedirects.toNat)
    (ends : Ends client network past start visits (UInt32.ofNat visits.length) url last result)
    (many : (network.answers past ((visits ++ last).map Visit.request)).length =
      client.options.maxRedirects.toNat + 1)
    (followed : ∀ response ∈ network.answers past ((visits ++ last).map Visit.request),
      response.Followed) :
    result = .error (.tooManyRedirects client.options.maxRedirects.toNat start) := by
  rw [List.map_append, Network.answers_append] at many followed
  rw [List.length_append, walk.answers.1] at many
  cases ends with
  | unsendable _ =>
    simp only [List.map_nil, Network.answers, List.length_nil] at many
    omega
  | @last v _ makes concludes =>
    rw [makes.answers] at many followed
    cases answer : v.exchange.response? with
    | none =>
      simp only [answer, Option.toList_none, List.length_nil] at many
      omega
    | some response =>
      simp only [answer, Option.toList_some, List.length_singleton, List.mem_append,
        List.mem_singleton] at many followed
      have full : client.options.maxRedirects < UInt32.ofNat visits.length + 1 :=
        (overruns_iff (by omega)).mpr (by omega)
      cases concludes with
      | refused exchange | dropped exchange | hung exchange =>
        rw [exchange] at answer
        cases answer
      | overrun _ _ _ => rfl
      | astray _ _ room _ | unreadable _ _ room _ _ => exact absurd full room
      | page exchange terminal | cut exchange terminal =>
        rw [exchange] at answer
        cases answer
        exact absurd (followed _ (Or.inr rfl)) terminal

/-- A walk within the limit whose last answer leads on to nowhere, or once too often, is that of the
fetch. -/
theorem get_requests_of_walk {response : Response}
    (bounded : client.options.maxRedirects.toNat < UInt32.size - 1)
    (walk : Walk client network past start visits v.url)
    (makes : Makes client network past start visits v)
    (answer : v.exchange.response? = some response)
    (few : visits.length ≤ client.options.maxRedirects.toNat)
    (final : response.Followed → response.location? = none ∨
      visits.length = client.options.maxRedirects.toNat) :
    (client.get network past start).state.requests = (visits ++ [v]).map Visit.request := by
  have concludes : ∃ result, v.Concludes client.options.maxRedirects start
      (UInt32.ofNat visits.length) result := by
    rcases v.concludes_or_leads client.options.maxRedirects start (UInt32.ofNat visits.length)
      (outgoing_ok makes.sends).1 answer with ended | ⟨⟨next, leads⟩, room⟩
    · exact ended
    · obtain ⟨_, location, _, _, also, followed, found, _⟩ := leads
      cases answer.symm.trans also
      rcases final followed with none | last
      · cases none.symm.trans found
      · exact absurd ((overruns_iff (by omega)).mpr (Nat.le_of_eq last.symm)) room
  obtain ⟨result, concludes⟩ := concludes
  obtain ⟨noticed, same⟩ := get_of_ends walk (allows_of_le few) few (.last makes concludes)
  rw [same, Visit.arrived_of_answer answer]
  rfl

section Outcome

variable (bounded : client.options.maxRedirects.toNat < UInt32.size - 1)

include bounded

theorem get_requests_le : ∃ visits, Route client network past start visits ∧
    (client.get network past start).state.requests = visits.map Visit.request ∧
    (∀ v ∈ visits, ∃ base, Url.parse v.url = .ok base ∧ v.request.url = base.address) ∧
    (∀ v ∈ visits.dropLast, ∃ next, v.LeadsTo next) ∧
    visits.length ≤ client.options.maxRedirects.toNat + 1 := by
  obtain ⟨visits, url, last, result, noticed, walk, few, ends, same⟩ :=
    get_ends client network past start bounded
  have route := ends.route walk
  refine ⟨visits ++ last, route, by rw [same]; rfl, fun v member => ?_,
    fun v member => route.leads member, ?_⟩
  · obtain ⟨before, makes⟩ := route.makes member
    exact makes.addressed
  · rw [List.length_append]
    exact Nat.add_le_add few ends.length_le

theorem get_page_iff {page : Page} :
    (client.get network past start).result = some (.ok page) ↔
      ∃ visits last response, Walk client network past start visits last.url ∧
        Makes client network past start visits last ∧ last.exchange = .answered response ∧
        ¬ response.Followed ∧ visits.length ≤ client.options.maxRedirects.toNat ∧
        page.url = last.url ∧ page.redirects.toNat = visits.length ∧
        page.status = response.status ∧ page.body = response.body := by
  constructor
  · intro found
    obtain ⟨visits, url, last, result, noticed, walk, few, ends, same⟩ :=
      get_ends client network past start bounded
    rw [same] at found
    cases found
    cases ends with
    | @last v _ makes concludes =>
      cases concludes with
      | @page response exchange terminal =>
        refine ⟨visits, v, response, walk, makes, exchange, terminal, few, rfl, ?_, rfl, rfl⟩
        exact UInt32.toNat_ofNat_of_lt' (Nat.lt_of_le_of_lt few (UInt32.toNat_lt _))
  · rintro ⟨visits, v, response, walk, makes, exchange, terminal, few, here, count, status, body⟩
    rw [get_of_concludes walk few makes (.page exchange terminal), ← here, ← count, ← status,
      ← body, UInt32.ofNat_toNat]

theorem get_overrun_iff {n : Nat} {url : String} :
    (client.get network past start).result = some (.error (.tooManyRedirects n url)) ↔
      n = client.options.maxRedirects.toNat ∧ url = start ∧
        (network.answers past (client.get network past start).state.requests).length =
          client.options.maxRedirects.toNat + 1 ∧
        ∀ response ∈ network.answers past (client.get network past start).state.requests,
          response.Followed := by
  obtain ⟨visits, reached, last, result, noticed, walk, few, ends, same⟩ :=
    get_ends client network past start bounded
  rw [same]
  constructor
  · intro found
    cases found
    cases ends with
    | @last v _ makes concludes =>
      cases concludes with
      | @overrun response answer followed full =>
        have most := (overruns_iff (by omega)).mp full
        have all := walk.answers
        have sent : network.answers past ((visits ++ v.arrived).map Visit.request) =
            network.answers past (visits.map Visit.request) ++ [response] := by
          rw [List.map_append, Network.answers_append, makes.answers, answer, Option.toList_some]
        refine ⟨rfl, rfl, ?_⟩
        simp only [Fetching.after, sent]
        refine ⟨by simp [all.1]; omega, fun r member => ?_⟩
        rcases List.mem_append.mp member with earlier | here
        · exact all.2 r earlier
        · exact List.mem_singleton.mp here ▸ followed
  · rintro ⟨rfl, rfl, many, followed⟩
    rw [ends.overrun walk bounded few many followed]

theorem get_astray_iff {url : String} :
    (client.get network past start).result = some (.error (.missingLocation url)) ↔
      ∃ visits last response, Walk client network past start visits last.url ∧
        Makes client network past start visits last ∧
        last.exchange.response? = some response ∧ response.Followed ∧
        response.location? = none ∧ visits.length < client.options.maxRedirects.toNat ∧
        url = last.url := by
  constructor
  · intro found
    obtain ⟨visits, reached, last, result, noticed, walk, few, ends, same⟩ :=
      get_ends client network past start bounded
    rw [same] at found
    cases found
    cases ends with
    | @last v _ makes concludes =>
      cases concludes with
      | @astray response answer followed room found =>
        rw [overruns_iff (by omega)] at room
        exact ⟨visits, v, response, walk, makes, answer, followed, found, Nat.lt_of_not_le room, rfl⟩
  · rintro ⟨visits, v, response, walk, makes, answer, followed, found, fewer, rfl⟩
    have room := mt (overruns_iff (by omega)).mp (Nat.not_le_of_lt fewer)
    exact get_of_concludes walk (Nat.le_of_lt fewer) makes (.astray answer followed room found)

end Outcome

/-- A fetch below the largest limit ends, after at most one request more than redirects are allowed,
each for the URL to which the answer before leads, and none after an answer that leads nowhere. It
gives a page if and only if the chain of redirects leads to that page within the limit. It reports
the limit if and only if as many requests as it allows were answered, all by redirects; and a missing
location if and only if a redirect within the limit has none, naming the URL that it answered for.
Such a chain is the one that was requested. -/
theorem get_follows_redirects (client : Client) (network : Network) (past : List Request)
    (start : String) (bounded : client.options.maxRedirects.toNat < UInt32.size - 1) :
    let fetch := client.get network past start
    let limit := client.options.maxRedirects.toNat
    (∃ result, fetch.result = some result) ∧
    (∃ visits, Route client network past start visits ∧
      fetch.state.requests = visits.map Visit.request ∧
      (∀ v ∈ visits, ∃ base, Url.parse v.url = .ok base ∧ v.request.url = base.address) ∧
      (∀ v ∈ visits.dropLast, ∃ next, v.LeadsTo next) ∧
      visits.length ≤ limit + 1) ∧
    (∀ page, fetch.result = some (.ok page) ↔
      ∃ visits last response, Walk client network past start visits last.url ∧
        Makes client network past start visits last ∧ last.exchange = .answered response ∧
        ¬ response.Followed ∧ visits.length ≤ limit ∧ page.url = last.url ∧
        page.redirects.toNat = visits.length ∧ page.status = response.status ∧
        page.body = response.body) ∧
    (∀ n url, fetch.result = some (.error (.tooManyRedirects n url)) ↔
      n = limit ∧ url = start ∧
        (network.answers past fetch.state.requests).length = limit + 1 ∧
        ∀ response ∈ network.answers past fetch.state.requests, response.Followed) ∧
    (∀ url, fetch.result = some (.error (.missingLocation url)) ↔
      ∃ visits last response, Walk client network past start visits last.url ∧
        Makes client network past start visits last ∧
        last.exchange.response? = some response ∧ response.Followed ∧
        response.location? = none ∧ visits.length < limit ∧ url = last.url) ∧
    ∀ visits last response, Walk client network past start visits last.url →
      Makes client network past start visits last → last.exchange.response? = some response →
      visits.length ≤ limit →
      (response.Followed → response.location? = none ∨ visits.length = limit) →
      fetch.state.requests = (visits ++ [last]).map Visit.request := by
  refine ⟨?_, get_requests_le bounded, fun page => get_page_iff bounded,
    fun n url => get_overrun_iff bounded, fun url => get_astray_iff bounded,
    fun visits last response walk makes answer few =>
      get_requests_of_walk bounded walk makes answer few⟩
  obtain ⟨_, _, _, result, _, _, _, _, same⟩ := get_ends client network past start bounded
  exact ⟨result, by rw [same]⟩

def bend : Network :=
  Script.network [
    ⟨"http://a.test/", 302, [("Location", "b#c")], [], none⟩,
    ⟨"http://a.test/b", 302, [], [], none⟩]

def bendClient (limit : UInt32) : Client :=
  ⟨{ maxRedirects := limit }, []⟩

theorem bend_overruns :
    ((bendClient 1).get bend [] "http://a.test/").result =
        some (.error (.tooManyRedirects 1 "http://a.test/")) ∧
      ∃ (visits : List Visit) (last : Visit),
        Walk (bendClient 2) bend [] "http://a.test/" visits last.url ∧
          visits.length < 2 ∧ "http://a.test/b#c" = last.url ∧
          ((bendClient 2).get bend [] "http://a.test/").state.requests =
            (visits ++ [last]).map Visit.request := by
  obtain ⟨_, _, _, overrun, _⟩ :=
    get_follows_redirects (bendClient 1) bend [] "http://a.test/" (by decide)
  obtain ⟨_, _, _, _, astray, requested⟩ :=
    get_follows_redirects (bendClient 2) bend [] "http://a.test/" (by decide)
  constructor
  · refine (overrun 1 "http://a.test/").mpr ⟨rfl, rfl, ?_, ?_⟩
    · decide +kernel
    · decide +kernel
  · obtain ⟨visits, last, response, walk, makes, answer, _, nowhere, fewer, here⟩ :=
      (astray "http://a.test/b#c").mp rfl
    exact ⟨visits, last, walk, fewer, here, requested visits last response walk makes answer
      (Nat.le_of_lt fewer) fun _ => Or.inl nowhere⟩

end Client

end OperatorKit
