import OperatorKit.Http.Client

/-!
What a fetch does, without its state: it visits one URL after the other, each the one to which the
answer before leads, and ends at the first visit whose answer leads nowhere, or leads on once too
often. A run of the client is such a walk and its end, for every network and every limit.
-/

namespace OperatorKit

def Response.Followed (r : Response) : Prop :=
  301 ≤ r.status ∧ r.status ≤ 399 ∧ r.status ≠ 304

instance (r : Response) : Decidable r.Followed :=
  inferInstanceAs (Decidable (_ ∧ _))

theorem Response.isRedirect_iff {r : Response} : r.isRedirect = true ↔ r.Followed := by
  simp only [isRedirect, Followed, Bool.and_eq_true, decide_eq_true_eq]
  omega

def Exchange.response? : Exchange → Option Response
  | answered response => some response
  | truncated response => some response
  | _ => none

theorem Exchange.response?_eq_some {exchange : Exchange} {response : Response}
    (answer : exchange.response? = some response) :
    exchange = answered response ∨ exchange = truncated response := by
  cases exchange with
  | answered r => exact Or.inl (congrArg _ (Option.some.inj answer))
  | truncated r => exact Or.inr (congrArg _ (Option.some.inj answer))
  | _ => cases answer

def Url.address (url : Url) : String :=
  { url.splitCredentials.2 with fragment := none }.text

namespace Client

structure Visit where
  url : String
  out : Outgoing
  exchange : Exchange

namespace Visit

def request (v : Visit) : Request :=
  v.out.request

/-- A refused connection lets no request through. -/
def arrived (v : Visit) : List Visit :=
  if v.exchange = .refused then [] else [v]

def failure (v : Visit) : String :=
  "error sending request for url (" ++ v.out.url.text ++ ")"

/-- The answer is a redirect, and its location, read as a link on the page of this visit, is the
next URL. -/
def LeadsTo (v : Visit) (next : String) : Prop :=
  ∃ response location base target, v.exchange.response? = some response ∧ response.Followed ∧
    response.location? = some location ∧ Url.parse v.url = .ok base ∧
    base.join location = .ok target ∧ next = target.text

inductive Concludes (limit : UInt32) (start : String) (redirects : UInt32) (v : Visit) :
    Except FetchError Page → Prop where
  | refused : v.exchange = .refused →
      Concludes limit start redirects v (.error (.network ("Connection failed: " ++ v.failure)))
  | dropped : v.exchange = .dropped →
      Concludes limit start redirects v (.error (.network v.failure))
  | hung : v.exchange = .hung →
      Concludes limit start redirects v (.error (.timeout v.out.url.text))
  | overrun {response : Response} : v.exchange.response? = some response → response.Followed →
      limit < redirects + 1 →
        Concludes limit start redirects v (.error (.tooManyRedirects limit.toNat start))
  | astray {response : Response} : v.exchange.response? = some response → response.Followed →
      ¬ limit < redirects + 1 → response.location? = none →
        Concludes limit start redirects v (.error (.missingLocation v.url))
  | unreadable {response : Response} {location : String} {e : UrlError} :
      v.exchange.response? = some response → response.Followed → ¬ limit < redirects + 1 →
      response.location? = some location → v.out.base.join location = .error e →
        Concludes limit start redirects v (.error (.invalidUrl location e.message))
  | page {response : Response} : v.exchange = .answered response → ¬ response.Followed →
      Concludes limit start redirects v (.ok ⟨v.url, response.status, redirects, response.body⟩)
  | cut {response : Response} : v.exchange = .truncated response → ¬ response.Followed →
      Concludes limit start redirects v (.error (.network "error decoding response body"))

theorem arrived_of_answer {v : Visit} {response : Response}
    (answer : v.exchange.response? = some response) : v.arrived = [v] := by
  refine if_neg fun refused => ?_
  rw [refused] at answer
  cases answer

theorem concludes_or_leads {v : Visit} {response : Response} (limit : UInt32) (start : String)
    (redirects : UInt32) (read : Url.parse v.url = .ok v.out.base)
    (answer : v.exchange.response? = some response) :
    (∃ result, v.Concludes limit start redirects result) ∨
      (∃ next, v.LeadsTo next) ∧ ¬ limit < redirects + 1 := by
  by_cases followed : response.Followed
  · by_cases full : limit < redirects + 1
    · exact Or.inl ⟨_, .overrun answer followed full⟩
    · cases found : response.location? with
      | none => exact Or.inl ⟨_, .astray answer followed full found⟩
      | some location =>
        cases joined : v.out.base.join location with
        | error e => exact Or.inl ⟨_, .unreadable answer followed full found joined⟩
        | ok target =>
          exact Or.inr ⟨⟨target.text, response, location, v.out.base, target, answer, followed,
            found, read, joined, rfl⟩, full⟩
  · rcases Exchange.response?_eq_some answer with exchange | exchange
    · exact Or.inl ⟨_, .page exchange followed⟩
    · exact Or.inl ⟨_, .cut exchange followed⟩

end Visit

variable (client : Client) (network : Network) (past : List Request) (start : String)

/-- After some visits, a visit sends what the client sends for its URL, and the network does with it
what it does after all that it was asked before. -/
structure Makes (visits : List Visit) (v : Visit) : Prop where
  sends : client.outgoing start v.url = .ok v.out
  meets : v.exchange = network.exchange (past ++ visits.map Visit.request) v.request

inductive Walk : List Visit → String → Prop where
  | here : Walk [] start
  | visit {visits : List Visit} {v : Visit} {next : String} :
      Walk visits v.url → Makes client network past start visits v → v.LeadsTo next →
        Walk (visits ++ [v]) next

/-- How a fetch ends at a URL to which some visits have led, and the visit to it if one arrives. -/
inductive Ends (visits : List Visit) (redirects : UInt32) :
    String → List Visit → Except FetchError Page → Prop where
  | unsendable {url reason : String} : client.outgoing start url = .error reason →
      Ends visits redirects url [] (.error (.network reason))
  | last {v : Visit} {result : Except FetchError Page} : Makes client network past start visits v →
      v.Concludes client.options.maxRedirects start redirects result →
        Ends visits redirects v.url v.arrived result

/-- The visits of a whole fetch: those of a walk and maybe one more, to where it leads. -/
def Route (visits : List Visit) : Prop :=
  (∃ url, Walk client network past start visits url) ∨
    ∃ before last, visits = before ++ [last] ∧ Walk client network past start before last.url ∧
      Makes client network past start before last

def Allows (redirects : Nat) : Prop :=
  ∀ k < redirects, ¬ client.options.maxRedirects < UInt32.ofNat k + 1

def Fetching.after (visits : List Visit) (url : String) (redirects : UInt32)
    (noticed : List Warning) : Fetching :=
  ⟨url, redirects, visits.map Visit.request, noticed⟩

variable {client network past start} {visits : List Visit} {v : Visit} {redirects : UInt32}
  {url : String} {noticed : List Warning}

theorem outgoing_ok {out : Outgoing} (sends : client.outgoing start url = .ok out) :
    Url.parse url = .ok out.base ∧ out.url = out.base.splitCredentials.2 ∧
      out.request = {
        url := { out.url with fragment := none }.text
        accept := client.options.accept.getD "*/*"
        authorization := (out.base.splitCredentials.1.toList ++
          (client.credentialsFor start url).toList).map Credentials.header
        userAgent := client.options.userAgent } := by
  unfold outgoing at sends
  split at sends
  · cases sends
  · rename_i base read
    dsimp only at sends
    split at sends
    · cases sends
    · split at sends
      · cases sends
      · split at sends
        · cases sends
        · cases sends
          exact ⟨read, rfl, rfl⟩

theorem Makes.addressed (makes : Makes client network past start visits v) :
    ∃ base, Url.parse v.url = .ok base ∧ v.request.url = base.address := by
  obtain ⟨read, bare, request⟩ := outgoing_ok makes.sends
  exact ⟨v.out.base, read, by rw [Visit.request, request, bare]; rfl⟩

/-- From every URL a fetch ends or goes on. -/
theorem ends_or_leads (client : Client) (network : Network) (past : List Request) (start : String)
    (visits : List Visit) (redirects : UInt32) (url : String) :
    (∃ last result, Ends client network past start visits redirects url last result) ∨
      ∃ v next, v.url = url ∧ Makes client network past start visits v ∧ v.LeadsTo next ∧
        ¬ client.options.maxRedirects < redirects + 1 := by
  cases sends : client.outgoing start url with
  | error reason => exact Or.inl ⟨[], _, .unsendable sends⟩
  | ok out =>
    let v : Visit :=
      ⟨url, out, network.exchange (past ++ visits.map Visit.request) out.request⟩
    have makes : Makes client network past start visits v := ⟨sends, rfl⟩
    have decided : (∃ result, v.Concludes client.options.maxRedirects start redirects result) ∨
        (∃ next, v.LeadsTo next) ∧ ¬ client.options.maxRedirects < redirects + 1 := by
      cases exchange : v.exchange with
      | refused => exact Or.inl ⟨_, .refused exchange⟩
      | dropped => exact Or.inl ⟨_, .dropped exchange⟩
      | hung => exact Or.inl ⟨_, .hung exchange⟩
      | answered response =>
        exact v.concludes_or_leads _ _ _ (outgoing_ok sends).1 (congrArg Exchange.response? exchange)
      | truncated response =>
        exact v.concludes_or_leads _ _ _ (outgoing_ok sends).1 (congrArg Exchange.response? exchange)
    rcases decided with ⟨result, concludes⟩ | ⟨⟨next, leads⟩, room⟩
    · exact Or.inl ⟨_, _, .last makes concludes⟩
    · exact Or.inr ⟨v, next, rfl, makes, leads, room⟩

section Step

theorem step_of_makes (makes : Makes client network past start visits v) :
    client.step network past start (.after visits v.url redirects noticed) =
      let noticed := noticed ++ client.warnings start v.url
      match v.exchange with
      | .refused => .done (.after visits v.url redirects noticed)
          (.error (.network ("Connection failed: " ++ v.failure)))
      | .dropped => .done (.after (visits ++ [v]) v.url redirects noticed)
          (.error (.network v.failure))
      | .hung => .done (.after (visits ++ [v]) v.url redirects noticed)
          (.error (.timeout v.out.url.text))
      | .answered response =>
        client.receive start (.after (visits ++ [v]) v.url redirects noticed) v.out.base response true
      | .truncated response =>
        client.receive start (.after (visits ++ [v]) v.url redirects noticed) v.out.base response
          false := by
  have sent : (visits ++ [v]).map Visit.request = visits.map Visit.request ++ [v.out.request] := by
    simp [Visit.request]
  have meets : network.exchange (past ++ visits.map Visit.request) v.out.request = v.exchange :=
    makes.meets.symm
  simp only [step, Fetching.after, makes.sends, meets, sent]
  rfl

theorem step_of_answer {response : Response} (makes : Makes client network past start visits v)
    (answer : v.exchange.response? = some response) :
    ∃ complete, client.step network past start (.after visits v.url redirects noticed) =
      client.receive start
        (.after (visits ++ [v]) v.url redirects (noticed ++ client.warnings start v.url))
        v.out.base response complete := by
  rw [step_of_makes makes]
  rcases Exchange.response?_eq_some answer with exchange | exchange
  · exact ⟨true, by rw [exchange]⟩
  · exact ⟨false, by rw [exchange]⟩

theorem step_of_leads {next : String} (makes : Makes client network past start visits v)
    (leads : v.LeadsTo next) (room : ¬ client.options.maxRedirects < redirects + 1) :
    client.step network past start (.after visits v.url redirects noticed) =
      .next (.after (visits ++ [v]) next (redirects + 1)
        (noticed ++ client.warnings start v.url)) := by
  obtain ⟨response, location, base, target, answer, followed, found, read, joined, rfl⟩ := leads
  cases read.symm.trans (outgoing_ok makes.sends).1
  obtain ⟨complete, received⟩ := step_of_answer makes answer
  rw [received]
  simp [receive, Fetching.after, Response.isRedirect_iff.mpr followed, room, found, joined]

theorem step_of_concludes {result : Except FetchError Page}
    (makes : Makes client network past start visits v)
    (concludes : v.Concludes client.options.maxRedirects start redirects result) :
    client.step network past start (.after visits v.url redirects noticed) =
      .done (.after (visits ++ v.arrived) v.url redirects
        (noticed ++ client.warnings start v.url)) result := by
  cases concludes with
  | refused exchange | dropped exchange | hung exchange =>
    simp [step_of_makes makes, exchange, Visit.arrived]
  | overrun answer followed full =>
    obtain ⟨complete, received⟩ := step_of_answer makes answer
    rw [received, Visit.arrived_of_answer answer]
    simp [receive, Fetching.after, Response.isRedirect_iff.mpr followed, full]
  | astray answer followed room found =>
    obtain ⟨complete, received⟩ := step_of_answer makes answer
    rw [received, Visit.arrived_of_answer answer]
    simp [receive, Fetching.after, Response.isRedirect_iff.mpr followed, room, found]
  | unreadable answer followed room found joined =>
    obtain ⟨complete, received⟩ := step_of_answer makes answer
    rw [received, Visit.arrived_of_answer answer]
    simp [receive, Fetching.after, Response.isRedirect_iff.mpr followed, room, found, joined]
  | page exchange terminal | cut exchange terminal =>
    rw [step_of_makes makes, Visit.arrived, exchange]
    simp [receive, Fetching.after, mt Response.isRedirect_iff.mp terminal]

theorem step_of_ends {last : List Visit} {result : Except FetchError Page}
    (ends : Ends client network past start visits redirects url last result) :
    client.step network past start (.after visits url redirects noticed) =
      .done (.after (visits ++ last) url redirects (noticed ++ client.warnings start url))
        result := by
  cases ends with
  | unsendable refused => simp [step, Fetching.after, refused]
  | last makes concludes => exact step_of_concludes makes concludes

end Step

/-- A run goes where its walk goes, as long as the limit allows it. -/
theorem run_of_walk (walk : Walk client network past start visits url)
    (allowed : client.Allows visits.length) :
    ∃ noticed, ∀ n, client.run network past start (visits.length + n) (begin start) =
      client.run network past start n
        (.after visits url (UInt32.ofNat visits.length) noticed) := by
  induction walk with
  | here => exact ⟨[], fun n => by rw [List.length_nil, Nat.zero_add]; rfl⟩
  | @visit visits v next _ makes leads ih =>
    rw [List.length_append, List.length_singleton] at allowed ⊢
    obtain ⟨noticed, same⟩ := ih fun k below => allowed k (Nat.lt_succ_of_lt below)
    refine ⟨noticed ++ client.warnings start v.url, fun n => ?_⟩
    have room := allowed visits.length (Nat.lt_succ_self _)
    rw [Nat.add_assoc, Nat.add_comm 1 n, same, run, step_of_leads makes leads room,
      UInt32.ofNat_add]
    rfl

theorem walks_or_ends (client : Client) (network : Network) (past : List Request) (start : String)
    (n : Nat) :
    ∃ visits url, Walk client network past start visits url ∧ client.Allows visits.length ∧
      (visits.length = n ∨ visits.length < n ∧ ∃ last result,
        Ends client network past start visits (UInt32.ofNat visits.length) url last result) := by
  induction n with
  | zero => exact ⟨[], start, .here, fun _ below => absurd below (Nat.not_lt_zero _), Or.inl rfl⟩
  | succ n ih =>
    obtain ⟨visits, url, walk, allowed, long | ⟨short, ends⟩⟩ := ih
    · rcases ends_or_leads client network past start visits (UInt32.ofNat visits.length) url with
        ends | ⟨v, next, rfl, makes, leads, room⟩
      · exact ⟨visits, url, walk, allowed, Or.inr ⟨long ▸ Nat.lt_succ_self _, ends⟩⟩
      · refine ⟨visits ++ [v], next, .visit walk makes leads, fun k below => ?_, Or.inl ?_⟩
        · rw [List.length_append, List.length_singleton] at below
          rcases Nat.lt_succ_iff_lt_or_eq.mp below with earlier | rfl
          · exact allowed k earlier
          · exact room
        · rw [List.length_append, List.length_singleton, long]
    · exact ⟨visits, url, walk, allowed, Or.inr ⟨Nat.lt_succ_of_lt short, ends⟩⟩

theorem get_of_ends {last : List Visit} {result : Except FetchError Page}
    (walk : Walk client network past start visits url) (allowed : client.Allows visits.length)
    (few : visits.length ≤ client.options.maxRedirects.toNat)
    (ends : Ends client network past start visits (UInt32.ofNat visits.length) url last result) :
    ∃ noticed, client.get network past start =
      ⟨.after (visits ++ last) url (UInt32.ofNat visits.length) noticed, some result⟩ := by
  obtain ⟨noticed, same⟩ := run_of_walk walk allowed
  refine ⟨noticed ++ client.warnings start url, ?_⟩
  have steps : client.options.maxRedirects.toNat + 1 =
      visits.length + (client.options.maxRedirects.toNat - visits.length + 1) := by omega
  rw [get, steps, same, run, step_of_ends ends]

theorem get_of_long_walk (walk : Walk client network past start visits url)
    (allowed : client.Allows visits.length)
    (long : visits.length = client.options.maxRedirects.toNat + 1) :
    ∃ noticed, client.get network past start =
      ⟨.after visits url (UInt32.ofNat visits.length) noticed, none⟩ := by
  obtain ⟨noticed, same⟩ := run_of_walk walk allowed
  refine ⟨noticed, ?_⟩
  rw [get, ← long]
  exact same 0

/-- A fetch is a walk that the limit allows, and its end unless the walk is as long as the fetch. -/
theorem get_cases (client : Client) (network : Network) (past : List Request) (start : String) :
    ∃ visits url, Walk client network past start visits url ∧ client.Allows visits.length ∧
      (visits.length = client.options.maxRedirects.toNat + 1 ∨
        visits.length ≤ client.options.maxRedirects.toNat ∧ ∃ last result,
          Ends client network past start visits (UInt32.ofNat visits.length) url last result) := by
  obtain ⟨visits, url, walk, allowed, long | ⟨short, ends⟩⟩ :=
    walks_or_ends client network past start (client.options.maxRedirects.toNat + 1)
  · exact ⟨visits, url, walk, allowed, Or.inl long⟩
  · exact ⟨visits, url, walk, allowed, Or.inr ⟨Nat.le_of_lt_succ short, ends⟩⟩

theorem Ends.route {last : List Visit} {result : Except FetchError Page}
    (walk : Walk client network past start visits url)
    (ends : Ends client network past start visits redirects url last result) :
    Route client network past start (visits ++ last) := by
  cases ends with
  | unsendable _ => exact Or.inl ⟨url, (List.append_nil visits).symm ▸ walk⟩
  | @last v _ makes _ =>
    by_cases refused : v.exchange = .refused
    · rw [Visit.arrived, if_pos refused, List.append_nil]
      exact Or.inl ⟨v.url, walk⟩
    · rw [Visit.arrived, if_neg refused]
      exact Or.inr ⟨visits, v, rfl, walk, makes⟩

theorem Walk.made (walk : Walk client network past start visits url) (member : v ∈ visits) :
    ∃ before next, Makes client network past start before v ∧ v.LeadsTo next := by
  induction walk with
  | here => cases member
  | visit _ makes leads ih =>
    rcases List.mem_append.mp member with earlier | last
    · exact ih earlier
    · cases List.mem_singleton.mp last
      exact ⟨_, _, makes, leads⟩

theorem Walk.begins (walk : Walk client network past start visits url) :
    (visits.map Visit.url ++ [url]).head? = some start := by
  induction walk with
  | here => rfl
  | visit _ _ _ ih =>
    rw [List.map_append, List.map_singleton, List.head?_append, ih]
    rfl

theorem Route.begins (route : Route client network past start visits)
    (first : visits.head? = some v) : v.url = start := by
  obtain ⟨url, walk⟩ | ⟨before, last, rfl, walk, _⟩ := route
  · have begins := walk.begins
    rw [List.head?_append, List.head?_map, first] at begins
    exact Option.some.inj begins
  · have begins := walk.begins
    rw [← List.map_singleton, ← List.map_append, List.head?_map, first] at begins
    exact Option.some.inj begins

theorem Route.makes (route : Route client network past start visits) (member : v ∈ visits) :
    ∃ before, Makes client network past start before v := by
  obtain ⟨url, walk⟩ | ⟨before, last, rfl, walk, makes⟩ := route
  · obtain ⟨earlier, _, makes, _⟩ := walk.made member
    exact ⟨earlier, makes⟩
  · rcases List.mem_append.mp member with earlier | final
    · obtain ⟨earlier, _, makes, _⟩ := walk.made earlier
      exact ⟨earlier, makes⟩
    · exact ⟨before, List.mem_singleton.mp final ▸ makes⟩

theorem Route.leads (route : Route client network past start visits)
    (member : v ∈ visits.dropLast) : ∃ next, v.LeadsTo next := by
  obtain ⟨url, walk⟩ | ⟨before, last, rfl, walk, _⟩ := route
  · obtain ⟨_, next, _, leads⟩ := walk.made (List.dropLast_subset _ member)
    exact ⟨next, leads⟩
  · rw [List.dropLast_concat] at member
    obtain ⟨_, next, _, leads⟩ := walk.made member
    exact ⟨next, leads⟩

theorem get_route (client : Client) (network : Network) (past : List Request) (start : String) :
    ∃ visits, Route client network past start visits ∧
      (client.get network past start).state.requests = visits.map Visit.request := by
  obtain ⟨visits, url, walk, allowed, long | ⟨few, last, result, ends⟩⟩ :=
    get_cases client network past start
  · obtain ⟨noticed, same⟩ := get_of_long_walk walk allowed long
    exact ⟨visits, Or.inl ⟨url, walk⟩, by rw [same]; rfl⟩
  · obtain ⟨noticed, same⟩ := get_of_ends walk allowed few ends
    exact ⟨visits ++ last, ends.route walk, by rw [same]; rfl⟩

end Client

end OperatorKit
