import OperatorKit.Proofs.Http.Redirects

/-!
The counter of redirects, which has 32 bits. It holds the number of redirects that were followed as
long as that fits, and the limit stops a fetch before it does not, unless the limit is the largest
number that the counter can hold. No counter exceeds that limit, so the counter goes around and a
fetch goes on for as long as it is redirected.
-/

namespace OperatorKit.Client

section Definitions

variable (client : Client) (network : Network) (past : List Request) (start : String)

/-- Where a fetch stands that has not ended with so many requests. -/
def Stands (n : Nat) (s : Fetching) : Prop :=
  client.run network past start n (begin start) = ⟨s, none⟩

def Counts (s : Fetching) : Prop :=
  ∃ out response, client.outgoing start s.current = .ok out ∧
    (network.exchange (past ++ s.requests) out.request).response? = some response ∧
    response.Followed

def Overflows : Prop :=
  ∃ n s, client.Stands network past start n s ∧ client.Counts network past start s ∧
    s.redirects.toNat + 1 = UInt32.size

/-- So many requests are answered by a redirect that leads on, and the next one by a redirect. -/
def Redirected (n : Nat) : Prop :=
  ∃ visits v response, Walk client network past start visits v.url ∧ visits.length = n ∧
    Makes client network past start visits v ∧ v.exchange.response? = some response ∧
    response.Followed

end Definitions

variable {client : Client} {network : Network} {past : List Request} {start url : String}
  {visits : List Visit} {n k : Nat} {s : Fetching}

section Counter

theorem run_of_ends {last : List Visit} {result : Except FetchError Page}
    (walk : Walk client network past start visits url) (allowed : client.Allows visits.length)
    (few : visits.length < n)
    (ends : Ends client network past start visits (UInt32.ofNat visits.length) url last result) :
    (client.run network past start n (begin start)).result = some result := by
  obtain ⟨noticed, same⟩ := run_of_walk walk allowed
  have steps : n = visits.length + (n - visits.length - 1 + 1) := by omega
  rw [steps, same, run, step_of_ends ends]

theorem Stands.walk (stands : client.Stands network past start n s) :
    ∃ visits url noticed, Walk client network past start visits url ∧
      client.Allows visits.length ∧ visits.length = n ∧
      s = .after visits url (UInt32.ofNat n) noticed := by
  obtain ⟨visits, url, walk, allowed, long | ⟨few, last, result, ends⟩⟩ :=
    walks_or_ends client network past start n
  · obtain ⟨noticed, same⟩ := run_of_walk walk allowed
    have here := same 0
    rw [Nat.add_zero, long, run] at here
    cases stands.symm.trans here
    exact ⟨visits, url, noticed, walk, allowed, long, rfl⟩
  · have ended := run_of_ends walk allowed few ends
    rw [stands] at ended
    cases ended

theorem stands_of_walk (walk : Walk client network past start visits url)
    (allowed : client.Allows visits.length) :
    ∃ noticed, client.Stands network past start visits.length
      (.after visits url (UInt32.ofNat visits.length) noticed) := by
  obtain ⟨noticed, same⟩ := run_of_walk walk allowed
  exact ⟨noticed, same 0⟩

theorem Stands.counted (stands : client.Stands network past start n s) :
    s.redirects = UInt32.ofNat n ∧ s.requests.length = n := by
  obtain ⟨visits, url, noticed, _, _, rfl, rfl⟩ := stands.walk
  exact ⟨rfl, List.length_map _⟩

theorem counts_after_iff {redirects : UInt32} {noticed : List Warning} :
    client.Counts network past start (.after visits url redirects noticed) ↔
      ∃ v response, v.url = url ∧ Makes client network past start visits v ∧
        v.exchange.response? = some response ∧ response.Followed := by
  constructor
  · rintro ⟨out, response, sends, answer, followed⟩
    exact ⟨⟨url, out, _⟩, response, rfl, ⟨sends, rfl⟩, answer, followed⟩
  · rintro ⟨v, response, rfl, makes, answer, followed⟩
    exact ⟨v.out, response, makes.sends, makes.meets ▸ answer, followed⟩

end Counter

section Limit

theorem allows_of_largest (largest : client.options.maxRedirects.toNat + 1 = UInt32.size) (n : Nat) :
    client.Allows n := by
  intro k _ full
  have more := UInt32.lt_iff_toNat_lt.mp full
  have most := (UInt32.ofNat k + 1).toNat_lt_size
  omega

theorem largest_of_allows (allowed : client.Allows n)
    (more : client.options.maxRedirects.toNat < n) :
    client.options.maxRedirects.toNat + 1 = UInt32.size := by
  have most := client.options.maxRedirects.toNat_lt_size
  refine Decidable.byContradiction fun apart => ?_
  exact absurd (allowed.le (by omega)) (Nat.not_le_of_lt more)

theorem Walk.redirected (walk : Walk client network past start visits url)
    (within : k < visits.length) : client.Redirected network past start k := by
  induction walk with
  | here => exact absurd within (Nat.not_lt_zero k)
  | @visit visits v next walk makes leads ih =>
    rw [List.length_append, List.length_singleton] at within
    rcases Nat.lt_succ_iff_lt_or_eq.mp within with earlier | rfl
    · exact ih earlier
    · obtain ⟨response, _, _, _, answer, followed, _⟩ := leads
      exact ⟨visits, v, response, walk, rfl, makes, answer, followed⟩

theorem overflows_iff : client.Overflows network past start ↔
    client.options.maxRedirects.toNat + 1 = UInt32.size ∧
      client.Redirected network past start client.options.maxRedirects.toNat := by
  constructor
  · rintro ⟨n, s, stands, counts, full⟩
    obtain ⟨visits, url, noticed, walk, allowed, rfl, rfl⟩ := stands.walk
    have most := client.options.maxRedirects.toNat_lt_size
    have held : visits.length % UInt32.size + 1 = UInt32.size := by
      simpa [Fetching.after] using full
    have many : client.options.maxRedirects.toNat ≤ visits.length := by
      have small := Nat.mod_le visits.length UInt32.size
      omega
    -- The counter is full for the first time after as many redirects as the largest limit allows.
    rcases Nat.lt_or_eq_of_le many with before | same
    · exact ⟨largest_of_allows allowed before, walk.redirected before⟩
    · obtain ⟨v, response, rfl, makes, answer, followed⟩ := counts_after_iff.mp counts
      rw [← same, Nat.mod_eq_of_lt most] at held
      exact ⟨held, visits, v, response, walk, same.symm, makes, answer, followed⟩
  · rintro ⟨largest, visits, v, response, walk, count, makes, answer, followed⟩
    obtain ⟨noticed, stands⟩ := stands_of_walk walk (allows_of_largest largest _)
    refine ⟨visits.length, _, stands, counts_after_iff.mpr ⟨v, response, rfl, makes, answer,
      followed⟩, ?_⟩
    rw [count, Fetching.after, UInt32.ofNat_toNat]
    exact largest

/-- Without a result a fetch has followed more redirects than its limit, which is the largest. -/
theorem get_endless_iff : (client.get network past start).result = none ↔
    client.options.maxRedirects.toNat + 1 = UInt32.size ∧
      ∃ visits url, Walk client network past start visits url ∧
        visits.length = client.options.maxRedirects.toNat + 1 := by
  constructor
  · intro endless
    have stands : client.Stands network past start _ (client.get network past start).state :=
      congrArg (Fetch.mk _) endless
    obtain ⟨visits, url, _, walk, allowed, long, _⟩ := stands.walk
    exact ⟨largest_of_allows allowed (by omega), visits, url, walk, long⟩
  · rintro ⟨largest, visits, url, walk, long⟩
    obtain ⟨noticed, same⟩ := get_of_long_walk walk (allows_of_largest largest _) long
    rw [same]

theorem length_requests_get (client : Client) (network : Network) (past : List Request)
    (start : String) :
    (client.get network past start).state.requests.length ≤
      client.options.maxRedirects.toNat + 1 := by
  obtain ⟨visits, url, walk, allowed, long | ⟨few, last, result, ends⟩⟩ :=
    get_cases client network past start
  · obtain ⟨noticed, same⟩ := get_of_long_walk walk allowed long
    simp only [same, Fetching.after, List.length_map, long, Nat.le_refl]
  · obtain ⟨noticed, same⟩ := get_of_ends walk allowed few ends
    have one := ends.length_le
    simp only [same, Fetching.after, List.length_map, List.length_append]
    omega

/-- Under the largest limit a fetch goes on for as long as it is redirected. -/
theorem exists_stands_iff (largest : client.options.maxRedirects.toNat + 1 = UInt32.size) :
    (∃ s, client.Stands network past start n s) ↔
      ∃ visits url, Walk client network past start visits url ∧ visits.length = n := by
  constructor
  · rintro ⟨s, stands⟩
    obtain ⟨visits, url, _, walk, _, long, _⟩ := stands.walk
    exact ⟨visits, url, walk, long⟩
  · rintro ⟨visits, url, walk, rfl⟩
    obtain ⟨_, stands⟩ := stands_of_walk walk (allows_of_largest largest _)
    exact ⟨_, stands⟩

end Limit

/-- While a fetch goes on, its counter is the number of its requests, as far as 32 bits hold it. The
counter overflows if and only if the limit is the largest number it can hold and one redirect more
than that is counted. A fetch ends with at most one request more than redirects are allowed, unless
the limit is the largest and all these requests lead on; under that limit it goes on for as long as
it is redirected. -/
theorem counter_overflows_iff (client : Client) (network : Network) (past : List Request)
    (start : String) :
    let fetch := client.get network past start
    let limit := client.options.maxRedirects.toNat
    (∀ n s, client.Stands network past start n s →
      s.redirects = UInt32.ofNat n ∧ s.requests.length = n) ∧
    (client.Overflows network past start ↔
      limit + 1 = UInt32.size ∧ client.Redirected network past start limit) ∧
    fetch.state.requests.length ≤ limit + 1 ∧
    (fetch.result = none ↔
      limit + 1 = UInt32.size ∧ ∃ visits url, Walk client network past start visits url ∧
        visits.length = limit + 1) ∧
    (limit + 1 = UInt32.size → ∀ n, (∃ s, client.Stands network past start n s) ↔
      ∃ visits url, Walk client network past start visits url ∧ visits.length = n) :=
  ⟨fun _ _ stands => stands.counted, overflows_iff, length_requests_get client network past start,
    get_endless_iff, fun largest _ => exists_stands_iff largest⟩

def carousel : List Script.Entry :=
  [⟨"http://a.test/", 302, [("Location", "/")], [], none⟩]

def patientClient : Client :=
  ⟨{ maxRedirects := 4294967295 }, []⟩

def carouselUrl : Url :=
  ⟨"http", some ⟨"", "", some (.domain "a.test"), none⟩, .segments [""], none, none⟩

theorem carousel_exchange (past : List Request) {request : Request}
    (here : request.url = "http://a.test/") :
    (Script.network carousel).exchange past request = .answered ⟨302, [("Location", "/")], []⟩ := by
  have plain : Script.isSecure "http://a.test/" = false := by decide
  have entries : carousel.filter (·.url = "http://a.test/") = carousel := by decide
  simp only [Script.network, here, plain, entries]
  cases (past.filter (·.url = "http://a.test/")).length with
  | zero => rfl
  | succ n => rfl

theorem carousel_walk (n : Nat) : ∃ visits,
    Walk patientClient (Script.network carousel) [] "http://a.test/" visits "http://a.test/" ∧
      visits.length = n := by
  have sent : ∃ out, patientClient.outgoing "http://a.test/" "http://a.test/" = .ok out ∧
      out.request.url = "http://a.test/" := ⟨_, rfl, rfl⟩
  obtain ⟨out, sends, here⟩ := sent
  have read : Url.parse "http://a.test/" = .ok carouselUrl := rfl
  have joined : carouselUrl.join "/" = .ok carouselUrl := rfl
  induction n with
  | zero => exact ⟨[], .here, rfl⟩
  | succ n ih =>
    obtain ⟨visits, walk, long⟩ := ih
    let v : Visit := ⟨"http://a.test/", out, .answered ⟨302, [("Location", "/")], []⟩⟩
    have makes : Makes patientClient (Script.network carousel) [] "http://a.test/" visits v :=
      ⟨sends, (carousel_exchange _ here).symm⟩
    have leads : v.LeadsTo "http://a.test/" :=
      ⟨_, "/", carouselUrl, carouselUrl, rfl, by decide, by decide +kernel, read, joined, rfl⟩
    exact ⟨visits ++ [v], .visit walk makes leads, by simp [long]⟩

/-- With the largest limit a page that is moved to itself overflows the counter, and the fetch of it
does not end. -/
theorem carousel_overflows :
    patientClient.Overflows (Script.network carousel) [] "http://a.test/" ∧
      ∀ n, ∃ s, patientClient.Stands (Script.network carousel) [] "http://a.test/" n s ∧
        s.requests.length = n := by
  constructor
  · obtain ⟨visits, walk, long⟩ := carousel_walk 4294967296
    exact overflows_iff.mpr ⟨rfl, walk.redirected (by rw [long]; decide)⟩
  · intro n
    obtain ⟨visits, walk, long⟩ := carousel_walk n
    obtain ⟨s, stands⟩ := (exists_stands_iff rfl).mpr ⟨visits, _, walk, long⟩
    exact ⟨s, stands, stands.counted.2⟩

end OperatorKit.Client
