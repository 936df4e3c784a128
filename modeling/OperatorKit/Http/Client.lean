import OperatorKit.Http.Error
import OperatorKit.Http.Network
import OperatorKit.Http.Scope
import OperatorKit.Json.Decoder
import OperatorKit.Url.Reading

/-!
A client that follows redirects up to a limit. Scoped credentials are sent only to the origin of the
first URL.
-/

namespace OperatorKit

structure FetchOptions where
  accept : Option String := none
  maxRedirects : UInt32 := 5
  userAgent : String := "adviser/0.1.0"
deriving DecidableEq, Repr

structure Client where
  options : FetchOptions
  scopes : Scopes

/-- What answers a fetch in the end. -/
structure Page where
  url : String
  status : Nat
  redirects : UInt32
  body : List UInt8
deriving DecidableEq, Repr

namespace Page

def isSuccess (p : Page) : Bool :=
  200 ≤ p.status && p.status < 300

/-- Decodes the body, whatever the status. -/
def decode {α : Type} (p : Page) (d : Json.Decoder α) : Except FetchError α :=
  (d.parseBytes p.body).mapError fun e => .decode p.url e.message

def requireSuccess (p : Page) : Except FetchError Page :=
  if p.isSuccess then .ok p else .error (.status p.status p.url)

end Page

/-- Something that was noticed and did not stop the work. -/
inductive Warning where
  | leftOrigin (start current : String)
  | status (url : String) (code : Nat)
  | noTag (repository : String) (code : Nat)
deriving DecidableEq, Repr

def Warning.message : Warning → String
  | leftOrigin start current =>
    "Cross-origin redirect from " ++ start ++ " to " ++ current ++ " - credentials not forwarded"
  | status url code => "status: " ++ url ++ " " ++ Digits.decimal code
  | noTag repository code =>
    "no tag_name in latest release of " ++ repository ++ " (HTTP " ++ Digits.decimal code ++ ")"

def isHeaderValue (text : String) : Bool :=
  text.toList.all fun c => c = '\t' || (0x20 ≤ c.toNat && c.toNat ≠ 0x7F)

namespace Url

/-- The text that a part of the userinfo stands for, if it is UTF-8. -/
def decoded? (part : String) : Option String :=
  Utf8.decode? (Percent.decode (Utf8.encode part))

/-- The user and password in a URL, and the URL without them. -/
def splitCredentials (url : Url) : Option Credentials × Url :=
  let found := do
    let a ← url.authority
    let username ← decoded? a.username
    let password := if a.password = "" then none else decoded? a.password
    guard (username ≠ "" ∨ password.isSome)
    return (Credentials.basic username (password.getD ""),
      { url with authority := some { a with username := "", password := "" } })
  match found with
  | some (credentials, url) => (some credentials, url)
  | none => (none, url)

def isFetchable (url : Url) : Bool :=
  let host := match url.host? with
    | some (.domain name) => !(name.toList.any ("\"\x60\x7b\x7d".toList.contains ·))
    | _ => true
  (url.scheme = "http" || url.scheme = "https") && host && url.text.utf8ByteSize ≤ 65534

end Url

namespace Client

/-- A client, if its name can be sent. -/
def build (options : FetchOptions) (scopes : Scopes) : Except FetchError Client :=
  if isHeaderValue options.userAgent then .ok ⟨options, scopes⟩
  else .error (.clientBuild "builder error")

structure Outgoing where
  /-- The URL as it is given, against which a redirect is read. -/
  base : Url
  /-- The URL without user and password. -/
  url : Url
  request : Request

/-- The credentials for a URL in a fetch that began at another. -/
def credentialsFor (client : Client) (start current : String) : Option Credentials :=
  if Url.sameOrigin start current then client.scopes.credentials? current else none

/-- The request for a URL in a fetch that began at another, or why none can be made. -/
def outgoing (client : Client) (start current : String) : Except String Outgoing :=
  let refused (url : Url) : String := "builder error for url (" ++ url.text ++ ")"
  match Url.parse current with
  | .error _ => .error "builder error"
  | .ok base =>
    if base.host?.isNone then .error (refused base)
    else if !(client.options.accept.all isHeaderValue) then .error "builder error"
    else
      let (own, url) := base.splitCredentials
      if !url.isFetchable then .error (refused url)
      else
        .ok {
          base, url
          request := {
            url := { url with fragment := none }.text
            accept := client.options.accept.getD "*/*"
            authorization :=
              (own.toList ++ (client.credentialsFor start current).toList).map Credentials.header
            userAgent := client.options.userAgent } }

/-- Where a fetch stands between two requests. -/
structure Fetching where
  current : String
  redirects : UInt32
  requests : List Request
  warnings : List Warning
deriving DecidableEq, Repr

inductive Step where
  | next (state : Fetching)
  | done (state : Fetching) (result : Except FetchError Page)

def begin (url : String) : Fetching :=
  ⟨url, 0, [], []⟩

/-- What follows from the response to a request; the counter of redirects has 32 bits. -/
def receive (client : Client) (start : String) (s : Fetching) (base : Url) (response : Response)
    (complete : Bool) : Step :=
  if response.isRedirect then
    let redirects := s.redirects + 1
    if client.options.maxRedirects < redirects then
      .done s (.error (.tooManyRedirects client.options.maxRedirects.toNat start))
    else
      match response.location? with
      | none => .done s (.error (.missingLocation s.current))
      | some location =>
        match base.join location with
        | .error e => .done s (.error (.invalidUrl location e.message))
        | .ok url => .next { s with current := url.text, redirects }
  else if complete then .done s (.ok ⟨s.current, response.status, s.redirects, response.body⟩)
  else .done s (.error (.network "error decoding response body"))

/-- A warning if credentials are held back. -/
def warnings (client : Client) (start current : String) : List Warning :=
  if !Url.sameOrigin start current && !client.scopes.isEmpty then [.leftOrigin start current] else []

/-- Makes the next request of a fetch after `past` requests of others. -/
def step (client : Client) (network : Network) (past : List Request) (start : String)
    (s : Fetching) : Step :=
  let s := { s with warnings := s.warnings ++ client.warnings start s.current }
  match client.outgoing start s.current with
  | .error reason => .done s (.error (.network reason))
  | .ok out =>
    let arrived := { s with requests := s.requests ++ [out.request] }
    let failed := "error sending request for url (" ++ out.url.text ++ ")"
    match network.exchange (past ++ s.requests) out.request with
    | .refused => .done s (.error (.network ("Connection failed: " ++ failed)))
    | .dropped => .done arrived (.error (.network failed))
    | .hung => .done arrived (.error (.timeout out.url.text))
    | .answered response => client.receive start arrived out.base response true
    | .truncated response => client.receive start arrived out.base response false

/-- A fetch after a number of requests at most, with its result if it has come to one. -/
structure Fetch where
  state : Fetching
  result : Option (Except FetchError Page)

def run (client : Client) (network : Network) (past : List Request) (start : String) :
    Nat → Fetching → Fetch
  | 0, s => ⟨s, none⟩
  | n + 1, s =>
    match client.step network past start s with
    | .done s result => ⟨s, some result⟩
    | .next s => run client network past start n s

/-- Fetches a URL with at most one request more than redirects are allowed. There is no result if
the counter of redirects went around. -/
def get (client : Client) (network : Network) (past : List Request) (url : String) : Fetch :=
  client.run network past url (client.options.maxRedirects.toNat + 1) (begin url)

end Client

end OperatorKit
