import OperatorKit.Url.Path

/-!
Reading URLs, absolute or against a base. Blanks and control characters at both ends do not count,
nor do tabs and line ends anywhere.
-/

namespace OperatorKit.Url

def cleaned (text : String) : List Char :=
  (Text.trim (·.toNat ≤ 0x20) text.toList).filter fun c => c ≠ '\t' && c ≠ '\n' && c ≠ '\x0d'

def isSchemeChar (c : Char) : Bool :=
  c.isAlphanum || c = '+' || c = '-' || c = '.'

/-- A scheme in lower case, and what follows its colon. -/
def splitScheme (text : List Char) : Option (String × List Char) :=
  match text with
  | [] => none
  | c :: _ =>
    match text.dropWhile isSchemeChar with
    | ':' :: rest =>
      if c.isAlpha then some (String.ofList (Domain.lower (text.takeWhile isSchemeChar)), rest)
      else none
    | _ => none

/-- The text of the path, the query and the fragment. -/
structure Tail where
  path : List Char
  query : Option (List Char)
  fragment : Option (List Char)

def splitTail (text : List Char) : Tail :=
  let (text, fragment) := match Text.splitFirst '#' text with
    | some (before, after) => (before, some after)
    | none => (text, none)
  match Text.splitFirst '?' text with
  | some (before, after) => ⟨before, some after, fragment⟩
  | none => ⟨text, none, fragment⟩

def encodedQuery (kind : SchemeKind) (query : List Char) : String :=
  Percent.encode (if kind.isSpecial then Percent.inSpecialQuery else Percent.inQuery) query

def encodedFragment (fragment : List Char) : String :=
  Percent.encode Percent.inFragment fragment

/-- A URL whose query and fragment are those of a tail. -/
def withTail (scheme : String) (authority : Option Authority) (path : UrlPath) (tail : Tail) : Url :=
  { scheme, authority, path, query := tail.query.map (encodedQuery (schemeKind scheme)),
    fragment := tail.fragment.map encodedFragment }

/-- The text up to the last `@`, and what follows it. -/
def splitUserinfo (text : List Char) : Option (List Char × List Char) :=
  (Text.splitFirst '@' text.reverse).map fun (after, before) => (before.reverse, after.reverse)

/-- The user and the password, which may be empty. -/
def userinfo (text : List Char) : String × String :=
  match Text.splitFirst ':' text with
  | some (username, password) =>
    (Percent.encode Percent.inUserinfo username, Percent.encode Percent.inUserinfo password)
  | none => (Percent.encode Percent.inUserinfo text, "")

/-- The text up to the colon of the port, which does not stand in brackets. -/
def splitHost (inBrackets : Bool) : List Char → List Char × List Char
  | [] => ([], [])
  | c :: rest =>
    if c = ':' ∧ ¬inBrackets then ([], c :: rest)
    else
      let (host, rest) := splitHost (if c = '[' then true else if c = ']' then false else inBrackets) rest
      (c :: host, rest)

/-- A port that is not the scheme's own, and what follows it in the text after the host. -/
def port (scheme : String) (text : List Char) : Except UrlError (Option Nat × List Char) :=
  match text with
  | ':' :: text =>
    let digits := text.takeWhile Char.isDigit
    let n := (Digits.number? 10 digits).getD 0
    let rest := text.dropWhile Char.isDigit
    if n < 0x10000 ∧ (rest.isEmpty ∨ rest.head? = some '\\') then .ok (chosen digits n, rest)
    else .error .invalidPort
  | text => .ok (none, text)
where
  chosen (digits : List Char) (n : Nat) : Option Nat :=
    if digits.isEmpty ∨ schemePort? scheme = some n then none else some n

/-- The host and its port after the user, and what follows them. -/
def hostAndPort (scheme : String) (text : List Char) :
    Except UrlError (Option Host × Option Nat × List Char) := do
  let (name, rest) := splitHost false text
  let host ← match schemeKind scheme, name with
    | .other, [] => if rest.isEmpty then pure none else throw .emptyHost
    | .other, name => (Host.parsePlain name).map some
    | _, [] => throw .emptyHost
    | _, name => (Host.parse name).map some
  let (port, rest) ← port scheme rest
  return (host, port, rest)

/-- The path after an authority, which for a special scheme is never empty. -/
def pathAfterAuthority (kind : SchemeKind) (text : List Char) : UrlPath :=
  match text with
  | [] => .segments (if kind.isSpecial then [""] else [])
  | c :: rest => .segments (UrlPath.extend kind [] (if UrlPath.isSlash kind c then rest else text))

def isAuthorityEnd (kind : SchemeKind) (c : Char) : Bool :=
  UrlPath.isSlash kind c || c = '?' || c = '#'

/-- A URL from its authority on. -/
def afterSlashes (scheme : String) (text : List Char) : Except UrlError Url := do
  let kind := schemeKind scheme
  let front := text.takeWhile (!isAuthorityEnd kind ·)
  let back := text.dropWhile (!isAuthorityEnd kind ·)
  let (user, named) := match splitUserinfo front with
    | some (user, named) => (some user, named)
    | none => (none, front)
  if user = some [] ∧ named.isEmpty ∧ ¬back.isEmpty then throw .emptyHost
  let (username, password) := userinfo (user.getD [])
  let (host, port, rest) ← hostAndPort scheme named
  if host = none ∧ ¬(username = "" ∧ password = "") then throw .emptyHost
  let tail := splitTail (rest ++ back)
  return withTail scheme (some ⟨username, password, host, port⟩) (pathAfterAuthority kind tail.path) tail

/-- The host of a file, which is not named if it is this one, and the text of its path. -/
def fileHost (text : List Char) : Except UrlError (Option Host × List Char) :=
  let name := text.takeWhile (!isAuthorityEnd .file ·)
  let rest := text.dropWhile (!isAuthorityEnd .file ·)
  if UrlPath.isDrive name then .ok (none, text)
  else if name.isEmpty then .ok (none, rest)
  else
    match Host.parse name with
    | .error e => .error e
    | .ok host => .ok (if host = .domain "localhost" then none else some host, rest)

/-- A path that begins with a drive has no host. -/
def dropsHost (parts : List String) : Bool :=
  match parts with
  | first :: _ => UrlPath.isDrive first.toList
  | [] => false

/-- The URL of a file, from after the colon of its scheme. -/
def file (text : List Char) : Except UrlError Url := do
  let (host, text) ← match text with
    | c :: d :: rest =>
      if UrlPath.isSlash .file c && UrlPath.isSlash .file d then fileHost rest else pure (none, text)
    | _ => pure (none, text)
  let tail := splitTail text
  let path := match tail.path with
    | c :: rest => if UrlPath.isSlash .file c then rest else tail.path
    | [] => []
  let parts := UrlPath.extend .file [] path
  let host := if dropsHost parts then none else host
  return withTail "file" (some ⟨"", "", host, none⟩) (.segments (UrlPath.withoutEmptyFront parts)) tail

/-- A URL of a scheme without known hosts, from after the colon. -/
def other (scheme : String) (text : List Char) : Except UrlError Url :=
  match text with
  | '/' :: '/' :: rest => afterSlashes scheme rest
  | _ =>
    let tail := splitTail text
    let path := match tail.path with
      | '/' :: rest => .segments (UrlPath.extend .other [] rest)
      | plain => .plain (Percent.encode Percent.isControl plain)
    .ok (withTail scheme none path tail)

/-- A URL from after the colon of its scheme. -/
def absolute (scheme : String) (text : List Char) : Except UrlError Url :=
  match schemeKind scheme with
  | .hosted => afterSlashes scheme (text.dropWhile (UrlPath.isSlash .hosted))
  | .file => file text
  | .other => other scheme text

def parse (text : String) : Except UrlError Url :=
  match splitScheme (cleaned text) with
  | some (scheme, rest) => absolute scheme rest
  | none => .error .relativeWithoutBase

/-- The segments a relative path goes on from. -/
def directory (url : Url) : List String :=
  match url.path with
  | .segments parts => parts.dropLast
  | .plain _ => []

/-- A URL without scheme against a base. -/
def relative (base : Url) (text : List Char) : Except UrlError Url :=
  let kind := schemeKind base.scheme
  let tail := splitTail text
  match text with
  | [] => .ok { base with fragment := none }
  | '#' :: rest => .ok { base with fragment := some (encodedFragment rest) }
  | '?' :: _ => .ok (withTail base.scheme base.authority base.path tail)
  | '/' :: '/' :: rest => afterSlashes base.scheme rest
  | c :: d :: rest =>
    if UrlPath.isSlash .hosted c && UrlPath.isSlash .hosted d then
      afterSlashes base.scheme (rest.dropWhile (UrlPath.isSlash .hosted))
    else .ok (withTail base.scheme base.authority (.segments (path kind tail.path)) tail)
  | _ => .ok (withTail base.scheme base.authority (.segments (path kind tail.path)) tail)
where
  path (kind : SchemeKind) (text : List Char) : List String :=
    match text with
    | c :: rest =>
      if UrlPath.isSlash .hosted c then UrlPath.extend kind [] rest
      else UrlPath.extend kind base.directory text
    | [] => UrlPath.extend kind base.directory []

/-- Whether a base has a path that nothing can be joined to. -/
def isPlain (url : Url) : Bool :=
  match url.path with
  | .plain _ => true
  | .segments _ => false

/-- Reads a URL against a base, as a link on the page of that URL is read. -/
def join (base : Url) (text : String) : Except UrlError Url :=
  let text := cleaned text
  match splitScheme text with
  | some (scheme, rest) =>
    if scheme = base.scheme ∧ schemeKind scheme = .hosted ∧
        (rest.takeWhile (UrlPath.isSlash .hosted)).length < 2 then relative base rest
    else absolute scheme rest
  | none =>
    if base.isPlain ∧ text.head? ≠ some '#' then .error .relativeWithPlainBase
    else relative base text

/-- Whether two texts are URLs of one origin. -/
def sameOrigin (first second : String) : Bool :=
  match parse first, parse second with
  | .ok a, .ok b => a.origin = b.origin
  | _, _ => false

end OperatorKit.Url
