import OperatorKit.Url.Basic

/-!
Paths as they are read. `.` stays where it is and `..` goes one segment up, also if their dots are
percent-encoded. A segment like `C:` names a drive and is never gone up from.
-/

namespace OperatorKit.UrlPath

def isSlash (kind : SchemeKind) (c : Char) : Bool :=
  c = '/' || (kind.isSpecial && c = '\\')

/-- The dots that a segment consists of, where `%2e` is a dot. -/
def dots? : List Char → Option Nat
  | [] => some 0
  | '.' :: rest => (dots? rest).map (· + 1)
  | '%' :: '2' :: 'e' :: rest => (dots? rest).map (· + 1)
  | '%' :: '2' :: 'E' :: rest => (dots? rest).map (· + 1)
  | _ => none

def isDrive : List Char → Bool
  | [c, d] => c.isAlpha && (d = ':' || d = '|')
  | _ => false

/-- The segments without the last. -/
def up (parts : List String) : List String :=
  match parts.getLast? with
  | some last => if isDrive last.toList then parts else parts.dropLast
  | none => []

/-- The text of a segment; a drive that begins the path of a file has a colon. -/
def segment (kind : SchemeKind) (first : Bool) (text : List Char) : String :=
  match text with
  | [c, '|'] => if kind = .file && first && c.isAlpha then String.ofList [c, ':']
    else Percent.encode Percent.inPath text
  | _ => Percent.encode Percent.inPath text

/-- Takes one more segment; the last one leaves an empty segment where it names a directory. -/
def step (kind : SchemeKind) (parts : List String) (text : List Char) (last : Bool) : List String :=
  match dots? text with
  | some 1 => if last then parts ++ [""] else parts
  | some 2 => if last then up parts ++ [""] else up parts
  | _ => parts ++ [segment kind parts.isEmpty text]

def steps (kind : SchemeKind) (parts : List String) : List (List Char) → List String
  | [] => parts
  | [text] => step kind parts text true
  | text :: rest => steps kind (step kind parts text false) rest

/-- Without the empty segments in front of others. -/
def withoutEmptyFront : List String → List String
  | "" :: part :: rest => withoutEmptyFront (part :: rest)
  | parts => parts

/-- The segments of a text that goes on where `parts` end. -/
def extend (kind : SchemeKind) (parts : List String) (text : List Char) : List String :=
  steps kind parts (Text.cutAt (isSlash kind) text)

end OperatorKit.UrlPath
