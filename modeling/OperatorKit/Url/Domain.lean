import OperatorKit.Unicode.Direction
import OperatorKit.Unicode.HostMapping
import OperatorKit.Unicode.Joining
import OperatorKit.Unicode.Normal
import OperatorKit.Text.Split
import OperatorKit.Text.Symbol
import OperatorKit.Url.Error
import OperatorKit.Url.Percent
import OperatorKit.Url.Punycode

/-!
Domain names in ASCII. A name is mapped, normalised and cut into labels; a label that is not ASCII is
written in Punycode, and one that is in Punycode already must have a valid text.
-/

namespace OperatorKit.Domain

/-- ASCII characters that no domain may have. -/
def isForbidden (c : Char) : Bool :=
  Percent.isControl c || " #/:<>?@[\\]^|%".toList.contains c

def isAscii (text : List Char) : Bool :=
  text.all (·.toNat < 0x80)

def lower (text : List Char) : List Char :=
  text.map Char.toLower

/-- What marks a label in Punycode. -/
def encodedMark : List Char := ['x', 'n', '-', '-']

def isEncoded (label : List Char) : Bool :=
  encodedMark.isPrefixOf (lower label)

/-- A joiner stands after a virama, and a non-joiner there or between letters that it keeps apart. -/
def joinersFit (before : List Char) : List Char → Bool
  | [] => true
  | c :: rest =>
    let joins (side : Unicode.Joining) (text : List Char) : Bool :=
      match text.find? fun d => Unicode.joining d ≠ .transparent with
      | some d => Unicode.joining d = side || Unicode.joining d = .dual
      | none => false
    let afterVirama := (before.head?.map Unicode.combiningClass) = some 9
    let fits :=
      if c = Char.ofNat 0x200D then afterVirama
      else if c = Char.ofNat 0x200C then afterVirama || (joins .left before && joins .right rest)
      else true
    fits && joinersFit (c :: before) rest

/-- The rules for labels of a domain with characters written from right to left. -/
def directionFits (label : List Char) : Bool :=
  let directions := label.map Unicode.direction
  let last := (directions.reverse.dropWhile (· = .mark)).head?
  let common : List Unicode.Direction := [.digit, .sign, .separator, .terminator, .neutral, .boundary, .mark]
  match directions.head? with
  | none => true
  | some .left =>
    directions.all (fun d => d = .left || common.contains d) &&
      (last = some .left || last = some .digit)
  | some .right | some .arabic =>
    directions.all (fun d => d = .right || d = .arabic || d = .arabicDigit || common.contains d) &&
      (last = some .right || last = some .arabic || last = some .digit || last = some .arabicDigit) &&
      !(directions.contains .digit && directions.contains .arabicDigit)
  | some _ => false

def hasRightToLeft (label : List Char) : Bool :=
  label.any fun c =>
    match Unicode.direction c with
    | .right | .arabic | .arabicDigit => true
    | _ => false

/-- Whether a label that is no longer in Punycode may stand in a domain. -/
def isValid (label : List Char) : Bool :=
  label.all (fun c => c ≠ '.' && !isForbidden c && Unicode.hostChar? c = some [c]) &&
    !(label.head?.any Unicode.isMark) && Unicode.normal label = label && joinersFit [] label

/-- The text of a label. -/
def labelText? (label : List Char) : Option (List Char) :=
  if isEncoded label then
    match Punycode.decode? (label.drop encodedMark.length) with
    | some text => if isAscii text then none else some text
    | none => none
  else some label

/-- The labels of a domain, mapped, normalised and decoded. -/
def labels? (domain : List Char) : Option (List (List Char)) := do
  let mapped ← domain.mapM Unicode.hostChar?
  let labels ← (Text.cutAt (· = '.') (Unicode.normal mapped.flatten)).mapM labelText?
  guard (labels.all isValid)
  guard (!(labels.any hasRightToLeft) || labels.all directionFits)
  return labels

def labelAscii (label : List Char) : List Char :=
  if isAscii label then label else encodedMark ++ Punycode.encode label

/-- The name in ASCII. One that is ASCII already and has nothing in Punycode is only lowered. -/
def ascii? (domain : List Char) : Option (List Char) :=
  if isAscii domain && !((Text.cutAt (· = '.') domain).any isEncoded) then
    if domain.any isForbidden then none else some (lower domain)
  else (labels? domain).map fun labels => List.intercalate ['.'] (labels.map labelAscii)

/-- The name given by bytes. -/
def ofBytes (bytes : List UInt8) : Except UrlError (List Char) :=
  match (Utf8.characters? (Symbol.ofBytes bytes)).bind ascii? with
  | some name => .ok name
  | none => .error .invalidDomain

end OperatorKit.Domain
