import OperatorKit.Url.Ipv4

/-!
IPv6 addresses: eight groups of up to four hexadecimal digits. `::` stands for groups of zeros, one
at least, and the last two groups may be a dotted IPv4 address.
-/

namespace OperatorKit.Ipv6

/-- What stands before and after the first double colon. -/
def splitGap : List Char → Option (List Char × List Char)
  | ':' :: ':' :: rest => some ([], rest)
  | [] => none
  | c :: rest => (splitGap rest).map fun (before, after) => (c :: before, after)

/-- The groups between colons; nothing has none. -/
def groups (text : List Char) : List (List Char) :=
  if text.isEmpty then [] else Text.cutAt (· = ':') text

def word? (group : List Char) : Option Nat :=
  if group.isEmpty ∨ 4 < group.length then none else Digits.number? 16 group

/-- A decimal number of one byte without leading zeros. -/
def byte? (text : List Char) : Option Nat :=
  if text.isEmpty ∨ 3 < text.length ∨ (text.head? = some '0' ∧ text.length ≠ 1) then none
  else (Digits.number? 10 text).filter (· < 256)

/-- The two words of a dotted address. -/
def dotted? (group : List Char) : Option (List Nat) :=
  match (Ipv4.parts group).mapM byte? with
  | some [a, b, c, d] => some [a * 256 + b, c * 256 + d]
  | _ => none

/-- The words of groups, of which the last may be dotted if `tail` is set. -/
def words? (tail : Bool) : List (List Char) → Option (List Nat)
  | [] => some []
  | [g] => if tail && g.contains '.' then dotted? g else (word? g).map ([·])
  | g :: rest => do return (← word? g) :: (← words? tail rest)

def parse (text : List Char) : Except UrlError (List Nat) :=
  let found : Option (List Nat) :=
    match splitGap text with
    | none => do
      let ws ← words? true (groups text)
      guard (ws.length = 8)
      return ws
    | some (before, after) => do
      let front ← words? false (groups before)
      let back ← words? true (groups after)
      guard (front.length + back.length < 8)
      return front ++ List.replicate (8 - front.length - back.length) 0 ++ back
  match found with
  | some ws => .ok ws
  | none => .error .invalidIpv6

/-- Start and length of the first longest run of zeros. -/
def longestZeros (index : Nat) (words : List Nat) : Nat × Nat :=
  match words with
  | [] => (index, 0)
  | w :: rest =>
    let here := ((w :: rest).takeWhile (· = 0)).length
    let later := longestZeros (index + 1) rest
    if later.2 ≤ here then (index, here) else later

def joined (words : List Nat) : String :=
  String.intercalate ":" (words.map Digits.hexadecimal)

/-- Lower-case groups, where the first longest run of two zeros or more is left out. -/
def text (words : List Nat) : String :=
  let (start, length) := longestZeros 0 words
  if length < 2 then joined words
  else joined (words.take start) ++ "::" ++ joined (words.drop (start + length))

end OperatorKit.Ipv6
