import OperatorKit.Json.Reading

/-!
Passing over a value without keeping it. Nesting is not limited, a numeral may have any size and a
string may hold any bytes; the grammar is otherwise the one of values.
-/

namespace OperatorKit.Json

/-- The first symbol, where the end of the text counts as a symbol that fits nowhere. -/
def passExponent (input : List Symbol) : Except Fault (List Symbol) :=
  let digits := (exponentSign input).2
  match digits with
  | [] => .error (.before .invalidNumber [])
  | d :: _ => if isDigit d then .ok (afterDigits digits) else .error (.next .invalidNumber digits)

def passFraction (input : List Symbol) : Except Fault (List Symbol) :=
  if (leadingDigits input).isEmpty then .error (.next .invalidNumber input)
  else
    match afterDigits input with
    | .char 'e' :: rest | .char 'E' :: rest => passExponent rest
    | rest => .ok rest

def passNumeral (input : List Symbol) : Except Fault (List Symbol) :=
  match input with
  | [] => .error (.before .invalidNumber [])
  | first :: more =>
    if isDigit first then
      if first = .char '0' ∧ more.head?.any isDigit then .error (.next .invalidNumber more)
      else
        match afterDigits input with
        | .char '.' :: rest => passFraction rest
        | .char 'e' :: rest | .char 'E' :: rest => passExponent rest
        | rest => .ok rest
    else .error (.next .invalidNumber input)

def passEscape (input : List Symbol) : Except Fault (List Symbol) :=
  match input with
  | [] => .error (.before .endInString [])
  | .char 'u' :: rest => (fourHex rest).map (·.2)
  | s :: rest =>
    if ['"', '\\', '/', 'b', 'f', 'n', 'r', 't'].any (s = .char ·) then .ok rest
    else .error (.next .invalidEscape input)

def passString : Nat → List Symbol → Except Fault (List Symbol)
  | 0, input => .error (.before .endInString input)
  | fuel + 1, input =>
    match input with
    | [] => .error (.before .endInString [])
    | .stray _ :: rest => passString fuel rest
    | .char c :: rest =>
      if c = '"' then .ok rest
      else if c = '\\' then
        match passEscape rest with
        | .error e => .error e
        | .ok rest => passString fuel rest
      else if c.toNat < 32 then .error (.before .controlCharacter input)
      else passString fuel rest

def passKey (input : List Symbol) : Except Fault (List Symbol) :=
  match skipBlank input with
  | [] => .error (.before .endInObject [])
  | s :: rest =>
    if s = .char '"' then
      match passString (rest.length + 1) rest with
      | .error e => .error e
      | .ok rest => colon rest
    else .error (.next .keyNotString (s :: rest))

mutual

def passValue : Nat → List Symbol → Except Fault (List Symbol)
  | 0, input => .error (.before .tooDeep input)
  | fuel + 1, input =>
    match skipBlank input with
    | [] => .error (.before .endInValue [])
    | s :: rest =>
      match s with
      | .char 'n' => word ['u', 'l', 'l'] rest
      | .char 't' => word ['r', 'u', 'e'] rest
      | .char 'f' => word ['a', 'l', 's', 'e'] rest
      | .char '-' => passNumeral rest
      | .char '"' => passString (rest.length + 1) rest
      | .char '[' => passRest fuel false true rest
      | .char '{' => passRest fuel true true rest
      | _ => if isDigit s then passNumeral (s :: rest) else .error (.next .expectedValue (s :: rest))

/-- What follows in an open container, from its start or from the end of a member. -/
def passRest : Nat → Bool → Bool → List Symbol → Except Fault (List Symbol)
  | 0, _, _, input => .error (.before .tooDeep input)
  | fuel + 1, keyed, first, input =>
    let member (rest : List Symbol) : Except Fault (List Symbol) :=
      match (if keyed then passKey rest else .ok rest) with
      | .error e => .error e
      | .ok rest =>
        match passValue fuel rest with
        | .error e => .error e
        | .ok rest => passRest fuel keyed false rest
    match skipBlank input with
    | [] => .error (.before (if keyed then .endInObject else .endInList) [])
    | s :: rest =>
      if s = .char (if keyed then '}' else ']') then .ok rest
      else if first then member (s :: rest)
      else if s = .char ',' then member rest
      else
        .error (.next (if keyed then .expectedObjectCommaOrEnd else .expectedListCommaOrEnd)
          (s :: rest))

end

/-- Passes over the next value, for a text of any length. -/
def passAny (input : List Symbol) : Except Fault (List Symbol) :=
  passValue (2 * input.length + 2) input

end OperatorKit.Json
