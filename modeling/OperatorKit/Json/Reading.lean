import OperatorKit.Json.Quoted
import OperatorKit.Json.Numeral

/-!
Reading a JSON value off a text. Containers may nest 127 deep. `fuel` bounds the number of steps by
the length of the text; of two steps in a row one takes a symbol, so it never runs out.
-/

namespace OperatorKit.Json

/-- One more than the containers that may be open at once. -/
def depthLimit : Nat := 128

/-- Whether a list goes on, from its start or from the end of an item. -/
def nextItem (first : Bool) : Reader Bool := fun input =>
  match skipBlank input with
  | [] => .error (.before .endInList [])
  | s :: rest =>
    if s = .char ']' then .ok (false, rest)
    else if first then .ok (true, s :: rest)
    else if s = .char ',' then
      match skipBlank rest with
      | [] => .error (.before .endInValue [])
      | t :: rest =>
        if t = .char ']' then .error (.next .trailingComma (t :: rest)) else .ok (true, t :: rest)
    else .error (.next .expectedListCommaOrEnd (s :: rest))

/-- The next key of an object if it goes on, from its start or from the end of a field. -/
def nextKey (first : Bool) : Reader (Option String) := fun input =>
  match skipBlank input with
  | [] => .error (.before .endInObject [])
  | s :: rest =>
    if s = .char '}' then .ok (none, rest)
    else if first then
      if s = .char '"' then (stringBody rest).map fun (key, rest) => (some key, rest)
      else .error (.next .keyNotString (s :: rest))
    else if s = .char ',' then
      match skipBlank rest with
      | [] => .error (.before .endInValue [])
      | t :: rest =>
        if t = .char '"' then (stringBody rest).map fun (key, rest) => (some key, rest)
        else if t = .char '}' then .error (.next .trailingComma (t :: rest))
        else .error (.next .keyNotString (t :: rest))
    else .error (.next .expectedObjectCommaOrEnd (s :: rest))

def colon (input : List Symbol) : Except Fault (List Symbol) :=
  match skipBlank input with
  | [] => .error (.before .endInObject [])
  | s :: rest => if s = .char ':' then .ok rest else .error (.next .expectedColon (s :: rest))

mutual

/-- The next value, where `depth` is one more than the containers it may open. -/
def value : Nat → Nat → Reader Json
  | 0, _, input => .error (.before .tooDeep input)
  | fuel + 1, depth, input =>
    match skipBlank input with
    | [] => .error (.before .endInValue [])
    | s :: rest =>
      match s with
      | .char 'n' => (word ['u', 'l', 'l'] rest).map fun rest => (.null, rest)
      | .char 't' => (word ['r', 'u', 'e'] rest).map fun rest => (.bool true, rest)
      | .char 'f' => (word ['a', 'l', 's', 'e'] rest).map fun rest => (.bool false, rest)
      | .char '-' => (numeral false rest).map fun (n, rest) => (.number n, rest)
      | .char '"' => (stringBody rest).map fun (text, rest) => (.string text, rest)
      | .char '[' =>
        if depth ≤ 1 then .error (.next .tooDeep (s :: rest))
        else (items fuel (depth - 1) true rest).map fun (vs, rest) => (.array vs, rest)
      | .char '{' =>
        if depth ≤ 1 then .error (.next .tooDeep (s :: rest))
        else (members fuel (depth - 1) true rest).map fun (fs, rest) =>
          (.object (Entries.ofList fs), rest)
      | _ =>
        if isDigit s then (numeral true (s :: rest)).map fun (n, rest) => (.number n, rest)
        else .error (.next .expectedValue (s :: rest))

def items : Nat → Nat → Bool → Reader (List Json)
  | 0, _, _, input => .error (.before .tooDeep input)
  | fuel + 1, depth, first, input =>
    match nextItem first input with
    | .error e => .error e
    | .ok (false, rest) => .ok ([], rest)
    | .ok (true, rest) =>
      match value fuel depth rest with
      | .error e => .error e
      | .ok (v, rest) => (items fuel depth false rest).map fun (vs, rest) => (v :: vs, rest)

def members : Nat → Nat → Bool → Reader (List (String × Json))
  | 0, _, _, input => .error (.before .tooDeep input)
  | fuel + 1, depth, first, input =>
    match nextKey first input with
    | .error e => .error e
    | .ok (none, rest) => .ok ([], rest)
    | .ok (some key, rest) =>
      match colon rest with
      | .error e => .error e
      | .ok rest =>
        match value fuel depth rest with
        | .error e => .error e
        | .ok (v, rest) =>
          (members fuel depth false rest).map fun (fs, rest) => ((key, v) :: fs, rest)

end

/-- The next value, for a text of any length. -/
def anyValue (depth : Nat) : Reader Json := fun input =>
  value (2 * input.length + 2) depth input

/-- Takes a value off a whole text: nothing but white space may follow it. -/
def whole {α : Type} (reader : Reader α) (input : List Symbol) : Except ReadError α :=
  match reader input with
  | .error e => .error (e.locate input)
  | .ok (v, rest) =>
    match skipBlank rest with
    | [] => .ok v
    | rest => .error ((Fault.next .trailingCharacters rest).locate input)

def parseSymbols (input : List Symbol) : Except ReadError Json :=
  whole (anyValue depthLimit) input

def parse (text : String) : Except ReadError Json :=
  parseSymbols (Symbol.ofString text)

def parseBytes (bytes : List UInt8) : Except ReadError Json :=
  parseSymbols (Symbol.ofBytes bytes)

end OperatorKit.Json
