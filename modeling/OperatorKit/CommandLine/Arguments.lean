import OperatorKit.Crd.Manifest
import OperatorKit.Schema.Resolve

/-!
Arguments of the program. Options of the whole program may stand before or after the command. A
value in an argument of its own is not looked at before the next argument of its level asks for it,
so that a request for help or for the version comes first.
-/

namespace OperatorKit

/-- A natural number below a bound, which may have a plus sign. -/
def natural? (bound : Nat) (text : String) : Option Nat :=
  let digits := match text.toList with
    | '+' :: rest => rest
    | all => all
  if digits.isEmpty then none
  else if digits.all Char.isDigit then (Digits.number? 10 digits).filter (· < bound)
  else none

/-- A natural number of 32 bits; a negative zero is zero. -/
def count? (text : String) : Option UInt32 :=
  match text.toList with
  | '-' :: c :: rest => if (c :: rest).all (· = '0') then some 0 else none
  | _ => (natural? UInt32.size text).map UInt32.ofNat

inductive CommandName where
  | buildCrd
  | queryVersions
deriving DecidableEq, Repr

namespace CommandName

def text : CommandName → String
  | buildCrd => "build-crd"
  | queryVersions => "query-versions"

def ofText? (text : String) : Option CommandName :=
  [buildCrd, queryVersions].find? (·.text = text)

end CommandName

/-- Where an argument stands: before the command or after it. -/
abbrev Level := Option CommandName

/-- Why a command line is not carried out. -/
inductive Stop where
  | usage
  | help
  | version (program : String)
deriving DecidableEq, Repr

/-- Options with a value. -/
inductive OptionName where
  | timeout
  | maxRedirects
  | source
  | output
  | format
  | maxDepth
  | apiUser
  | apiUrl
deriving DecidableEq, Repr

namespace OptionName

def text : OptionName → String
  | timeout => "timeout"
  | maxRedirects => "max-redirects"
  | source => "source"
  | output => "output"
  | format => "format"
  | maxDepth => "max-depth"
  | apiUser => "api-user"
  | apiUrl => "api-url"

/-- The options at a level; those of the whole program are at every level. -/
def allowed (level : Level) : List OptionName :=
  [timeout, maxRedirects] ++
    match level with
    | none => []
    | some .buildCrd => [source, output, format, maxDepth]
    | some .queryVersions => [apiUser, apiUrl]

/-- Whether a value can be given to an option. -/
def accepts (name : OptionName) (value : String) : Bool :=
  match name with
  | timeout | maxDepth => (natural? (Nat.pow 2 64) value).isSome
  | maxRedirects => (count? value).isSome
  | output => !value.isEmpty
  | format => (OutputFormat.ofString value).toOption.isSome
  | source | apiUser | apiUrl => true

end OptionName

/-- What is known of the arguments at one level. -/
structure Given where
  values : List (OptionName × String)
  debug : Bool
  /-- An option whose value is still to come or to be looked at. -/
  pending : Option (OptionName × Option String)
  arguments : List String

namespace Given

def nothing : Given := ⟨[], false, none, []⟩

/-- Gives an option a value; it may have one only. -/
def give (g : Given) (name : OptionName) (value : String) : Except Stop Given :=
  if name.accepts value && (g.values.lookup name).isNone then
    .ok { g with values := g.values ++ [(name, value)] }
  else .error .usage

/-- Looks at the value that is pending. -/
def settle (g : Given) : Except Stop Given :=
  match g.pending with
  | none => .ok g
  | some (_, none) => .error .usage
  | some (name, some value) => { g with pending := none }.give name value

/-- Gives an option the value that is attached to it, or waits for one. -/
def option (g : Given) (name : OptionName) (value : Option String) : Except Stop Given := do
  let g ← g.settle
  match value with
  | some value => g.give name value
  | none => return { g with pending := some (name, none) }

end Given

/-- How the program calls itself at a level. -/
def programName (level : Level) : String :=
  match level with
  | none => "adviser"
  | some command => "adviser-" ++ command.text

/-- An argument after two hyphens. -/
def readLong (level : Level) (g : Given) (text : List Char) : Except Stop Given := do
  let (name, value) := match Text.splitFirst '=' text with
    | some (name, value) => (String.ofList name, some (String.ofList value))
    | none => (String.ofList text, none)
  match (OptionName.allowed level).find? (·.text = name) with
  | some name => g.option name value
  | none =>
    if value.isSome then throw .usage
    else
      match name with
      | "help" => let _ ← g.settle; throw .help
      | "version" => let _ ← g.settle; throw (.version (programName level))
      | "debug" => do
        let g ← g.settle
        if g.debug then throw .usage
        return { g with debug := true }
      | _ => throw .usage

/-- An argument after one hyphen. -/
def readShort (level : Level) (g : Given) (c : Char) (rest : List Char) : Except Stop Given := do
  if c = 'h' then
    let _ ← g.settle
    throw .help
  else if c = 'V' then
    let _ ← g.settle
    throw (.version (programName level))
  else if c = 'o' ∧ level = some .buildCrd then
    g.option .output (match rest with
      | [] => none
      | '=' :: value => some (String.ofList value)
      | value => some (String.ofList value))
  else throw .usage

/-- An argument that is no option. -/
def readPlain (level : Level) (g : Given) (text : String) : Except Stop Given := do
  if level = some .queryVersions then
    let g ← g.settle
    return { g with arguments := g.arguments ++ [text] }
  else throw .usage

/-- After `help` one command may be named, which has no commands of its own. -/
def readHelp : List String → Stop
  | [] => .help
  | [name] => if name = "help" || (CommandName.ofText? name).isSome then .help else .usage
  | _ => .usage

/-- Reads the arguments at a level up to the name of a command, if one may stand there. -/
def readLevel (level : Level) (g : Given) : List String →
    Except Stop (Given × Option (CommandName × List String))
  | [] => .ok (g, none)
  | text :: rest =>
    let next (r : Except Stop Given) := r.bind fun g => readLevel level g rest
    let waiting := match g.pending with
      | some (name, none) => some name
      | _ => none
    match (if level = none ∧ waiting = none then CommandName.ofText? text else none) with
    | some command => .ok (g, some (command, rest))
    | none =>
      if level = none ∧ waiting = none ∧ text = "help" then .error (readHelp rest)
      else
        match text.toList, waiting with
        | ['-', '-'], _ => (rest.foldlM (readPlain level) g).map fun g => (g, none)
        | '-' :: '-' :: long, _ => next (readLong level g long)
        | '-' :: c :: short, _ => next (readShort level g c short)
        | _, some name => next (.ok { g with pending := some (name, some text) })
        | _, none => next (readPlain level g text)

inductive Command where
  | buildCrd (source : String) (output : Option String) (format : OutputFormat) (maxDepth : Nat)
  | queryVersions (repositories : List String) (apiUser : Option String) (apiUrl : String)
deriving DecidableEq, Repr

structure Invocation where
  command : Command
  maxRedirects : UInt32
deriving DecidableEq, Repr

def defaultSource : String :=
  "https://raw.githubusercontent.com/cloudflare/api-schemas/main/openapi.json"

def defaultApiUrl : String := "https://api.github.com"

/-- The command that options and arguments ask for; what is not given may come from the
environment. -/
def commandOf (environment : List (String × String)) (name : CommandName) (g : Given) :
    Except Stop Command :=
  let value (name : OptionName) : Option String := g.values.lookup name
  match name with
  | .buildCrd =>
    .ok (.buildCrd ((value .source).getD defaultSource) (value .output)
      (((value .format).bind fun f => (OutputFormat.ofString f).toOption).getD .json)
      (((value .maxDepth).bind (natural? (Nat.pow 2 64))).getD Schema.defaultLimit))
  | .queryVersions =>
    if g.arguments.isEmpty then .error .usage
    else
      .ok (.queryVersions g.arguments ((value .apiUser).or (environment.lookup "APIUSER"))
        (((value .apiUrl).or (environment.lookup "GITHUB_API_URL")).getD defaultApiUrl))

/-- Reads a command line without the name of the program. -/
def readArguments (environment : List (String × String)) (arguments : List String) :
    Except Stop Invocation := do
  let (program, found) ← readLevel none .nothing arguments
  match found with
  | none => throw .usage
  | some (name, rest) =>
    let (given, _) ← readLevel (some name) .nothing rest
    let given ← given.settle
    let command ← commandOf environment name given
    let program ← program.settle
    let limit := (given.values.lookup .maxRedirects).or (program.values.lookup .maxRedirects)
    return { command, maxRedirects := (limit.bind count?).getD 5 }

end OperatorKit
