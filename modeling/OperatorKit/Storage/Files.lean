import OperatorKit.Text.Split

/-!
Files in directories. A path is walked one name at a time, and every name but the last must lead to a
directory.
-/

namespace OperatorKit

inductive Node where
  | file (content : List UInt8)
  | directory
deriving DecidableEq, Repr

structure Files where
  /-- Where relative paths begin. It exists, with all that it lies in. -/
  working : List String
  /-- What else there is, by its names from the root. -/
  nodes : List (List String × Node)
deriving DecidableEq, Repr

inductive FileError where
  | notFound
  | notDirectory
  | isDirectory
  | nameTooLong
  | nulInPath
deriving DecidableEq, Repr

def FileError.message : FileError → String
  | notFound => "No such file or directory (os error 2)"
  | notDirectory => "Not a directory (os error 20)"
  | isDirectory => "Is a directory (os error 21)"
  | nameTooLong => "File name too long (os error 36)"
  | nulInPath => "file name contained an unexpected NUL byte"

namespace Files

def node? (files : Files) (place : List String) : Option Node :=
  if place.isPrefixOf files.working then some .directory else files.nodes.lookup place

/-- Walks names from a place; only the last of them may lead to nothing. -/
def walk (files : Files) (place : List String) : List String → Except FileError (List String)
  | [] => .ok place
  | name :: rest =>
    match files.node? place with
    | none => .error .notFound
    | some (.file _) => .error .notDirectory
    | some .directory =>
      if name = "." then walk files place rest
      else if name = ".." then walk files place.dropLast rest
      else if 255 < name.utf8ByteSize then .error .nameTooLong
      else walk files (place ++ [name]) rest

/-- The names in a path; a final slash asks for a directory. -/
def names (path : String) : List String :=
  let pieces := (Text.cutAt (· = '/') path.toList).map String.ofList
  pieces.filter (· ≠ "") ++ if pieces.getLast? = some "" then ["."] else []

def place (files : Files) (path : String) : Except FileError (List String) :=
  if path.toList.contains '\x00' then .error .nulInPath
  else if path.isEmpty then .error .notFound
  else if 4096 ≤ path.utf8ByteSize then .error .nameTooLong
  else files.walk (if path.toList.head? = some '/' then [] else files.working) (names path)

def read (files : Files) (path : String) : Except FileError (List UInt8) :=
  match files.place path with
  | .error e => .error e
  | .ok place =>
    match files.node? place with
    | none => .error .notFound
    | some .directory => .error .isDirectory
    | some (.file content) => .ok content

def put (files : Files) (place : List String) (node : Node) : Files :=
  { files with nodes := (place, node) :: files.nodes.filter (·.1 ≠ place) }

/-- Makes a file or replaces all that is in it. -/
def write (files : Files) (path : String) (content : List UInt8) : Except FileError Files :=
  match files.place path with
  | .error e => .error e
  | .ok place =>
    if files.node? place = some .directory then .error .isDirectory
    else .ok (files.put place (.file content))

end Files

end OperatorKit
