/-!
Values by key, in the order in which the keys came first. A key that is put again keeps its place and
takes the new value, and erasing a key closes the gap.
-/

namespace OperatorKit

abbrev Entries (α : Type) := List (String × α)

namespace Entries

variable {α : Type}

/-- Puts a value under a key, in place if the key is there and at the end if it is new. -/
def put (entries : Entries α) (key : String) (value : α) : Entries α :=
  match entries with
  | [] => [(key, value)]
  | (k, v) :: rest => if k = key then (k, value) :: rest else (k, v) :: put rest key value

def erase (entries : Entries α) (key : String) : Entries α :=
  entries.filter fun entry => entry.1 ≠ key

/-- Lays entries over others: the upper ones win on a shared key. -/
def overlay (lower upper : Entries α) : Entries α :=
  upper.foldl (fun entries entry => put entries entry.1 entry.2) lower

/-- Entries as they are read: the last value of a repeated key, in its first place. -/
def ofList (entries : List (String × α)) : Entries α :=
  overlay [] entries

end Entries

end OperatorKit
