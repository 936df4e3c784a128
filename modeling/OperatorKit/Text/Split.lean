/-! Cutting at marks and trimming at the ends. -/

namespace OperatorKit.Text

/-- What stands before and after the first mark. -/
def splitFirst (mark : Char) : List Char → Option (List Char × List Char)
  | [] => none
  | c :: rest =>
    if c = mark then some ([], rest)
    else (splitFirst mark rest).map fun (before, after) => (c :: before, after)

/-- The pieces between marks; a text without marks is one piece. -/
def cutAt (mark : Char → Bool) : List Char → List (List Char)
  | [] => [[]]
  | c :: rest =>
    match cutAt mark rest with
    | [] => [[c]]
    | piece :: more => if mark c then [] :: piece :: more else (c :: piece) :: more

theorem cutAt_ne_nil (mark : Char → Bool) (text : List Char) : cutAt mark text ≠ [] := by
  cases text with
  | nil => simp [cutAt]
  | cons c rest =>
    unfold cutAt
    split
    · simp
    · split <;> simp

def trimEnd (p : Char → Bool) (text : List Char) : List Char :=
  (text.reverse.dropWhile p).reverse

def trim (p : Char → Bool) (text : List Char) : List Char :=
  trimEnd p (text.dropWhile p)

/-- Without the slashes it ends in. -/
def withoutFinalSlashes (text : String) : String :=
  String.ofList (trimEnd (· = '/') text.toList)

end OperatorKit.Text
