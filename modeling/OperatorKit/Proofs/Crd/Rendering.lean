import OperatorKit.CommandLine.Run

/-!
How the text of a list ends. In YAML its last line holds the empty resource version, in quotes, with
a line end after it; in JSON it ends in a brace. So a list with a line end has one only.
-/

namespace OperatorKit

namespace Yaml

variable {pen : Pen} {c : Char} {front : String}

/-- The pen stands after a mark that closes something. -/
structure Pen.Closed (pen : Pen) (c : Char) : Prop where
  ends : ∃ front : String, pen.text = front.push c
  filled : pen.indented = false

theorem Pen.Closed.indentTo_zero (closed : pen.Closed c) :
    ∃ front : String, (pen.indentTo 0).text = (front.push c).push '\n' := by
  obtain ⟨⟨front, ends⟩, filled⟩ := closed
  refine ⟨front, ?_⟩
  rw [indentTo, filled, ← ends]
  rfl

theorem text_empty (indent : Nat) (pen : Pen) : (text indent "" pen).Closed '\'' := by
  have quoted : styleOf "" = .singleQuoted := by decide +kernel
  rw [text, quoted]
  exact ⟨⟨_, rfl⟩, rfl⟩

theorem render_ofItems (items : List Json) : ∃ front : String,
    render (ObjectList.ofItems items).toJson = (front.push '\'').push '\n' := by
  have last : ∃ pen, value none false .start (ObjectList.ofItems items).toJson = text 4 "" pen := by
    simp only [ObjectList.ofItems, ObjectList.toJson, value, members]
    exact ⟨_, rfl⟩
  obtain ⟨pen, same⟩ := last
  rw [render, same]
  exact (text_empty 4 pen).indentTo_zero

end Yaml

theorem Json.pretty_object (field : String × Json) (rest : Fields) :
    ∃ front : String, (Json.object (field :: rest)).pretty = front.push '}' := by
  have concat (front : List Char) (c : Char) :
      String.ofList (front ++ [c]) = (String.ofList front).push c := by
    rw [← String.toList_inj, String.toList_push, String.toList_ofList, String.toList_ofList]
  obtain ⟨key, v⟩ := field
  rw [pretty, chars, ← List.cons_append, concat]
  exact ⟨_, rfl⟩

theorem last_push (front : String) (c : Char) : (front.push c).toList.getLast? = some c := by
  rw [String.toList_push, List.getLast?_concat]

/-- The text of a list with one line end after it, which may be part of how the list is written. -/
def Manifest.EndsOnce (list : ObjectList) (format : OutputFormat) (text : String) : Prop :=
  ∃ body : String, body.toList.getLast? ≠ some '\n' ∧ text = body.push '\n' ∧
    (render list format = body ∨ render list format = text)

theorem Manifest.endsOnce_withLineEnd (items : List Json) (format : OutputFormat) :
    EndsOnce (.ofItems items) format (withLineEnd (render (.ofItems items) format)) := by
  cases format with
  | json =>
    obtain ⟨front, written⟩ :
        ∃ front : String, render (.ofItems items) .json = front.push '}' := Json.pretty_object _ _
    have bare : (front.push '}').toList.getLast? ≠ some '\n' := by
      rw [last_push]
      decide
    rw [written, withLineEnd, if_neg bare]
    exact ⟨front.push '}', bare, rfl, Or.inl written⟩
  | yaml =>
    obtain ⟨front, written⟩ : ∃ front : String,
        render (.ofItems items) .yaml = (front.push '\'').push '\n' := Yaml.render_ofItems items
    have bare : (front.push '\'').toList.getLast? ≠ some '\n' := by
      rw [last_push]
      decide
    rw [written, withLineEnd, if_pos (last_push _ _)]
    exact ⟨front.push '\'', bare, rfl, Or.inr written⟩

end OperatorKit
