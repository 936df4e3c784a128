import OperatorKit.Proofs.Json.RoundTrip
import OperatorKit.Json.Decoder

/-!
What decoders give for the text of a value, in either layout and whatever stands behind it. For a record
it is put together from what each field in turn adds to what is known of the record.
-/

namespace OperatorKit.Json

open Decoder

variable {α σ : Type} {layout : Layout} {depth level fuel : Nat} {first : Bool}
  {gap input rest : List Symbol} {v : Json}

/-- A reader takes something off the text of a value, wherever the text stands. -/
def Takes (layout : Layout) (reader : Reader α) (v : Json) (a : α) : Prop :=
  ∀ level gap rest, Gap gap → EndsNumeral rest →
    reader (gap ++ ((chars layout level v).map .char ++ rest)) = .ok (a, rest)

theorem takes_json (reads : Readable layout depth v) : Takes layout (json.read depth) v v := by
  intro level gap rest blank ends
  refine (reads level rest ends).read_append blank _ ?_
  simp only [List.length_append]
  omega

theorem takes_string (layout : Layout) (depth : Nat) (s : String) :
    Takes layout (Decoder.string.read depth) (.string s) s := by
  intro level gap rest blank _
  have opened : skipBlank (gap ++ ((quoted s).map .char ++ rest)) =
      .char '"' :: ((s.toList.flatMap escape).map .char ++ .char '"' :: rest) := by
    rw [skipBlank_append blank, quoted_append, skipBlank_cons rfl]
  change Decoder.string.read depth (gap ++ ((quoted s).map .char ++ rest)) = _
  simp only [Decoder.string, opened, stringBody_quoted]

section Lists

theorem readItems_itemsText {vs : List Json} (each : ∀ v ∈ vs, Readable layout depth v)
    (blank : Gap gap)
    (enough : ((itemsText layout level first vs).map Symbol.char ++
      (gap ++ .char ']' :: rest)).length < fuel) :
    readItems json depth fuel first
        ((itemsText layout level first vs).map .char ++ (gap ++ .char ']' :: rest)) =
      .ok (vs, rest) := by
  induction vs generalizing first fuel with
  | nil =>
    obtain ⟨fuel, rfl⟩ := Nat.exists_eq_add_one_of_ne_zero (Nat.ne_zero_of_lt enough)
    rw [itemsText, List.map_nil, List.nil_append, readItems, nextItem_close blank]
  | cons v vs ih =>
    obtain ⟨fuel, rfl⟩ := Nat.exists_eq_add_one_of_ne_zero (Nat.ne_zero_of_lt enough)
    obtain ⟨reads, others⟩ := List.forall_mem_cons.mp each
    rw [itemsText_cons] at enough ⊢
    have closed : EndsNumeral (gap ++ .char ']' :: rest) := endsNumeral_close blank (Or.inl rfl)
    have ends := endsNumeral_itemsText layout level vs closed
    have off := reads level _ ends
    have shorter := off.shorter
    obtain ⟨s, more, text, bare, other⟩ := off.begins
    simp only [List.length_append, List.length_cons] at enough shorter
    have found := takes_json reads level [] _ (List.forall_mem_nil _) ends
    rw [List.nil_append] at found
    -- an item takes up a symbol at least, so a unit of fuel for each symbol lasts
    have left : readItems json depth fuel false ((itemsText layout level false vs).map .char ++
        (gap ++ .char ']' :: rest)) = .ok (vs, rest) :=
      ih others (by simp only [List.length_append, List.length_cons]; omega)
    rw [readItems, text, nextItem_separator (gap_newline layout level) bare other, ← text]
    simp only [found, left]
    rfl

theorem takes_list {vs : List Json} (each : ∀ v ∈ vs, Readable layout (depth + 1) v) :
    Takes layout ((list json).read (depth + 2)) (.array vs) vs := by
  intro level gap rest blank _
  obtain ⟨inner, white, text⟩ := chars_array layout level vs rest
  have opened : skipBlank (gap ++ ((chars layout level (.array vs)).map .char ++ rest)) = .char '[' ::
      ((itemsText layout (level + 1) true vs).map .char ++ (inner ++ .char ']' :: rest)) := by
    rw [skipBlank_append blank, text, skipBlank_cons rfl]
  have deep : ¬ depth + 2 ≤ 1 := by omega
  simp only [list, opened, deep, if_false]
  exact readItems_itemsText each white (Nat.lt_succ_self _)

end Lists

section Records

variable {shape : Shape σ α} {state : σ}

theorem takes_field {β : Type} {d : Decoder β} {name : String} {opt : Bool} {get : σ → Option β}
    {set : σ → β → σ} {b : β} (taken : Takes layout (d.read depth) v b) (state : σ) :
    Takes layout ((Decoder.field name opt d get set).read depth state) v (set state b) := by
  intro level gap rest blank ends
  change (d.read depth _).map _ = _
  rw [taken level gap rest blank ends]
  rfl

/-- The fields of an object give the record, one after the other, from what is known so far. -/
inductive Fills (layout : Layout) (depth : Nat) (shape : Shape σ α) : σ → Fields → α → Prop where
  | done {state : σ} {a : α} (whole : shape.finish state = .ok a) :
      Fills layout depth shape state [] a
  | field {state later : σ} {a : α} {f : Decoder.Field σ} {key : String} {v : Json} {fields : Fields}
      (known : shape.fields.find? (·.name = key) = some f) (new : f.given state = false)
      (taken : Takes layout (f.read depth state) v later)
      (others : Fills layout depth shape later fields a) :
      Fills layout depth shape state ((key, v) :: fields) a

theorem readByName_fieldsText {fields : Fields} {a : α}
    (fills : Fills layout depth shape state fields a) (blank : Gap gap)
    (enough : ((fieldsText layout level first fields).map Symbol.char ++
      (gap ++ .char '}' :: rest)).length < fuel) :
    shape.readByName depth fuel first state
        ((fieldsText layout level first fields).map .char ++ (gap ++ .char '}' :: rest)) =
      .ok (a, rest) := by
  induction fills generalizing first fuel with
  | done whole =>
    obtain ⟨fuel, rfl⟩ := Nat.exists_eq_add_one_of_ne_zero (Nat.ne_zero_of_lt enough)
    rw [fieldsText, List.map_nil, List.nil_append, Shape.readByName, nextKey_close blank]
    simp only [whole]
  | @field state later a f key v fields known new taken others ih =>
    obtain ⟨fuel, rfl⟩ := Nat.exists_eq_add_one_of_ne_zero (Nat.ne_zero_of_lt enough)
    rw [fieldsText_cons] at enough ⊢
    obtain ⟨white, blank', colon⟩ := colon_layout layout ((chars layout level v).map .char ++
      ((fieldsText layout level false fields).map .char ++ (gap ++ .char '}' :: rest)))
    have closed : EndsNumeral (gap ++ .char '}' :: rest) := endsNumeral_close blank (Or.inr rfl)
    have found := taken level white _ blank' (endsNumeral_fieldsText layout level fields closed)
    have left : shape.readByName depth fuel false later
        ((fieldsText layout level false fields).map .char ++ (gap ++ .char '}' :: rest)) =
          .ok (a, rest) := by
      refine ih ?_
      simp only [quoted, List.length_append, List.length_cons, List.length_map] at enough ⊢
      omega
    rw [Shape.readByName, nextKey_separator (gap_newline layout level)]
    simp only [known, new, colon, found, left]
    rfl

theorem takes_record {fields : Fields} {a : α}
    (fills : Fills layout (depth + 1) shape shape.blank fields a) :
    Takes layout ((record shape).read (depth + 2)) (.object fields) a := by
  intro level gap rest blank _
  obtain ⟨inner, white, text⟩ := chars_object layout level fields rest
  have opened : skipBlank (gap ++ ((chars layout level (.object fields)).map .char ++ rest)) = .char '{' ::
      ((fieldsText layout (level + 1) true fields).map .char ++ (inner ++ .char '}' :: rest)) := by
    rw [skipBlank_append blank, text, skipBlank_cons rfl]
  have deep : ¬ depth + 2 ≤ 1 := by omega
  simp only [record, opened, Symbol.char.injEq, Char.reduceEq, deep, if_false, if_true]
  exact readByName_fieldsText fills white (Nat.lt_succ_self _)

end Records

theorem parse_of_takes {d : Decoder α} {a : α} (taken : Takes layout (d.read depthLimit) v a) :
    d.parse (String.ofList (chars layout 0 v)) = .ok a := by
  have read := taken 0 [] [] (List.forall_mem_nil _) (fun _ none => nomatch none)
  rw [List.nil_append, List.append_nil] at read
  rw [Decoder.parse, Symbol.ofString, Decoder.parseSymbols, whole, String.toList_ofList, read]
  rfl

theorem parse_chars (whole : v.Whole) (distinct : v.Distinct) (nested : v.nesting ≤ 127) :
    Json.parse (String.ofList (chars layout 0 v)) = .ok v :=
  parse_of_takes (takes_json (readable_of_whole whole distinct nested))

end OperatorKit.Json
