import OperatorKit.Proofs.Json.Numeral
import OperatorKit.Proofs.Json.Quoted
import OperatorKit.Proofs.Json.Reordered
import OperatorKit.Json.Reading

/-!
A value is read back from its text, in either layout and whatever stands behind it, as long as its
numbers are whole, its objects have each key once and it nests no deeper than the reader may go. White
space between the tokens is passed over wherever a layout puts it.
-/

namespace OperatorKit

/-- An integer that 64 bits hold, with or without a sign. -/
def Number.IsWhole : Number → Prop
  | .integer n => -(Nat.pow 2 63 : Int) ≤ n ∧ n ≤ Json.maxUnsigned
  | .real _ => False

namespace Json

def Whole (v : Json) : Prop :=
  ∀ n, v.Contains everyKey (.number n) → n.IsWhole

theorem whole_number_iff {n : Number} : Whole (.number n) ↔ n.IsWhole := by
  constructor
  · exact fun whole => whole n .here
  · intro whole m inside
    cases inside
    exact whole

theorem whole_scalar {v : Json} (plain : v.fields? = none ∧ v.items? = none)
    (other : ∀ n, v ≠ .number n) : v.Whole := by
  intro n inside
  cases inside with
  | here => exact absurd rfl (other n)
  | item _ _ => cases plain.2
  | field _ _ _ => cases plain.1

theorem whole_array_iff {vs : List Json} : Whole (.array vs) ↔ ∀ v ∈ vs, v.Whole := by
  constructor
  · exact fun whole v member n inside => whole n (.item member inside)
  · intro whole n inside
    cases inside with
    | item member deeper => exact whole _ member n deeper

theorem whole_object_iff {fields : Fields} :
    Whole (.object fields) ↔ ∀ field ∈ fields, field.2.Whole := by
  constructor
  · exact fun whole field member n inside => whole n (.field member rfl inside)
  · intro whole n inside
    cases inside with
    | field member _ deeper => exact whole _ member n deeper

def Gap (gap : List Symbol) : Prop :=
  ∀ s ∈ gap, isBlank s = true

variable {layout : Layout} {level depth fuel : Nat} {first : Bool} {gap input rest text : List Symbol}
  {s : Symbol} {v : Json} {key : String}

section White

theorem skipBlank_append (blank : Gap gap) : skipBlank (gap ++ input) = skipBlank input :=
  List.dropWhile_append_of_pos blank

theorem skipBlank_cons (bare : isBlank s = false) : skipBlank (s :: rest) = s :: rest := by
  rw [skipBlank, List.dropWhile_cons, bare, if_neg Bool.false_ne_true]

theorem gap_newline (layout : Layout) (level : Nat) : Gap ((layout.newline level).map .char) := by
  cases layout with
  | line => exact List.forall_mem_nil _
  | indented step =>
    intro s member
    rw [Layout.newline, List.map_cons, List.map_replicate] at member
    rcases List.mem_cons.mp member with rfl | blank
    · rfl
    · rw [List.eq_of_mem_replicate blank]
      rfl

theorem colon_layout (layout : Layout) (input : List Symbol) :
    ∃ gap, Gap gap ∧ colon (layout.colon.map .char ++ input) = .ok (gap ++ input) := by
  cases layout with
  | line => exact ⟨[], List.forall_mem_nil _, rfl⟩
  | indented step => exact ⟨[.char ' '], List.forall_mem_singleton.mpr rfl, rfl⟩

theorem endsNumeral_cons (other : isDigit s = false ∧ s ≠ .char '.' ∧ s ≠ .char 'e' ∧ s ≠ .char 'E') :
    EndsNumeral (s :: rest) := by
  intro t begins
  cases begins
  exact other

theorem endsNumeral_append (blank : Gap gap) (ends : EndsNumeral rest) : EndsNumeral (gap ++ rest) := by
  cases gap with
  | nil => exact ends
  | cons s gap =>
    intro t begins
    cases begins
    have space := blank s List.mem_cons_self
    simp only [isBlank, Bool.or_eq_true, decide_eq_true_eq] at space
    rcases space with ((rfl | rfl) | rfl) | rfl <;> decide

theorem value_append (blank : Gap gap) :
    value (fuel + 1) depth (gap ++ input) = value (fuel + 1) depth input := by
  rw [value, value, skipBlank_append blank]

end White

section Separators

def separator (first : Bool) : List Char :=
  if first then [] else [',']

theorem nextItem_separator (blank : Gap gap) (bare : isBlank s = false) (other : s ≠ .char ']') :
    nextItem first ((separator first).map .char ++ (gap ++ s :: rest)) = .ok (true, s :: rest) := by
  have shown : skipBlank (gap ++ s :: rest) = s :: rest := by
    rw [skipBlank_append blank, skipBlank_cons bare]
  cases first with
  | true =>
    change nextItem true (gap ++ s :: rest) = _
    rw [nextItem, shown]
    simp only [other, if_false, if_true]
  | false =>
    change nextItem false (.char ',' :: (gap ++ s :: rest)) = _
    rw [nextItem, skipBlank_cons rfl]
    simp only [Symbol.char.injEq, Char.reduceEq, Bool.false_eq_true, if_false, if_true, shown, other]

theorem nextItem_close (blank : Gap gap) :
    nextItem first (gap ++ .char ']' :: rest) = .ok (false, rest) := by
  rw [nextItem, skipBlank_append blank, skipBlank_cons rfl]
  rfl

theorem nextKey_separator (blank : Gap gap) :
    nextKey first ((separator first).map .char ++ (gap ++ ((quoted key).map .char ++ rest))) =
      .ok (some key, rest) := by
  have shown : skipBlank (gap ++ ((quoted key).map .char ++ rest)) =
      .char '"' :: ((key.toList.flatMap escape).map .char ++ .char '"' :: rest) := by
    rw [skipBlank_append blank, quoted_append, skipBlank_cons rfl]
  cases first with
  | true =>
    change nextKey true (gap ++ ((quoted key).map .char ++ rest)) = _
    rw [nextKey, shown]
    simp only [Symbol.char.injEq, Char.reduceEq, if_false, if_true, stringBody_quoted]
    rfl
  | false =>
    change nextKey false (.char ',' :: (gap ++ ((quoted key).map .char ++ rest))) = _
    rw [nextKey, skipBlank_cons rfl]
    simp only [Symbol.char.injEq, Char.reduceEq, Bool.false_eq_true, if_false, if_true, shown,
      stringBody_quoted]
    rfl

theorem nextKey_close (blank : Gap gap) :
    nextKey first (gap ++ .char '}' :: rest) = .ok (none, rest) := by
  rw [nextKey, skipBlank_append blank, skipBlank_cons rfl]
  rfl

end Separators

section Members

def itemsText (layout : Layout) (level : Nat) (first : Bool) : List Json → List Char
  | [] => []
  | v :: rest => separator first ++
      (layout.newline level ++ (chars layout level v ++ charsItems layout level rest))

def fieldsText (layout : Layout) (level : Nat) (first : Bool) : Fields → List Char
  | [] => []
  | (key, v) :: rest => separator first ++ (layout.newline level ++ (quoted key ++
      (layout.colon ++ (chars layout level v ++ charsFields layout level rest))))

theorem charsItems_eq (layout : Layout) (level : Nat) (vs : List Json) :
    charsItems layout level vs = itemsText layout level false vs := by
  cases vs with
  | nil => simp [charsItems, itemsText]
  | cons v rest => simp [charsItems, itemsText, separator]

theorem charsFields_eq (layout : Layout) (level : Nat) (fields : Fields) :
    charsFields layout level fields = fieldsText layout level false fields := by
  cases fields with
  | nil => simp [charsFields, fieldsText]
  | cons field rest => simp [charsFields, fieldsText, separator]

theorem chars_array (layout : Layout) (level : Nat) (vs : List Json) (rest : List Symbol) :
    ∃ gap, Gap gap ∧ (chars layout level (.array vs)).map .char ++ rest = .char '[' ::
      ((itemsText layout (level + 1) true vs).map .char ++ (gap ++ .char ']' :: rest)) := by
  cases vs with
  | nil => exact ⟨[], List.forall_mem_nil _, by simp [chars, itemsText]⟩
  | cons v vs => exact ⟨_, gap_newline layout level, by simp [chars, itemsText, separator]⟩

theorem chars_object (layout : Layout) (level : Nat) (fields : Fields) (rest : List Symbol) :
    ∃ gap, Gap gap ∧ (chars layout level (.object fields)).map .char ++ rest = .char '{' ::
      ((fieldsText layout (level + 1) true fields).map .char ++ (gap ++ .char '}' :: rest)) := by
  cases fields with
  | nil => exact ⟨[], List.forall_mem_nil _, by simp [chars, fieldsText]⟩
  | cons field fields => exact ⟨_, gap_newline layout level, by simp [chars, fieldsText, separator]⟩

theorem itemsText_cons (layout : Layout) (level : Nat) (first : Bool) (v : Json) (vs : List Json)
    (tail : List Symbol) : (itemsText layout level first (v :: vs)).map .char ++ tail =
      (separator first).map .char ++ ((layout.newline level).map .char ++
        ((chars layout level v).map .char ++ ((itemsText layout level false vs).map .char ++ tail))) := by
  rw [itemsText, charsItems_eq]
  simp only [List.map_append, List.append_assoc]

theorem fieldsText_cons (layout : Layout) (level : Nat) (first : Bool) (key : String) (v : Json)
    (fields : Fields) (tail : List Symbol) :
    (fieldsText layout level first ((key, v) :: fields)).map .char ++ tail =
      (separator first).map .char ++ ((layout.newline level).map .char ++ ((quoted key).map .char ++
        (layout.colon.map .char ++ ((chars layout level v).map .char ++
          ((fieldsText layout level false fields).map .char ++ tail))))) := by
  rw [fieldsText, charsFields_eq]
  simp only [List.map_append, List.append_assoc]

theorem endsNumeral_itemsText (layout : Layout) (level : Nat) (vs : List Json)
    (ends : EndsNumeral rest) :
    EndsNumeral ((itemsText layout level false vs).map .char ++ rest) := by
  cases vs with
  | nil => exact ends
  | cons v vs => exact endsNumeral_cons (by decide)

theorem endsNumeral_fieldsText (layout : Layout) (level : Nat) (fields : Fields)
    (ends : EndsNumeral rest) :
    EndsNumeral ((fieldsText layout level false fields).map .char ++ rest) := by
  cases fields with
  | nil => exact ends
  | cons field fields => exact endsNumeral_cons (by decide)

theorem endsNumeral_close (blank : Gap gap) {c : Char} (closes : c = ']' ∨ c = '}') :
    EndsNumeral (gap ++ .char c :: rest) := by
  refine endsNumeral_append blank (endsNumeral_cons ?_)
  rcases closes with rfl | rfl <;> decide

end Members

/-- A text begins with a value and goes on with the rest, for a reader with fuel for all of it. -/
structure ReadsOff (depth : Nat) (v : Json) (text rest : List Symbol) : Prop where
  begins : ∃ s more, text = s :: more ∧ isBlank s = false ∧ s ≠ .char ']'
  shorter : rest.length < text.length
  read : ∀ fuel, 2 * text.length ≤ fuel → value fuel depth text = .ok (v, rest)

theorem ReadsOff.read_append (off : ReadsOff depth v text rest) (blank : Gap gap) (fuel : Nat)
    (enough : 2 * text.length ≤ fuel) : value fuel depth (gap ++ text) = .ok (v, rest) := by
  have shorter := off.shorter
  obtain ⟨fuel, rfl⟩ := Nat.exists_eq_add_one_of_ne_zero (by omega : fuel ≠ 0)
  rw [value_append blank, off.read (fuel + 1) enough]

def Readable (layout : Layout) (depth : Nat) (v : Json) : Prop :=
  ∀ level rest, EndsNumeral rest → ReadsOff depth v ((chars layout level v).map .char ++ rest) rest

section Containers

theorem items_itemsText {vs : List Json} (each : ∀ v ∈ vs, Readable layout depth v) (blank : Gap gap)
    (enough : 2 * ((itemsText layout level first vs).map Symbol.char ++
      (gap ++ .char ']' :: rest)).length + 1 ≤ fuel) :
    items fuel depth first ((itemsText layout level first vs).map .char ++ (gap ++ .char ']' :: rest)) =
      .ok (vs, rest) := by
  induction vs generalizing first fuel with
  | nil =>
    obtain ⟨fuel, rfl⟩ := Nat.exists_eq_add_one_of_ne_zero (by omega : fuel ≠ 0)
    rw [itemsText, List.map_nil, List.nil_append, items, nextItem_close blank]
  | cons v vs ih =>
    obtain ⟨fuel, rfl⟩ := Nat.exists_eq_add_one_of_ne_zero (by omega : fuel ≠ 0)
    obtain ⟨reads, others⟩ := List.forall_mem_cons.mp each
    rw [itemsText_cons] at enough ⊢
    have closed : EndsNumeral (gap ++ .char ']' :: rest) := endsNumeral_close blank (Or.inl rfl)
    have off := reads level _ (endsNumeral_itemsText layout level vs closed)
    have shorter := off.shorter
    obtain ⟨s, more, text, bare, other⟩ := off.begins
    simp only [List.length_append, List.length_cons] at enough shorter
    have found := off.read fuel (by simp only [List.length_append, List.length_cons]; omega)
    have left : items fuel depth false ((itemsText layout level false vs).map .char ++
        (gap ++ .char ']' :: rest)) = .ok (vs, rest) :=
      ih others (by simp only [List.length_append, List.length_cons]; omega)
    rw [items, text, nextItem_separator (gap_newline layout level) bare other, ← text]
    simp only [found, left]
    rfl

theorem members_fieldsText {fields : Fields}
    (each : ∀ field ∈ fields, Readable layout depth field.2) (blank : Gap gap)
    (enough : 2 * ((fieldsText layout level first fields).map Symbol.char ++
      (gap ++ .char '}' :: rest)).length + 1 ≤ fuel) :
    members fuel depth first
        ((fieldsText layout level first fields).map .char ++ (gap ++ .char '}' :: rest)) =
      .ok (fields, rest) := by
  induction fields generalizing first fuel with
  | nil =>
    obtain ⟨fuel, rfl⟩ := Nat.exists_eq_add_one_of_ne_zero (by omega : fuel ≠ 0)
    rw [fieldsText, List.map_nil, List.nil_append, members, nextKey_close blank]
  | cons field fields ih =>
    obtain ⟨key, v⟩ := field
    obtain ⟨fuel, rfl⟩ := Nat.exists_eq_add_one_of_ne_zero (by omega : fuel ≠ 0)
    obtain ⟨reads, others⟩ := List.forall_mem_cons.mp each
    rw [fieldsText_cons] at enough ⊢
    have closed : EndsNumeral (gap ++ .char '}' :: rest) := endsNumeral_close blank (Or.inr rfl)
    have off := reads level _ (endsNumeral_fieldsText layout level fields closed)
    have shorter := off.shorter
    obtain ⟨white, blank', colon⟩ := colon_layout layout ((chars layout level v).map .char ++
      ((fieldsText layout level false fields).map .char ++ (gap ++ .char '}' :: rest)))
    simp only [List.length_append, List.length_cons] at enough shorter
    have found := off.read_append blank' fuel
      (by simp only [List.length_append, List.length_cons]; omega)
    have left : members fuel depth false ((fieldsText layout level false fields).map .char ++
        (gap ++ .char '}' :: rest)) = .ok (fields, rest) :=
      ih others (by simp only [List.length_append, List.length_cons]; omega)
    rw [members, nextKey_separator (gap_newline layout level)]
    simp only [colon, found, left]
    rfl

end Containers

section Values

theorem isBlank_of_isDigit (digit : isDigit s = true) : isBlank s = false := by
  cases blank : isBlank s with
  | false => rfl
  | true =>
    simp only [isBlank, Bool.or_eq_true, decide_eq_true_eq] at blank
    rcases blank with ((rfl | rfl) | rfl) | rfl <;> cases digit

theorem value_of_isDigit (digit : isDigit s = true) : value (fuel + 1) depth (s :: rest) =
    (numeral true (s :: rest)).map fun (n, rest) => (.number n, rest) := by
  rw [value, skipBlank_cons (isBlank_of_isDigit digit)]
  dsimp only
  split
  case h_8 => rw [if_pos digit]
  all_goals cases digit

theorem readsOff_of_head {c : Char} {more : List Char} (bare : isBlank (.char c) = false)
    (other : c ≠ ']')
    (read : ∀ fuel, value (fuel + 1) depth ((c :: more).map .char ++ rest) = .ok (v, rest)) :
    ReadsOff depth v ((c :: more).map .char ++ rest) rest where
  begins := ⟨.char c, more.map .char ++ rest, rfl, bare, mt Symbol.char.inj other⟩
  shorter := by
    simp only [List.length_append, List.length_map, List.length_cons]
    omega
  read fuel enough := by
    simp only [List.length_append, List.length_map, List.length_cons] at enough
    obtain ⟨fuel, rfl⟩ := Nat.exists_eq_add_one_of_ne_zero (by omega : fuel ≠ 0)
    exact read fuel

theorem readsOff_natural {n : Nat} (fits : n ≤ maxUnsigned) (ends : EndsNumeral rest) :
    ReadsOff depth (.number (.integer n)) ((Nat.toDigits 10 n).map .char ++ rest) rest := by
  have read := numeral_toDigits true fits ends
  have digits : ∀ s ∈ (Nat.toDigits 10 n).map Symbol.char, isDigit s = true :=
    fun _ => isDigit_of_mem_toDigits
  obtain ⟨c, more, written⟩ := List.exists_cons_of_ne_nil (Nat.toDigits_ne_nil (n := n) (b := 10))
  rw [written] at digits read ⊢
  have digit : isDigit (.char c) = true := digits _ List.mem_cons_self
  refine readsOff_of_head (isBlank_of_isDigit digit) ?_ fun fuel => ?_
  · rintro rfl
    cases digit
  · rw [List.map_cons, List.cons_append] at read ⊢
    rw [value_of_isDigit digit, read]
    rfl

theorem readsOff_negative {n : Nat} (positive : 0 < n) (fits : n ≤ Nat.pow 2 63)
    (ends : EndsNumeral rest) :
    ReadsOff depth (.number (.integer (-n))) (('-' :: Nat.toDigits 10 n).map .char ++ rest) rest := by
  have within : n ≤ maxUnsigned := Nat.le_trans fits (by decide)
  have read := numeral_toDigits false within ends
  have sign : integer false n = .integer (-n) := by
    have inRange : ¬ (n = 0 ∨ Nat.pow 2 63 < n) := by
      rintro (none | above)
      · exact Nat.pos_iff_ne_zero.mp positive none
      · exact Nat.not_lt_of_le fits above
    rw [integer, if_neg Bool.false_ne_true, if_neg inRange]
  refine readsOff_of_head rfl (by decide) fun fuel => ?_
  rw [List.map_cons, List.cons_append, value, skipBlank_cons rfl]
  dsimp only
  rw [read, sign]
  rfl

theorem readsOff_number {n : Number} (whole : n.IsWhole) (ends : EndsNumeral rest) :
    ReadsOff depth (.number n) (n.text.map .char ++ rest) rest := by
  cases n with
  | real x => exact absurd whole id
  | integer n =>
    obtain ⟨low, high⟩ := whole
    cases n with
    | ofNat n => exact readsOff_natural (Int.ofNat_le.mp high) ends
    | negSucc n => exact readsOff_negative (Nat.succ_pos n) (by omega) ends

theorem readsOff_string (s : String) (rest : List Symbol) :
    ReadsOff depth (.string s) ((quoted s).map .char ++ rest) rest := by
  refine readsOff_of_head rfl (by decide) fun fuel => ?_
  change value (fuel + 1) depth ((quoted s).map .char ++ rest) = _
  rw [quoted_append, value, skipBlank_cons rfl]
  dsimp only
  rw [stringBody_quoted]
  rfl

theorem value_array : value (fuel + 1) (depth + 2) (.char '[' :: rest) =
    (items fuel (depth + 1) true rest).map fun (vs, rest) => (.array vs, rest) := by
  rw [value, skipBlank_cons rfl]
  exact if_neg (by omega)

theorem value_object : value (fuel + 1) (depth + 2) (.char '{' :: rest) =
    (members fuel (depth + 1) true rest).map fun (fields, rest) =>
      (.object (Entries.ofList fields), rest) := by
  rw [value, skipBlank_cons rfl]
  exact if_neg (by omega)

theorem readsOff_array {vs : List Json} (each : ∀ v ∈ vs, Readable layout (depth + 1) v)
    (rest : List Symbol) :
    ReadsOff (depth + 2) (.array vs) ((chars layout level (.array vs)).map .char ++ rest) rest := by
  obtain ⟨gap, blank, text⟩ := chars_array layout level vs rest
  rw [text]
  refine ⟨⟨_, _, rfl, rfl, by decide⟩, ?_, fun fuel enough => ?_⟩
  · simp only [List.length_append, List.length_cons]
    omega
  · rw [List.length_cons] at enough
    obtain ⟨fuel, rfl⟩ := Nat.exists_eq_add_one_of_ne_zero (by omega : fuel ≠ 0)
    have inside : items fuel (depth + 1) true ((itemsText layout (level + 1) true vs).map .char ++
        (gap ++ .char ']' :: rest)) = .ok (vs, rest) :=
      items_itemsText each blank (by omega)
    rw [value_array, inside]
    rfl

theorem readsOff_object {fields : Fields}
    (each : ∀ field ∈ fields, Readable layout (depth + 1) field.2)
    (distinct : (fields.map (·.1)).Nodup) (rest : List Symbol) :
    ReadsOff (depth + 2) (.object fields) ((chars layout level (.object fields)).map .char ++ rest)
      rest := by
  obtain ⟨gap, blank, text⟩ := chars_object layout level fields rest
  rw [text]
  refine ⟨⟨_, _, rfl, rfl, by decide⟩, ?_, fun fuel enough => ?_⟩
  · simp only [List.length_append, List.length_cons]
    omega
  · rw [List.length_cons] at enough
    obtain ⟨fuel, rfl⟩ := Nat.exists_eq_add_one_of_ne_zero (by omega : fuel ≠ 0)
    have inside : members fuel (depth + 1) true
        ((fieldsText layout (level + 1) true fields).map .char ++ (gap ++ .char '}' :: rest)) =
          .ok (fields, rest) :=
      members_fieldsText each blank (by omega)
    rw [value_object, inside]
    exact congrArg (fun fields => Except.ok (object fields, rest)) (Entries.ofList_of_nodup distinct)

/-- A value that nests no deeper than the reader may go is read off its text. -/
theorem readable_of_whole (whole : v.Whole) (distinct : v.Distinct) (nested : v.nesting ≤ depth) :
    Readable layout (depth + 1) v := by
  induction v using induct generalizing depth with
  | scalar v plain =>
    intro level rest ends
    cases v with
    | null => exact readsOff_of_head rfl (by decide) fun fuel => by rw [value]; rfl
    | bool b =>
      cases b with
      | false => exact readsOff_of_head rfl (by decide) fun fuel => by rw [value]; rfl
      | true => exact readsOff_of_head rfl (by decide) fun fuel => by rw [value]; rfl
    | number n => exact readsOff_number (whole_number_iff.mp whole) ends
    | string s => exact readsOff_string s rest
    | array vs => cases plain.2
    | object fields => cases plain.1
  | array vs ih =>
    intro level rest _
    obtain ⟨depth, rfl⟩ := Nat.exists_eq_add_one_of_ne_zero
      (Nat.pos_iff_ne_zero.mp (Nat.lt_of_lt_of_le (Nat.succ_pos _) nested))
    have shallow := nesting_array_le_iff.mp nested
    exact readsOff_array (fun v member => ih v member (whole_array_iff.mp whole v member)
      (throughout_array_iff.mp distinct v member) (shallow v member)) rest
  | object fields ih =>
    intro level rest _
    obtain ⟨depth, rfl⟩ := Nat.exists_eq_add_one_of_ne_zero
      (Nat.pos_iff_ne_zero.mp (Nat.lt_of_lt_of_le (Nat.succ_pos _) nested))
    have shallow := nesting_object_le_iff.mp nested
    obtain ⟨once, below⟩ := throughout_object_iff.mp distinct
    exact readsOff_object (fun field member => ih field member (whole_object_iff.mp whole field member)
      (below field member) (shallow field member)) once rest

end Values

end Json

end OperatorKit
