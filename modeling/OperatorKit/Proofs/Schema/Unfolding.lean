import OperatorKit.Proofs.Schema.Reference
import OperatorKit.Schema.Resolve

/-!
Unfolding: what a schema says once references stand for what they lead to. One step goes to an item,
to a field that survives, or from an object with a reference to the object spliced together from its
fields and the target. Nothing here is limited in depth, and nothing is remembered on the way; the
trail only lists the references that were followed.
-/

namespace OperatorKit.Schema

def Leads (document : Json) (p : String) (upper : Fields) : Prop :=
  ∃ r, Reference.ofString p = .ok r ∧ document.lookup r = .ok (.object upper)

/-- The references followed from some fields until none is left, each with the object it leads to,
and the fields that this gives. -/
inductive Chain (document : Json) : Fields → List (String × Fields) → Fields → Prop where
  | done {fields : Fields} :
      fields.lookup Keyword.reference = none → Chain document fields [] fields
  | link {fields upper merged : Fields} {p : String} {links : List (String × Fields)} :
      fields.lookup Keyword.reference = some (.string p) → Leads document p upper →
      Chain document (splice fields upper) links merged →
        Chain document fields ((p, upper) :: links) merged

/-- One step of unfolding, with the reference it follows, if any. -/
inductive Unfolds (document : Json) : Json → List String → Json → Prop where
  | item {vs : List Json} {v : Json} : v ∈ vs → Unfolds document (.array vs) [] v
  | field {fields : Fields} {field : String × Json} :
      fields.lookup Keyword.reference = none → field ∈ kept fields →
        Unfolds document (.object fields) [] field.2
  | follow {fields upper : Fields} {p : String} :
      fields.lookup Keyword.reference = some (.string p) → Leads document p upper →
        Unfolds document (.object fields) [p] (.object (splice fields upper))

/-- Unfolding leads from one value to another; the trail lists the references followed, in order. -/
inductive Reaches (document : Json) : Json → List String → Json → Prop where
  | here {v : Json} : Reaches document v [] v
  | step {v w x : Json} {label trail : List String} :
      Unfolds document v label w → Reaches document w trail x → Reaches document v (label ++ trail) x

def Meets (document v : Json) (trail : List String) (x : Json) : Prop :=
  ∃ fields, Reaches document v trail (.object fields) ∧ fields.lookup Keyword.reference = some x

variable {document : Json}

theorem mem_kept {fields : Fields} {field : String × Json} :
    field ∈ kept fields ↔ field ∈ fields ∧ Keyword.isStripped field.1 = false := by
  simp [kept, List.mem_filter]

theorem mem_splice {fields upper : Fields} {field : String × Json}
    (member : field ∈ splice fields upper) :
    field ∈ fields ∧ field.1 ≠ Keyword.reference ∨ field ∈ upper :=
  (Entries.mem_overlay member).imp_left Entries.mem_erase.mp

theorem text_ofString {p : String} {r : Reference} (parsed : Reference.ofString p = .ok r) :
    r.text = p := by
  unfold Reference.ofString at parsed
  split at parsed
  · dsimp only at parsed
    split at parsed
    · contradiction
    · cases parsed
      rfl
  · contradiction

theorem Leads.unique {p : String} {upper other : Fields} (leads : Leads document p upper)
    (also : Leads document p other) : upper = other := by
  obtain ⟨r, parsed, found⟩ := leads
  obtain ⟨s, parsed', found'⟩ := also
  cases parsed.symm.trans parsed'
  cases found.symm.trans found'
  rfl

theorem Leads.inside {p : String} {upper : Fields} (leads : Leads document p upper) :
    document.Contains Json.everyKey (.object upper) := by
  obtain ⟨r, _, found⟩ := leads
  exact Json.contains_of_walk? (Json.lookup_ok_iff.mp found)

theorem Chain.free {fields merged : Fields} {links : List (String × Fields)}
    (chain : Chain document fields links merged) : merged.lookup Keyword.reference = none := by
  induction chain with
  | done free => exact free
  | link _ _ _ ih => exact ih

theorem Chain.leads {fields merged upper : Fields} {links : List (String × Fields)} {p : String}
    (chain : Chain document fields links merged) (member : (p, upper) ∈ links) :
    Leads document p upper := by
  induction chain with
  | done _ => cases member
  | link _ leads _ ih =>
    rcases List.mem_cons.mp member with first | later
    · cases first
      exact leads
    · exact ih later

theorem Chain.unique {fields merged merged' : Fields} {links links' : List (String × Fields)}
    (chain : Chain document fields links merged) (also : Chain document fields links' merged') :
    links = links' ∧ merged = merged' := by
  induction chain generalizing links' with
  | done free =>
    cases also with
    | done _ => exact ⟨rfl, rfl⟩
    | link next _ _ => cases free.symm.trans next
  | link next leads _ ih =>
    cases also with
    | done free => cases free.symm.trans next
    | link next' leads' rest' =>
      cases next.symm.trans next'
      cases leads.unique leads'
      obtain ⟨rfl, rfl⟩ := ih rest'
      exact ⟨rfl, rfl⟩

theorem Reaches.trans {u v w : Json} {first second : List String}
    (outer : Reaches document u first v) (inner : Reaches document v second w) :
    Reaches document u (first ++ second) w := by
  induction outer with
  | here => exact inner
  | step unfolds _ ih => exact List.append_assoc .. ▸ .step unfolds (ih inner)

theorem Unfolds.reaches {v w : Json} {label : List String} (unfolds : Unfolds document v label w) :
    Reaches document v label w :=
  List.append_nil label ▸ .step unfolds .here

theorem Chain.reaches {fields merged : Fields} {links : List (String × Fields)}
    (chain : Chain document fields links merged) :
    Reaches document (.object fields) (links.map (·.1)) (.object merged) := by
  induction chain with
  | done _ => exact .here
  | link next leads _ ih => exact .step (.follow next leads) ih

theorem Chain.reaches_field {fields merged : Fields} {links : List (String × Fields)}
    {field : String × Json} (chain : Chain document fields links merged)
    (member : field ∈ kept merged) :
    Reaches document (.object fields) (links.map (·.1)) field.2 :=
  List.append_nil (links.map (·.1)) ▸
    chain.reaches.trans (Unfolds.reaches (.field chain.free member))

theorem Reaches.meets {v w x : Json} {first second : List String}
    (reaches : Reaches document v first w) (meets : Meets document w second x) :
    Meets document v (first ++ second) x := by
  obtain ⟨fields, inner, next⟩ := meets
  exact ⟨fields, reaches.trans inner, next⟩

/-- A reference met below an object with a whole chain is one of the chain or stands below a field
that survives it. -/
theorem Chain.meets_cases {fields merged : Fields} {links : List (String × Fields)}
    {trail : List String} {x : Json} (chain : Chain document fields links merged)
    (meets : Meets document (.object fields) trail x) :
    (∃ before p upper after, links = before ++ (p, upper) :: after ∧ trail = before.map (·.1) ∧
      x = .string p) ∨
    ∃ field ∈ kept merged, ∃ rest, trail = links.map (·.1) ++ rest ∧
      Meets document field.2 rest x := by
  obtain ⟨final, reaches, met⟩ := meets
  induction chain generalizing trail with
  | done free =>
    cases reaches with
    | here => cases free.symm.trans met
    | step unfolds inner =>
      cases unfolds with
      | field _ member => exact Or.inr ⟨_, member, _, rfl, final, inner, met⟩
      | follow next _ => cases free.symm.trans next
  | @link fields upper merged p links next leads _ ih =>
    cases reaches with
    | here =>
      cases met.symm.trans next
      exact Or.inl ⟨[], p, upper, links, rfl, rfl, rfl⟩
    | step unfolds inner =>
      cases unfolds with
      | field free _ => cases free.symm.trans next
      | follow next' leads' =>
        cases next.symm.trans next'
        cases leads.unique leads'
        rcases ih inner with
          ⟨before, q, target, after, rfl, rfl, same⟩ | ⟨field, member, rest, rfl, below⟩
        · exact Or.inl ⟨(p, upper) :: before, q, target, after, rfl, rfl, same⟩
        · exact Or.inr ⟨field, member, rest, rfl, below⟩

end OperatorKit.Schema
