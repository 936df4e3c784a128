import Mathlib.Logic.Relation
import OperatorKit.Proofs.Schema.Depth

/-!
When a cycle is reported. The stack of a run is the trail that unfolding has followed, so a cycle is
reported where a reference is met below the place at which it was spliced in. What stands there is
more than the target of the reference: the fields beside it stay, and they are resolved under the
same stack. In a document without cycles those fields are the only way to meet a reference again,
and a schema with such a field is refused although it unfolds completely.
-/

namespace OperatorKit.Schema

open Relation

/-- Keys below which a reference is followed. -/
def survives (key : String) : Bool :=
  !Keyword.isStripped key

/-- One reference leads to an object in which the other is written and would be followed. -/
def Refers (document : Json) (p q : String) : Prop :=
  ∃ upper, Leads document p upper ∧ Written survives (.object upper) (.string q)

def Acyclic (document : Json) : Prop :=
  ∀ p, ¬ TransGen (Refers document) p p

def Reenters (document node : Json) : Prop :=
  ∃ trail p, Meets document node trail (.string p) ∧ p ∈ trail

/-- A field stands beside a reference, no target replaces it, and the reference is met below it. -/
def MeetsBeside (document node : Json) : Prop :=
  ∃ trail fields p upper links merged field rest, Reaches document node trail (.object fields) ∧
    Chain document fields ((p, upper) :: links) merged ∧ field ∈ fields ∧ field ∈ kept merged ∧
    Meets document field.2 rest (.string p)

variable {document node : Json}

theorem acyclic_of_nothing_written (nothing : ∀ x, ¬ Written Json.everyKey document x) :
    Acyclic document := by
  intro p cycle
  obtain ⟨q, ⟨upper, leads, written⟩, _⟩ := TransGen.head'_iff.mp cycle
  exact nothing _ (written.anywhere.lift leads.inside)

theorem Reaches.origin {v w : Json} {trail : List String} {q : String}
    (reaches : Reaches document v trail w) (written : Written survives w (.string q)) :
    ∃ p, Written survives v (.string p) ∧ ReflTransGen (Refers document) p q := by
  induction reaches with
  | here => exact ⟨q, written, .refl⟩
  | step unfolds _ ih =>
    obtain ⟨p, inner, path⟩ := ih written
    rcases unfolds.written (fun _ plain => by simp [survives, plain]) inner with
      before | ⟨p', followed, upper, leads, target⟩
    · exact ⟨p, before, path⟩
    · exact ⟨p', unfolds.label_written followed, .head ⟨upper, leads, target⟩ path⟩

theorem Meets.origin {v : Json} {trail : List String} {q : String}
    (meets : Meets document v trail (.string q)) :
    ∃ p, Written survives v (.string p) ∧ ReflTransGen (Refers document) p q := by
  obtain ⟨fields, reaches, next⟩ := meets
  exact reaches.origin (.own (Entries.mem_of_lookup next))

theorem Reaches.split {v w : Json} {trail : List String} {p : String}
    (reaches : Reaches document v trail w) (followed : p ∈ trail) :
    ∃ before fields upper after, Reaches document v before (.object fields) ∧
      fields.lookup Keyword.reference = some (.string p) ∧ Leads document p upper ∧
      Reaches document (.object (splice fields upper)) after w := by
  induction reaches with
  | here => cases followed
  | step unfolds rest ih =>
    rcases List.mem_append.mp followed with label | later
    · cases unfolds with
      | follow next leads =>
        cases List.mem_singleton.mp label
        exact ⟨[], _, _, _, .here, next, leads, rest⟩
      | _ => cases label
    · obtain ⟨before, fields, upper, after, first, next, leads, last⟩ := ih later
      exact ⟨_, fields, upper, after, .step unfolds first, next, leads, last⟩

theorem leads_of_splice {fields upper : Fields} {p p' : String}
    (path : ReflTransGen (Refers document) p p') (leads : Leads document p' upper) (q : String)
    (member : (Keyword.reference, .string q) ∈ splice fields upper) :
    TransGen (Refers document) p q := by
  rcases mem_splice member with ⟨_, apart⟩ | above
  · exact absurd rfl apart
  · exact .tail' path ⟨upper, leads, .own above⟩

/-- Below a spliced object a reference is met in the chain, where the first reference leads to it,
or below a field, which is one of the object or comes from a target the first reference leads to. -/
theorem meets_below {fields : Fields} {trail : List String} {p q : String}
    (own : ∀ q, (Keyword.reference, .string q) ∈ fields → TransGen (Refers document) p q)
    (meets : Meets document (.object fields) trail (.string q)) :
    TransGen (Refers document) p q ∨
      ∃ links merged field rest, Chain document fields links merged ∧ field ∈ kept merged ∧
        (field ∈ fields ∨ ∃ p' upper, ReflTransGen (Refers document) p p' ∧
          Leads document p' upper ∧ field ∈ upper) ∧
        Meets document field.2 rest (.string q) := by
  obtain ⟨final, reaches, next⟩ := meets
  generalize start : Json.object fields = v at reaches
  generalize finish : Json.object final = w at reaches
  induction reaches generalizing fields with
  | here =>
    cases start.trans finish.symm
    exact Or.inl (own q (Entries.mem_of_lookup next))
  | step unfolds rest ih =>
    subst start finish
    cases unfolds with
    | @field _ field free member =>
      exact Or.inr ⟨[], fields, field, _, .done free, member, Or.inl (mem_kept.mp member).1,
        final, rest, next⟩
    | @follow _ upper p' next' leads =>
      have path := (own p' (Entries.mem_of_lookup next')).to_reflTransGen
      refine (ih (leads_of_splice path leads) rfl rfl).imp_right ?_
      rintro ⟨links, merged, field, rest, chain, member, origin, below⟩
      refine ⟨_, merged, field, rest, .link next' leads chain, member, ?_, below⟩
      rcases origin with spliced | target
      · rcases mem_splice spliced with ⟨old, _⟩ | above
        · exact Or.inl old
        · exact Or.inr ⟨p', upper, path, leads, above⟩
      · exact Or.inr target

theorem Reenters.beside (acyclic : Acyclic document) (reenters : Reenters document node) :
    MeetsBeside document node := by
  obtain ⟨trail, p, ⟨final, reaches, last⟩, followed⟩ := reenters
  obtain ⟨before, fields, upper, after, first, next, leads, rest⟩ := reaches.split followed
  -- A field of a target that leads back to the reference would close a cycle of the document.
  have apart : ∀ p' target field rest, ReflTransGen (Refers document) p p' →
      Leads document p' target → field ∈ target → Keyword.isStripped field.1 = false →
      ¬ Meets document field.2 rest (.string p) := by
    intro p' target field rest path leads member plain below
    obtain ⟨q, written, back⟩ := below.origin
    have edge : Refers document p' q :=
      ⟨target, leads, written.field member (by simp [survives, plain])⟩
    exact acyclic p (.trans_right path (.head' edge back))
  rcases meets_below (leads_of_splice .refl leads) ⟨final, rest, last⟩ with
    cycle | ⟨links, merged, field, tail, chain, member, origin, below⟩
  · exact absurd cycle (acyclic p)
  · have plain := (mem_kept.mp member).2
    rcases origin with spliced | ⟨p', target, path, leads', above⟩
    · rcases mem_splice spliced with ⟨old, _⟩ | above
      · exact ⟨before, fields, p, upper, links, merged, field, tail, first,
          .link next leads chain, old, member, below⟩
      · exact absurd below (apart p upper field tail .refl leads above plain)
    · exact absurd below (apart p' target field tail path leads' above plain)

theorem MeetsBeside.reenters (beside : MeetsBeside document node) : Reenters document node := by
  obtain ⟨_, fields, p, upper, links, merged, field, rest, first, chain, _, member, below⟩ := beside
  refine ⟨_, p, (first.trans (chain.reaches_field member)).meets below, ?_⟩
  simp

theorem reenters_of_circular {limit : Nat} {chain : List String}
    (failed : resolve document limit node = .error (.circular chain)) : Reenters document node := by
  rcases resolve_error failed with same | ⟨trail, x, meets, broken⟩
  · cases same
  · rcases enter_error broken with ⟨p, known, rfl, _⟩ | isLocal
    · exact ⟨trail, p, meets, known⟩
    · cases isLocal

theorem Reenters.fails (reenters : Reenters document node) (limit : Nat) :
    ∃ e, resolve document limit node = .error e := by
  obtain ⟨trail, p, meets, known⟩ := reenters
  cases run : resolve document limit node with
  | error e => exact ⟨e, rfl⟩
  | ok r =>
    obtain ⟨_, _, same, fresh, _⟩ := resolveValue_ok_meets run List.nodup_nil meets
    cases same
    exact absurd known fresh

/-- In a document without cycles a cycle is reported only for a field beside a reference, and a
schema with such a field is always refused: as a cycle, where nothing else is wrong with it. -/
theorem circular_iff_meetsBeside (document node : Json) (acyclic : Acyclic document) :
    (∀ limit chain, resolve document limit node = .error (.circular chain) →
      MeetsBeside document node) ∧
    (MeetsBeside document node → ∀ limit, ∃ e, resolve document limit node = .error e) ∧
    (Grounded document node → ∀ limit, depthBound document node ≤ limit →
      ((∃ chain, resolve document limit node = .error (.circular chain)) ↔
        MeetsBeside document node)) := by
  refine ⟨fun _ _ failed => (reenters_of_circular failed).beside acyclic,
    fun beside => beside.reenters.fails, ?_⟩
  intro grounded limit enough
  constructor
  · rintro ⟨chain, failed⟩
    exact (reenters_of_circular failed).beside acyclic
  · intro beside
    obtain ⟨e, failed⟩ := beside.reenters.fails limit
    obtain ⟨chain, rfl⟩ := grounded.error_circular enough failed
    exact ⟨chain, failed⟩

def plainDocument : Json :=
  .object [("a", .object [("type", .string "string")])]

def besideNode : Json :=
  .object [(Keyword.reference, .string "#/a"),
    ("b", .object [(Keyword.reference, .string "#/a")])]

theorem plainDocument_bare (x : Json) : ¬ Written Json.everyKey plainDocument x := by
  simp [plainDocument, Keyword.reference, written_object_iff, not_written_scalar, Json.fields?,
    Json.items?]

theorem plainDocument_leads : Leads plainDocument "#/a" [("type", .string "string")] :=
  ⟨⟨"#/a", [], "a"⟩, rfl, rfl⟩

theorem besideNode_grounded : Grounded plainDocument besideNode := by
  rintro x (written | written)
  · refine ⟨"#/a", [("type", .string "string")], ?_, plainDocument_leads⟩
    simpa [besideNode, Keyword.reference, Json.everyKey, written_object_iff, not_written_scalar,
      Json.fields?, Json.items?] using written
  · exact absurd written (plainDocument_bare x)

/-- A cycle is reported although the document has none and the schema has a meaning. -/
theorem circular_without_cycle :
    Acyclic plainDocument ∧
      Means plainDocument besideNode
        (.object [("b", .object [("type", .string "string")]), ("type", .string "string")]) ∧
      resolve plainDocument 64 besideNode = .error (.circular ["#/a", "#/a"]) := by
  refine ⟨acyclic_of_nothing_written plainDocument_bare, ?_, rfl⟩
  have scalar : Means plainDocument (.string "string") (.string "string") := .scalar ⟨rfl, rfl⟩
  have inner : Means plainDocument (.object [(Keyword.reference, .string "#/a")])
      (.object [("type", .string "string")]) :=
    .object (.link rfl plainDocument_leads (.done rfl)) rfl (.cons scalar .nil)
  exact .object (.link rfl plainDocument_leads (.done rfl)) rfl (.cons inner (.cons scalar .nil))

theorem besideNode_circular :
    Acyclic plainDocument ∧ Grounded plainDocument besideNode ∧
      resolve plainDocument 64 besideNode = .error (.circular ["#/a", "#/a"]) ∧
      MeetsBeside plainDocument besideNode ∧
      (∃ e, resolve plainDocument 0 besideNode = .error e) ∧
      ∃ chain, resolve plainDocument 64 besideNode = .error (.circular chain) := by
  have acyclic := acyclic_of_nothing_written plainDocument_bare
  obtain ⟨only, always, exactly⟩ := circular_iff_meetsBeside plainDocument besideNode acyclic
  have beside := only 64 _ rfl
  exact ⟨acyclic, besideNode_grounded, rfl, beside, always beside 0,
    (exactly besideNode_grounded 64 (by decide)).mpr beside⟩

end OperatorKit.Schema
