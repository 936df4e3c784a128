import OperatorKit.Proofs.Schema.CutOff
import OperatorKit.Proofs.Schema.Strip

/-!
Schemas without references. A run on such a schema has nothing to look up in the document: it takes
the documentation out, and fails only where what is left nests deeper than the limit allows. What a
run gives is such a schema, without documentation as well, so a second run gives it back.
-/

namespace OperatorKit.Schema

/-- No object has a reference, but for what stands under keys that never survive. -/
def ReferenceFree (v : Json) : Prop :=
  ∀ x, ¬ Written survives v x

section Free

variable {document : Json} {limit more levels : Nat} {stack : Stack}

theorem ReferenceFree.item {vs : List Json} (free : ReferenceFree (.array vs)) {v : Json}
    (member : v ∈ vs) : ReferenceFree v :=
  fun x written => free x (written.item member)

theorem ReferenceFree.field {fields : Fields} (free : ReferenceFree (.object fields))
    {field : String × Json} (member : field ∈ kept fields) : ReferenceFree field.2 := by
  obtain ⟨there, plain⟩ := mem_kept.mp member
  exact fun x written => free x (written.field there (by simp [survives, plain]))

theorem ReferenceFree.lookup {fields : Fields} (free : ReferenceFree (.object fields)) :
    fields.lookup Keyword.reference = none := by
  cases next : fields.lookup Keyword.reference with
  | none => rfl
  | some x => exact absurd (.own (Entries.mem_of_lookup next)) (free x)

theorem strip_array (vs : List Json) : strip (.array vs) = .array (vs.map strip) := by
  rw [strip, stripItems_eq]

theorem ReferenceFree.strip_object {fields : Fields} (free : ReferenceFree (.object fields)) :
    strip (.object fields) = .object ((kept fields).map fun field => (field.1, strip field.2)) :=
  congrArg Json.object (stripFields_of_free free.lookup)

/-- The levels left are enough for exactly the values that nest less deep. -/
theorem resolveValue_of_referenceFree {v : Json} (free : ReferenceFree v) :
    (resolveValue document limit more levels v stack).1 =
      if (strip v).height < levels then .ok (strip v) else .error (.tooDeep limit) := by
  induction levels generalizing v stack with
  | zero => rfl
  | succ levels ih =>
    cases v with
    | array vs =>
      have each : ∀ v ∈ vs, (resolveValue document limit more levels v stack).1 =
          if (strip v).height < levels then .ok (strip v) else .error (.tooDeep limit) :=
        fun v member => ih (free.item member)
      have room : (Json.array (vs.map strip)).height < levels + 1 ↔
          ∀ v ∈ vs, (strip v).height < levels := by
        rw [Nat.lt_succ_iff, Json.height_array_le_iff, List.forall_mem_map]
      rw [resolveValue_array, mapM_of_bounded each, map_ite, strip_array]
      simp only [room]
    | object fields =>
      have nothing : inline document more fields stack = (.ok fields, stack) := by
        cases more <;> simp only [inline, free.lookup]
      have each : ∀ field ∈ kept fields,
          ((resolveValue document limit more levels field.2 stack).1.map fun v => (field.1, v)) =
            if (strip field.2).height < levels then .ok (field.1, strip field.2)
            else .error (.tooDeep limit) := by
        intro field member
        rw [ih (free.field member), map_ite]
      have room : (Json.object ((kept fields).map fun field => (field.1, strip field.2))).height <
          levels + 1 ↔ ∀ field ∈ kept fields, (strip field.2).height < levels := by
        rw [Nat.lt_succ_iff, Json.height_object_le_iff, List.forall_mem_map]
      rw [resolveValue_object nothing, mapM_of_bounded each, map_ite, free.strip_object]
      simp only [room]
    | _ => rfl

end Free

section Again

theorem referenceFree_of_clean {v : Json} (clean : v.Clean) : ReferenceFree v := by
  rintro x ⟨fields, inside, member⟩
  exact (Keyword.plain_iff.mp (clean fields inside.anywhere _ member)).2 rfl

theorem strip_of_clean {v : Json} (clean : v.Clean) : strip v = v := by
  induction v using Json.induct with
  | scalar v plain => cases v <;> simp [strip, Json.fields?, Json.items?] at plain ⊢
  | array vs ih =>
    have items := List.map_congr_left fun v member =>
      ih v member (Json.clean_array_iff.mp clean v member)
    rw [strip_array, items, List.map_id']
  | object fields ih =>
    have plain := Json.clean_object_iff.mp clean
    have whole : kept fields = fields := by
      refine List.filter_eq_self.mpr fun field member => ?_
      rw [(Keyword.plain_iff.mp (plain field member).1).1, Bool.not_false]
    have values : fields.map (fun field => (field.1, strip field.2)) = fields.map id :=
      List.map_congr_left fun field member => by rw [ih field member (plain field member).2, id]
    rw [(referenceFree_of_clean clean).strip_object, whole, values, List.map_id]

/-- Without references to follow, a schema resolves to itself without its documentation, whatever
the document, exactly when that does not nest too deep; and what any schema resolves to is given
back by every further resolution. -/
theorem resolve_referenceFree (document node : Json) (limit : Nat) :
    (ReferenceFree node → resolve document limit node =
      if (strip node).height ≤ limit then .ok (strip node) else .error (.tooDeep limit)) ∧
    ∀ r, resolve document limit node = .ok r → ∀ other, resolve other limit r = .ok r := by
  have once : ∀ document v, ReferenceFree v → resolve document limit v =
      if (strip v).height ≤ limit then .ok (strip v) else .error (.tooDeep limit) := by
    intro document v free
    simp only [← Nat.lt_succ_iff]
    exact resolveValue_of_referenceFree free
  refine ⟨once document node, fun r resolved other => ?_⟩
  have clean := (means_of_resolveValue resolved).clean
  have low := Nat.le_of_lt_succ (height_lt_of_resolveValue resolved)
  rw [once other r (referenceFree_of_clean clean), strip_of_clean clean, if_pos low]

def documentedNode : Json :=
  .object [("title", .object [(Keyword.reference, .string "#/none")]),
    ("anyOf", .array [.object [("x-of", .object [(Keyword.reference, .ofInt 0)]),
      ("type", .string "string")]])]

theorem documentedNode_referenceFree : ReferenceFree documentedNode := by
  intro x
  simp [documentedNode, Keyword.reference, Keyword.isStripped, Keyword.documentation,
    Keyword.isExtension, survives, written_object_iff, written_array_iff, not_written_scalar,
    Json.fields?, Json.items?]

theorem documentedNode_resolves :
    ReferenceFree documentedNode ∧
      strip documentedNode =
        .object [("anyOf", .array [.object [("type", .string "string")]])] ∧
      resolve .null 3 documentedNode = .ok (strip documentedNode) ∧
      resolve .null 2 documentedNode = .error (.tooDeep 2) ∧
      resolve aliasDocument 3 aliasNode = .ok aliasMeaning ∧
      resolve .null 3 aliasMeaning = .ok aliasMeaning := by
  have free := documentedNode_referenceFree
  have enough : (strip documentedNode).height ≤ 3 := by decide
  have few : ¬ (strip documentedNode).height ≤ 2 := by decide
  have whole := (resolve_referenceFree .null documentedNode 3).1 free
  have cut := (resolve_referenceFree .null documentedNode 2).1 free
  have resolved : resolve aliasDocument 3 aliasNode = .ok aliasMeaning := rfl
  have again := (resolve_referenceFree aliasDocument aliasNode 3).2 aliasMeaning resolved
  exact ⟨free, rfl, whole.trans (if_pos enough), cut.trans (if_neg few), resolved, again .null⟩

end Again

end OperatorKit.Schema
