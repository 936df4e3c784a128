import OperatorKit.Proofs.Schema.CutOff
import OperatorKit.Proofs.Schema.Cycles

/-!
What an error of the resolver tells about the schema. Unfolding meets the reference that the error
names, and the reason given is the case: it is foreign, malformed or no text, or it leads nowhere or
to something that is no object. A cycle that is reported lists the references that were followed to
the one that comes back.
-/

namespace OperatorKit.Schema

open Reference (emptySegment ofString)

inductive Justified (document node : Json) : SchemaError → Prop where
  | unresolved {trail : List String} {r : Reference} :
      Meets document node trail (.string r.text) → ofString r.text = .ok r →
      document.walk? (r.directory ++ [r.key]) = none → Justified document node (.unresolved r.text)
  | unsupported {trail : List String} {p : String} :
      Meets document node trail (.string p) → ¬ "#/".toList <+: p.toList →
        Justified document node (.unsupported p)
  | malformed {trail : List String} {path : String} :
      Meets document node trail (.string ("#/" ++ path)) → [] ∈ path.toList.splitOn '/' →
        Justified document node (.invalid ("#/" ++ path) emptySegment)
  | notText {trail : List String} {x : Json} :
      Meets document node trail x → (∀ p, x ≠ .string p) →
        Justified document node (.invalid x.compact notText)
  | notObject {trail : List String} {r : Reference} {v : Json} :
      Meets document node trail (.string r.text) → ofString r.text = .ok r →
      document.walk? (r.directory ++ [r.key]) = some v → v.fields? = none →
        Justified document node (.invalid r.text notObject)
  | circular {trail : List String} {p : String} :
      Meets document node trail (.string p) → trail.Nodup → trail.count p = 1 →
      (∀ q ∈ trail, ∃ upper, Leads document q upper) →
        Justified document node (.circular (trail ++ [p]))

variable {document node : Json} {trail : List String}

theorem Meets.justified_text {p : String} {e : SchemaError}
    (meets : Meets document node trail (.string p)) (refused : ofString p = .error e) :
    Justified document node e := by
  by_cases isLocal : "#/".toList <+: p.toList
  · obtain ⟨path, rfl⟩ := Reference.exists_path isLocal
    rw [Reference.ofString_path] at refused
    split at refused
    · rename_i gap
      cases refused
      exact .malformed meets gap
    · cases refused
  · cases (Reference.ofString_foreign isLocal).symm.trans refused
    exact .unsupported meets isLocal

theorem Meets.justified_target {r : Reference} {e : SchemaError}
    (meets : Meets document node trail (.string r.text)) (read : ofString r.text = .ok r)
    (refused : target document r = .error e) : Justified document node e := by
  unfold target at refused
  split at refused
  · rename_i e' missed
    cases refused
    obtain ⟨nothing, rfl⟩ := Json.lookup_error_iff.mp missed
    exact .unresolved meets read nothing
  · cases refused
  · rename_i v notFields found
    cases refused
    refine .notObject meets read (Json.lookup_ok_iff.mp found) ?_
    cases v with
    | object fields => exact absurd rfl (notFields fields)
    | _ => rfl

theorem Meets.justified {x : Json} {e : SchemaError} (meets : Meets document node trail x)
    (distinct : trail.Nodup) (refused : enter document trail x = .error e) :
    Justified document node e := by
  cases x with
  | string p =>
    cases read : ofString p with
    | error e' =>
      simp only [enter, reference, read, Except.error.injEq] at refused
      exact refused ▸ meets.justified_text read
    | ok r =>
      cases text_ofString read
      simp only [enter, reference, read] at refused
      split at refused
      · rename_i known
        cases refused
        have once := List.count_eq_one_of_mem distinct (List.contains_iff_mem.mp known)
        refine .circular meets distinct once fun q followed => ?_
        obtain ⟨_, reaches, _⟩ := meets
        obtain ⟨_, _, upper, _, _, _, leads, _⟩ := reaches.split followed
        exact ⟨upper, leads⟩
      · exact meets.justified_target read (error_of_map refused)
  | _ =>
    cases refused
    exact .notText meets fun _ same => Json.noConfusion same

/-- No error is spurious: short of the limit, an error names a reference that unfolding meets and
says what is wrong with it, and where every reference that is met leads to an object only the limit
or a cycle is an error. -/
theorem resolve_error_justified (document node : Json) (limit : Nat) :
    (∀ e, resolve document limit node = .error e →
      e = .tooDeep limit ∨ Justified document node e) ∧
    ((∀ trail x, Meets document node trail x → ∃ p upper, x = .string p ∧ Leads document p upper) →
      ∀ e, resolve document limit node = .error e →
        e = .tooDeep limit ∨ ∃ chain, e = .circular chain) := by
  constructor
  · intro e failed
    refine (resolveValue_error (.start document node) failed).imp_right ?_
    rintro ⟨trail, x, meets, distinct, refused⟩
    exact meets.justified distinct refused
  · intro grounded e failed
    refine (resolve_error failed).imp_right ?_
    rintro ⟨trail, x, meets, refused⟩
    obtain ⟨p, upper, rfl, leads⟩ := grounded trail x meets
    exact ⟨trail ++ [p], (enter_of_leads leads refused).2⟩

def brokenDocument : Json :=
  .object [("a", .object [(Keyword.reference, .string "#/b/c")]), ("b", .object [("c", .string "")])]

def brokenNode : Json :=
  .object [("p", .object [(Keyword.reference, .string "#/a")]),
    ("q", .object [(Keyword.reference, .bool true)])]

theorem brokenNode_justified :
    resolve brokenDocument 9 brokenNode = .error (.invalid "#/b/c" notObject) ∧
      Justified brokenDocument brokenNode (.invalid "#/b/c" notObject) ∧
      resolve .null 1 danglingNode = .error (.unresolved "#/d") ∧
      Justified .null danglingNode (.unresolved "#/d") ∧
      Grounded plainDocument besideNode ∧
      resolve plainDocument 64 besideNode = .error (.circular ["#/a", "#/a"]) ∧
      Justified plainDocument besideNode (.circular ["#/a", "#/a"]) ∧
      ∃ chain, SchemaError.circular ["#/a", "#/a"] = .circular chain := by
  have broken : resolve brokenDocument 9 brokenNode = .error (.invalid "#/b/c" notObject) := rfl
  have dangling : resolve .null 1 danglingNode = .error (.unresolved "#/d") := rfl
  have cycle : resolve plainDocument 64 besideNode = .error (.circular ["#/a", "#/a"]) := rfl
  have one := (resolve_error_justified brokenDocument brokenNode 9).1 _ broken
  have two := (resolve_error_justified .null danglingNode 1).1 _ dangling
  obtain ⟨justified, only⟩ := resolve_error_justified plainDocument besideNode 64
  have met : ∀ trail x, Meets plainDocument besideNode trail x →
      ∃ p upper, x = .string p ∧ Leads plainDocument p upper :=
    fun _ _ meets => besideNode_grounded.leads meets
  exact ⟨broken, one.resolve_left (by simp), dangling, two.resolve_left (by simp),
    besideNode_grounded, cycle, (justified _ cycle).resolve_left (by simp),
    (only met _ cycle).resolve_left (by simp)⟩

end OperatorKit.Schema
