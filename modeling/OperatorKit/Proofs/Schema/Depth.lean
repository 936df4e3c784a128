import OperatorKit.Proofs.Schema.Failure
import OperatorKit.Proofs.Schema.Meaning

/-!
How deep a run goes. A reference is followed once on the way down, and between two of them the way
leads down one fragment of the value or the document. So the references and the heights bound the
depth, and with a limit above that bound only a reference can stop a run.
-/

namespace OperatorKit.Schema

/-- No run needs more levels: each distinct reference opens at most one fragment, and no fragment is
higher than the node or the document. -/
def depthBound (document node : Json) : Nat :=
  ((references node ++ references document).dedup.length + 1) *
    (max node.height document.height + 1)

/-- Every reference in the node and the document is the text of a path to an object. -/
def Grounded (document node : Json) : Prop :=
  ∀ x, Written Json.everyKey node x ∨ Written Json.everyKey document x →
    ∃ p upper, x = .string p ∧ Leads document p upper

variable {document : Json} {limit more levels height : Nat} {stack : Stack}

theorem Unfolds.height_le {v w : Json} {label : List String} (unfolds : Unfolds document v label w)
    (low : v.height ≤ height) (floor : document.height ≤ height) : w.height ≤ height := by
  cases unfolds with
  | item member => exact Nat.le_of_lt (Json.height_array_le_iff.mp low _ member)
  | field _ member =>
    exact Nat.le_of_lt (Json.height_object_le_iff.mp low _ (mem_kept.mp member).1)
  | follow _ leads =>
    have target := Nat.le_trans leads.inside.height_le floor
    refine Json.height_object_le_iff.mpr fun field member => ?_
    rcases mem_splice member with ⟨below, _⟩ | above
    · exact Json.height_object_le_iff.mp low field below
    · exact Json.height_object_le_iff.mp target field above

theorem Reaches.height_le {v w : Json} {trail : List String} (reaches : Reaches document v trail w)
    (low : v.height ≤ height) (floor : document.height ≤ height) : w.height ≤ height := by
  induction reaches with
  | here => exact low
  | step unfolds _ ih => exact ih (unfolds.height_le low floor)

/-- The levels left cover the rest of the fragment and one fragment for each unused reference. -/
theorem resolveValue_ne_tooDeep {v : Json} {pool : List String} {n : Nat}
    (fits : Fits document more stack v pool) (low : v.height ≤ height)
    (floor : document.height ≤ height)
    (room : v.height + (pool.length - stack.length) * height < levels) :
    (resolveValue document limit more levels v stack).1 ≠ .error (.tooDeep n) := by
  intro run
  induction levels generalizing v stack with
  | zero => exact Nat.not_lt_zero _ room
  | succ levels ih =>
    cases v with
    | array vs =>
      obtain ⟨v, member, fails⟩ := resolveValue_array_error run
      have lower := Json.height_array_le_iff.mp (Nat.le_refl _) v member
      exact ih (fits.item member) (Nat.le_trans (Nat.le_of_lt lower) low) (by omega) fails
    | object fields =>
      rcases resolveValue_object_error run with
        broken | ⟨links, merged, field, chain, extend, member, fails⟩
      · exact inline_ne_tooDeep broken
      · have fits' := fits.reaches (chain.reaches_field member) (extend fits.distinct)
        have below := Json.height_object_le_iff.mp (chain.reaches.height_le low floor) field
          (mem_kept.mp member).1
        refine ih fits' (Nat.le_of_lt below) ?_ fails
        -- Without a reference the fragment gets lower; with one a new fragment may be as high as
        -- any, and the reference that opened it is used up.
        cases chain with
        | done _ =>
          have lower := Json.height_object_le_iff.mp (Nat.le_refl _) field (mem_kept.mp member).1
          simp only [List.map_nil, List.append_nil]
          omega
        | @link _ upper _ p links _ _ _ =>
          have used := fits'.length_le
          simp only [List.length_append, List.map_cons, List.length_cons, List.length_map] at used ⊢
          have fewer : pool.length - (stack.length + (links.length + 1)) + 1 ≤
              pool.length - stack.length := by omega
          have spare := Nat.mul_le_mul_right height fewer
          rw [Nat.succ_mul] at spare
          omega
    | _ =>
      rw [resolveValue_scalar ⟨rfl, rfl⟩] at run
      cases run

theorem resolve_ne_tooDeep {node : Json} (enough : depthBound document node ≤ limit) (n : Nat) :
    resolve document limit node ≠ .error (.tooDeep n) := by
  refine resolveValue_ne_tooDeep (.start document node) (Nat.le_max_left _ document.height)
    (Nat.le_max_right _ _) ?_
  have low := Nat.le_max_left node.height document.height
  unfold depthBound at enough
  rw [Nat.succ_mul, Nat.mul_succ] at enough
  simp only [List.length_nil, Nat.sub_zero]
  omega

theorem Grounded.leads {node x : Json} {trail : List String} (grounded : Grounded document node)
    (meets : Meets document node trail x) : ∃ p upper, x = .string p ∧ Leads document p upper :=
  grounded x meets.written_anywhere

theorem resolve_error {node : Json} {e : SchemaError}
    (failed : resolve document limit node = .error e) :
    e = .tooDeep limit ∨
      ∃ trail x, Meets document node trail x ∧ enter document trail x = .error e := by
  refine (resolveValue_error (.start document node) failed).imp_right ?_
  rintro ⟨trail, x, meets, _, broken⟩
  exact ⟨trail, x, meets, broken⟩

theorem Grounded.error_circular {node : Json} {e : SchemaError} (grounded : Grounded document node)
    (enough : depthBound document node ≤ limit) (failed : resolve document limit node = .error e) :
    ∃ chain, e = .circular chain := by
  rcases resolve_error failed with rfl | ⟨trail, x, meets, broken⟩
  · exact absurd failed (resolve_ne_tooDeep enough _)
  · obtain ⟨p, upper, rfl, leads⟩ := grounded.leads meets
    exact ⟨trail ++ [p], (enter_of_leads leads broken).2⟩

theorem Endless.fails {node : Json} (endless : Endless document node) (limit : Nat) :
    ∃ e, resolve document limit node = .error e := by
  cases run : resolve document limit node with
  | error e => exact ⟨e, rfl⟩
  | ok r => exact absurd endless (means_of_resolveValue run).not_endless

/-- Resolution ends without help from the limit: above a bound that the references and the heights
give, the limit is never reported, a schema whose references all lead somewhere resolves or has a
cycle, and one that unfolds without end fails at every limit and is found to have a cycle. -/
theorem resolve_terminates (document node : Json) :
    (∀ limit, depthBound document node ≤ limit →
      ∀ n, resolve document limit node ≠ .error (.tooDeep n)) ∧
    (Grounded document node → ∀ limit, depthBound document node ≤ limit →
      (∃ r, resolve document limit node = .ok r) ∨
        ∃ chain, resolve document limit node = .error (.circular chain)) ∧
    (Endless document node → ∀ limit, ∃ e, resolve document limit node = .error e) ∧
    (Endless document node → Grounded document node → ∀ limit, depthBound document node ≤ limit →
      ∃ chain, resolve document limit node = .error (.circular chain)) := by
  refine ⟨fun limit enough n => resolve_ne_tooDeep enough n, ?_, Endless.fails, ?_⟩
  · intro grounded limit enough
    cases run : resolve document limit node with
    | ok r => exact Or.inl ⟨r, rfl⟩
    | error e =>
      obtain ⟨chain, rfl⟩ := grounded.error_circular enough run
      exact Or.inr ⟨chain, rfl⟩
  · intro endless grounded limit enough
    obtain ⟨e, run⟩ := endless.fails limit
    obtain ⟨chain, rfl⟩ := grounded.error_circular enough run
    exact ⟨chain, run⟩

def loopDocument : Json :=
  .object [("n", .object [("child", .object [(Keyword.reference, .string "#/n")])])]

def loopNode : Json :=
  .object [(Keyword.reference, .string "#/n")]

theorem loopDocument_leads : Leads loopDocument "#/n" [("child", loopNode)] :=
  ⟨⟨"#/n", [], "n"⟩, rfl, rfl⟩

theorem loopNode_grounded : Grounded loopDocument loopNode := by
  intro x written
  refine ⟨"#/n", _, ?_, loopDocument_leads⟩
  simpa [loopDocument, loopNode, Keyword.reference, Json.everyKey, written_object_iff,
    not_written_scalar, Json.fields?, Json.items?] using written

theorem loopNode_endless : Endless loopDocument loopNode := by
  refine ⟨fun i => if i % 2 = 0 then loopNode else .object [("child", loopNode)], rfl, fun i => ?_⟩
  rcases Nat.mod_two_eq_zero_or_one i with even | odd
  · have next : (i + 1) % 2 ≠ 0 := by omega
    simp only [if_pos even, if_neg next]
    exact ⟨["#/n"], .follow rfl loopDocument_leads⟩
  · have next : (i + 1) % 2 = 0 := by omega
    have here : i % 2 ≠ 0 := by omega
    simp only [if_neg here, if_pos next]
    exact ⟨[], @Unfolds.field _ _ ("child", loopNode) rfl List.mem_cons_self⟩

theorem loopNode_circular :
    Grounded loopDocument loopNode ∧ Endless loopDocument loopNode ∧
      depthBound loopDocument loopNode = 8 ∧
      (∀ n, resolve loopDocument 8 loopNode ≠ .error (.tooDeep n)) ∧
      ((∃ r, resolve loopDocument 8 loopNode = .ok r) ∨
        ∃ chain, resolve loopDocument 8 loopNode = .error (.circular chain)) ∧
      (∃ e, resolve loopDocument 0 loopNode = .error e) ∧
      ∃ chain, resolve loopDocument 8 loopNode = .error (.circular chain) := by
  have bound : depthBound loopDocument loopNode = 8 := by decide
  have enough := Nat.le_of_eq bound
  obtain ⟨never, outcome, fails, circular⟩ := resolve_terminates loopDocument loopNode
  exact ⟨loopNode_grounded, loopNode_endless, bound, never 8 enough,
    outcome loopNode_grounded 8 enough, fails loopNode_endless 0,
    circular loopNode_endless loopNode_grounded 8 enough⟩

end OperatorKit.Schema
