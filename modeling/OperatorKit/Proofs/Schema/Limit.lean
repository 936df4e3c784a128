import OperatorKit.Proofs.Schema.Success

/-!
What the limit on depth counts. It is a limit on the levels of a result, and a scalar takes one like
any other value. So where objects and arrays are as deep as the limit allows, the schema resolves
exactly if those that are that deep are empty, and one level more is always enough.
-/

namespace OperatorKit.Schema

variable {document node r : Json} {limit other : Nat}

theorem resolve_of_resolve (run : resolve document other node = .ok r) :
    resolve document limit node = if r.height ≤ limit then .ok r else .error (.tooDeep limit) := by
  obtain ⟨passable, means, _⟩ := resolve_ok_iff.mp run
  split
  · rename_i low
    exact resolve_ok_iff.mpr ⟨passable, means, low⟩
  · rename_i high
    have enough : r.height ≤ max limit r.height := Nat.le_max_right _ _
    have whole : resolve document (max limit r.height) node = .ok r :=
      resolve_ok_iff.mpr ⟨passable, means, enough⟩
    rcases resolve_cutOff document node limit _ (Nat.le_max_left limit r.height) with stopped | same
    · exact stopped
    · exact absurd (resolve_ok_iff.mp (same.trans whole)).2.2 high

/-- Below objects and arrays within a limit there is at most one level more. -/
theorem height_le_of_containers (shallow : ∀ n w, r.AtLevel n w → w.IsContainer → n ≤ limit) :
    r.height ≤ limit + 1 := by
  refine Json.height_le_iff.mpr fun k w below => ?_
  cases k with
  | zero => exact Nat.zero_le _
  | succ k =>
    obtain ⟨u, above, last⟩ := below.parent
    exact Nat.succ_le_succ (shallow k u above last.isContainer)

theorem height_le_iff_of_containers (shallow : ∀ n w, r.AtLevel n w → w.IsContainer → n ≤ limit) :
    r.height ≤ limit ↔ ∀ w, ¬ r.AtLevel (limit + 1) w := by
  constructor
  · intro low w below
    have deep := below.le_height
    omega
  · intro nothing
    refine Json.height_le_iff.mpr fun k w below => ?_
    have most := Json.height_le_iff.mp (height_le_of_containers shallow) k w below
    rcases Nat.lt_or_eq_of_le most with within | rfl
    · exact Nat.le_of_lt_succ within
    · exact absurd below (nothing w)

/-- Let a schema resolve with some limit, and let no object and no array of the result stand more
than `limit` levels below its top. Then it resolves to the same with this limit exactly if nothing
stands one level deeper either, as a scalar might; if one does, the limit is exceeded. With a limit
higher by one it always resolves. -/
theorem resolve_of_containers (run : resolve document other node = .ok r)
    (shallow : ∀ n w, r.AtLevel n w → w.IsContainer → n ≤ limit) :
    (resolve document limit node = .ok r ↔ ∀ w, ¬ r.AtLevel (limit + 1) w) ∧
    ((∃ w, r.AtLevel (limit + 1) w) → resolve document limit node = .error (.tooDeep limit)) ∧
    resolve document (limit + 1) node = .ok r := by
  have exactly := height_le_iff_of_containers shallow
  refine ⟨?_, ?_, ?_⟩
  · rw [resolve_of_resolve run, ← exactly]
    split <;> simp_all
  · rintro ⟨w, below⟩
    have high : ¬ r.height ≤ limit := fun low => exactly.mp low w below
    rw [resolve_of_resolve run, if_neg high]
  · rw [resolve_of_resolve run, if_pos (height_le_of_containers shallow)]

def leafNode : Json :=
  .object [("type", .string "object")]

def leafDocument : Json :=
  .object [("leaf", leafNode)]

def leavesNode : Json :=
  .object [("oneOf", .array [.object [(Keyword.reference, .string "#/leaf")], .object []])]

def leavesMeaning : Json :=
  .object [("oneOf", .array [leafNode, .object []])]

/-- The objects of the result stand two levels below its top, and the limit of two is exceeded by the
type of one of them. -/
theorem leavesNode_too_deep :
    (∀ n w, leavesMeaning.AtLevel n w → w.IsContainer → n ≤ 2) ∧
      resolve leafDocument 9 leavesNode = .ok leavesMeaning ∧
      resolve leafDocument 2 leavesNode = .error (.tooDeep 2) ∧
      ¬ (∀ w, ¬ leavesMeaning.AtLevel 3 w) ∧
      resolve leafDocument 3 leavesNode = .ok leavesMeaning := by
  have shallow : ∀ n w, leavesMeaning.AtLevel n w → w.IsContainer → n ≤ 2 :=
    fun n w below container => Nat.le_of_lt_succ (below.lt_nesting container)
  have run : resolve leafDocument 9 leavesNode = .ok leavesMeaning := rfl
  have type : leavesMeaning.AtLevel 3 (.string "object") :=
    .field List.mem_cons_self (.item List.mem_cons_self (.field List.mem_cons_self .here))
  obtain ⟨_, exceeded, enough⟩ := resolve_of_containers run shallow
  exact ⟨shallow, run, exceeded ⟨_, type⟩, fun nothing => nothing _ type, enough⟩

theorem scalar_exceeds_limit :
    ¬ ∀ (document node r : Json) (limit other : Nat), limit < other →
      resolve document other node = .ok r →
      (∀ n w, r.AtLevel n w → w.IsContainer → n ≤ limit) →
      resolve document limit node = .ok r := by
  intro resolves
  have shallow : ∀ n w, leafNode.AtLevel n w → w.IsContainer → n ≤ 0 :=
    fun n w below container => Nat.le_of_lt_succ (below.lt_nesting container)
  have stopped : resolve .null 0 leafNode = .error (.tooDeep 0) := rfl
  cases stopped.symm.trans (resolves .null leafNode leafNode 0 64 (by decide) rfl shallow)

end OperatorKit.Schema
