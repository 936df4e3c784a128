import OperatorKit.Proofs.Schema.Depth

/-!
What the limit on depth does: it cuts a run off and changes nothing else. A run with fewer levels
ends at its limit or in the way a run with more levels ends, and it ends at its limit exactly where
the result nests deeper than the limit allows.
-/

namespace OperatorKit.Schema

section CutOff

variable {α β ε : Type}

def CutOff (e : ε) (first second : Except ε α) : Prop :=
  first = .error e ∨ first = second

theorem CutOff.map {e : ε} {first second : Except ε α} (g : α → β) (cut : CutOff e first second) :
    CutOff e (first.map g) (second.map g) := by
  rcases cut with stopped | same
  · exact Or.inl (stopped ▸ rfl)
  · exact Or.inr (same ▸ rfl)

theorem CutOff.mapM {e : ε} {f g : α → Except ε β} {as : List α}
    (cut : ∀ a ∈ as, CutOff e (f a) (g a)) : CutOff e (as.mapM f) (as.mapM g) := by
  induction as with
  | nil => exact Or.inr rfl
  | cons a rest ih =>
    rw [List.mapM_cons, List.mapM_cons]
    rcases cut a List.mem_cons_self with stopped | same
    · exact Or.inl (stopped ▸ rfl)
    · cases first : g a with
      | error e' => exact Or.inr (by rw [same, first]; rfl)
      | ok b =>
        rw [same, first]
        exact (ih fun x member => cut x (List.mem_cons_of_mem _ member)).map (b :: ·)

end CutOff

variable {document : Json} {limit limit' more levels levels' : Nat} {stack : Stack}

/-- A run with fewer levels is the run with more, as long as its limit does not stop it. -/
theorem resolveValue_cutOff {v : Json} (fewer : levels ≤ levels') :
    CutOff (.tooDeep limit) (resolveValue document limit more levels v stack).1
      (resolveValue document limit' more levels' v stack).1 := by
  induction levels generalizing levels' v stack with
  | zero => exact Or.inl rfl
  | succ levels ih =>
    obtain ⟨levels', rfl⟩ : ∃ n, levels' = n + 1 := ⟨levels' - 1, by omega⟩
    have fewer := Nat.le_of_succ_le_succ fewer
    cases v with
    | array vs =>
      rw [resolveValue_array, resolveValue_array]
      exact (CutOff.mapM fun v _ => ih fewer).map Json.array
    | object fields =>
      cases inlined : inline document more fields stack with
      | mk result inner =>
        cases result with
        | error e => exact Or.inr (by simp only [resolveValue, inlined])
        | ok merged =>
          rw [resolveValue_object inlined, resolveValue_object inlined]
          exact (CutOff.mapM fun field _ => (ih fewer).map _).map Json.object
    | _ => exact Or.inr rfl

theorem height_lt_of_resolveValue {v r : Json}
    (run : (resolveValue document limit more levels v stack).1 = .ok r) : r.height < levels := by
  induction levels generalizing v stack r with
  | zero => cases run
  | succ levels ih =>
    cases v with
    | array vs =>
      obtain ⟨rs, rfl, items⟩ := resolveValue_array_ok run
      refine Nat.lt_succ_of_le (Json.height_array_le_iff.mpr fun r member => ?_)
      obtain ⟨v, resolved⟩ := exists_of_forall₂ items.flip member
      exact ih resolved
    | object fields =>
      obtain ⟨links, merged, rs, _, _, rfl, values⟩ := resolveValue_object_ok run
      refine Nat.lt_succ_of_le (Json.height_object_le_iff.mpr fun result member => ?_)
      obtain ⟨field, _, resolved⟩ := exists_of_forall₂ values.flip member
      exact ih resolved
    | _ =>
      rw [resolveValue_scalar ⟨rfl, rfl⟩] at run
      cases run
      exact Nat.succ_pos levels

/-- Where the limit stops a run that has a result with another limit, the result nests too deep. -/
theorem le_height_of_tooDeep {v r : Json} {n : Nat}
    (stopped : (resolveValue document limit more levels v stack).1 = .error (.tooDeep n))
    (run : (resolveValue document limit' more levels' v stack).1 = .ok r) : levels ≤ r.height := by
  induction levels generalizing levels' v stack r with
  | zero => exact Nat.zero_le _
  | succ levels ih =>
    cases levels' with
    | zero => cases run
    | succ levels' =>
      cases v with
      | array vs =>
        obtain ⟨v, member, fails⟩ := resolveValue_array_error stopped
        obtain ⟨rs, rfl, items⟩ := resolveValue_array_ok run
        obtain ⟨r, there, resolved⟩ := exists_mem_of_forall₂ items member
        exact Nat.lt_of_le_of_lt (ih fails resolved)
          (Json.height_array_le_iff.mp (Nat.le_refl _) r there)
      | object fields =>
        obtain ⟨links, merged, rs, chain, _, rfl, values⟩ := resolveValue_object_ok run
        rcases resolveValue_object_error stopped with
          broken | ⟨links', merged', field, chain', _, member, fails⟩
        · exact absurd broken inline_ne_tooDeep
        · obtain ⟨rfl, rfl⟩ := chain.unique chain'
          obtain ⟨result, there, _, resolved⟩ := exists_mem_of_forall₂ values member
          exact Nat.lt_of_le_of_lt (ih fails resolved)
            (Json.height_object_le_iff.mp (Nat.le_refl _) result there)
      | _ =>
        rw [resolveValue_scalar ⟨rfl, rfl⟩] at stopped
        cases stopped

theorem resolve_cutOff (document node : Json) (limit limit' : Nat) (lower : limit ≤ limit') :
    CutOff (.tooDeep limit) (resolve document limit node) (resolve document limit' node) :=
  resolveValue_cutOff (Nat.succ_le_succ lower)

/-- The limit cuts off exactly the results that nest deeper: a value is the result with one limit if
it is so with any and nests no deeper than this one. Any other failure stays the same with a higher
limit, and a failure at the limit names the limit. -/
theorem resolve_ok_iff_height_le (document node : Json) (limit : Nat) :
    (∀ r, resolve document limit node = .ok r ↔
      r.height ≤ limit ∧ ∃ other, resolve document other node = .ok r) ∧
    (∀ e, resolve document limit node = .error e → (∀ n, e ≠ .tooDeep n) →
      ∀ higher, limit ≤ higher → resolve document higher node = .error e) ∧
    (∀ n, resolve document limit node = .error (.tooDeep n) → n = limit) := by
  refine ⟨fun r => ⟨fun run => ?_, ?_⟩, ?_, ?_⟩
  · exact ⟨Nat.le_of_lt_succ (height_lt_of_resolveValue run), limit, run⟩
  · rintro ⟨low, other, run⟩
    rcases Nat.le_total limit other with lower | higher
    · rcases resolve_cutOff document node limit other lower with stopped | same
      · exact absurd (le_height_of_tooDeep stopped run) (Nat.not_le_of_lt (Nat.lt_succ_of_le low))
      · exact same.trans run
    · rcases resolve_cutOff document node other limit higher with stopped | same
      · cases stopped.symm.trans run
      · exact same.symm.trans run
  · intro e failed other higher lower
    rcases resolve_cutOff document node limit higher lower with stopped | same
    · cases stopped.symm.trans failed
      exact absurd rfl (other limit)
    · exact same.symm.trans failed
  · intro n failed
    rcases resolve_error failed with same | ⟨trail, x, _, broken⟩
    · cases same
      rfl
    · rcases enter_error broken with ⟨_, _, _, same⟩ | isLocal
      · cases same
      · cases isLocal

def danglingNode : Json :=
  .array [.object [(Keyword.reference, .string "#/d")], .array [.array []]]

theorem aliasNode_height :
    aliasMeaning.height = 3 ∧ resolve aliasDocument 9 aliasNode = .ok aliasMeaning ∧
      resolve aliasDocument 3 aliasNode = .ok aliasMeaning ∧
      resolve aliasDocument 2 aliasNode = .error (.tooDeep 2) ∧
      resolve aliasDocument 0 danglingNode = .error (.tooDeep 0) ∧
      resolve aliasDocument 1 danglingNode = .error (.unresolved "#/d") ∧
      resolve aliasDocument 9 danglingNode = .error (.unresolved "#/d") := by
  have height : aliasMeaning.height = 3 := rfl
  have high : resolve aliasDocument 9 aliasNode = .ok aliasMeaning := rfl
  have low : resolve aliasDocument 2 aliasNode = .error (.tooDeep 2) := rfl
  have shallow : resolve aliasDocument 0 danglingNode = .error (.tooDeep 0) := rfl
  have dangling : resolve aliasDocument 1 danglingNode = .error (.unresolved "#/d") := rfl
  obtain ⟨exactly, _, _⟩ := resolve_ok_iff_height_le aliasDocument aliasNode 3
  obtain ⟨_, stays, _⟩ := resolve_ok_iff_height_le aliasDocument danglingNode 1
  exact ⟨height, high, (exactly aliasMeaning).mpr ⟨Nat.le_of_eq height, 9, high⟩, low, shallow,
    dangling, stays _ dangling (fun _ => by simp) 9 (by decide)⟩

end OperatorKit.Schema
