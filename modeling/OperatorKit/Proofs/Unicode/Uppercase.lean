import OperatorKit.Proofs.Text.Utf8
import OperatorKit.Unicode.Uppercase

/-!
What upper case does to digits: nothing. A digit of ASCII stays, and no other character is written
with one in front. For characters outside ASCII this is a property of the tables, which is shown for
one row after the other.
-/

namespace OperatorKit.Unicode

namespace Run

variable {rows : List String} {row : List Char} {P : Run → Prop} {Q : Nat × List Char → Prop}

theorem forall_table_cons (here : ∀ r ∈ (Text.cutAt (· = ' ') row).filterMap ofText?, P r)
    (below : ∀ r ∈ table rows, P r) : ∀ r ∈ table (String.ofList row :: rows), P r := by
  intro r member
  rw [table, List.flatMap_cons, String.toList_ofList, List.mem_append] at member
  rcases member with first | later
  · exact here r first
  · exact below r later

theorem forall_sequences_cons
    (here : ∀ s ∈ (Text.cutAt (· = ' ') row).filterMap sequence?, Q s)
    (below : ∀ s ∈ sequences rows, Q s) : ∀ s ∈ sequences (String.ofList row :: rows), Q s := by
  intro s member
  rw [sequences, List.flatMap_cons, String.toList_ofList, List.mem_append] at member
  rcases member with first | later
  · exact here s first
  · exact below s later

theorem le_of_shift? {runs : List Run} {c d : Char} {n : Nat} (high : ∀ r ∈ runs, n ≤ r.value)
    (found : shift? runs c = some d) : d = Char.ofNat 0 ∨ n ≤ d.toNat := by
  obtain ⟨r, member, shifted⟩ := List.exists_of_findSome?_eq_some found
  obtain ⟨offset, _, rfl⟩ := Option.map_eq_some_iff.mp shifted
  by_cases valid : (r.value + offset).isValidChar
  · right
    rw [Char.ofNat, dif_pos valid]
    change n ≤ r.value + offset
    exact Nat.le_trans (high r member) (Nat.le_add_right _ _)
  · left
    rw [Char.ofNat, dif_neg valid]
    rfl

end Run

theorem upperRuns_above : ∀ r ∈ upperRuns, 0x3A ≤ r.value := by
  unfold upperRuns
  repeat
    refine Run.forall_table_cons (by decide +kernel) ?_
  exact List.forall_mem_nil _

theorem upperSequences_open :
    ∀ s ∈ upperSequences, (s.2.head?.any fun d => !d.isDigit) = true := by
  unfold upperSequences
  repeat
    refine Run.forall_sequences_cons (by decide +kernel) ?_
  exact List.forall_mem_nil _

theorem isDigit_of_toNat {c : Char} (above : 0x3A ≤ c.toNat) : c.isDigit = false := by
  rw [Char.isDigit, Bool.and_eq_false_iff]
  right
  apply decide_eq_false
  rw [UInt32.le_iff_toNat_le]
  change ¬ c.toNat ≤ 0x39
  omega

theorem isDigit_toUpper {c : Char} (ascii : c.toNat < 0x80) : c.toUpper.isDigit = c.isDigit :=
  Symbol.of_below (P := fun c => c.toUpper.isDigit = c.isDigit) (by decide) ascii

/-- The first character of an upper case is a digit if and only if the character itself is one. -/
theorem head?_upperChar (c : Char) : ∃ d ∈ (upperChar c).head?, d.isDigit = c.isDigit := by
  unfold upperChar
  split
  · rename_i ascii
    exact ⟨_, rfl, isDigit_toUpper ascii⟩
  · rename_i outside
    have plain : c.isDigit = false := isDigit_of_toNat (by omega)
    rw [plain]
    split
    · rename_i text found
      obtain ⟨front, back, same, _⟩ := List.lookup_eq_some_iff.mp found
      have member : (c.toNat, text) ∈ upperSequences :=
        same ▸ List.mem_append_right front List.mem_cons_self
      obtain ⟨d, first, apart⟩ :=
        (Option.any_eq_true _ _).mp (upperSequences_open _ member)
      exact ⟨d, first, by simpa using apart⟩
    · refine ⟨_, rfl, ?_⟩
      cases found : Run.shift? upperRuns c with
      | none => exact plain
      | some d =>
        rcases Run.le_of_shift? upperRuns_above found with rfl | above
        · rfl
        · exact isDigit_of_toNat above

end OperatorKit.Unicode
