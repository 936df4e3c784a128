import OperatorKit.Proofs.Release.Repository
import OperatorKit.Proofs.Unicode.Uppercase
import OperatorKit.Release.Version

/-!
The variable that a version is assigned to. It consists of capital letters, digits and underscores of
ASCII whatever owner and name consist of, and so it is a name, unless the owner begins with a digit:
the digit is kept, and what begins with one is not the name of a variable.
-/

namespace OperatorKit

structure IsVariableName (text : String) : Prop where
  filled : text ≠ ""
  plain : ∀ c ∈ text.toList, c.isUpper = true ∨ c.isDigit = true ∨ c = '_'
  first : ∀ c ∈ text.toList.head?, c.isDigit = false

def IsAssignment (text : String) : Prop :=
  ∃ name value, text = name ++ "=" ++ value ∧ IsVariableName name

namespace Repository

variable {input : String} {r : Repository}

theorem plain_of_mem_variableName {text : String} {c : Char} (member : c ∈ (variableName text).toList) :
    c.isUpper = true ∨ c.isDigit = true ∨ c = '_' := by
  rw [variableName, String.toList_ofList] at member
  obtain ⟨d, _, rfl⟩ := List.mem_map.mp member
  split
  · rename_i kept
    rw [Bool.or_eq_true] at kept
    exact kept.imp_right Or.inl
  · exact Or.inr (Or.inr rfl)

theorem plain_of_mem_versionVariable {c : Char} (member : c ∈ r.versionVariable.toList) :
    c.isUpper = true ∨ c.isDigit = true ∨ c = '_' := by
  rw [versionVariable, String.toList_append, List.mem_append] at member
  rcases member with named | suffix
  · exact plain_of_mem_variableName named
  · have plain : ∀ c ∈ "_VERSION".toList, c.isUpper = true ∨ c.isDigit = true ∨ c = '_' := by simp
    exact plain c suffix

theorem versionVariable_eq (r : Repository) :
    r.versionVariable = variableName r.owner ++ "_" ++ variableName r.name ++ "_VERSION" := by
  have slash : Unicode.upperChar '/' = ['/'] := by decide
  apply String.toList_inj.mp
  simp [versionVariable, variableName, toList_text, Unicode.upper, slash]

theorem isDigit_variable (c : Char) :
    (if c.isUpper || c.isDigit then c else '_').isDigit = c.isDigit := by
  split
  · rfl
  · rename_i other
    rw [Bool.or_eq_true, not_or, Bool.not_eq_true, Bool.not_eq_true] at other
    rw [other.2]
    decide

theorem head?_variableName {text : String} {c : Char} (first : text.toList.head? = some c) :
    ∃ d, (variableName text).toList.head? = some d ∧ d.isDigit = c.isDigit := by
  obtain ⟨rest, letters⟩ := List.head?_eq_some_iff.mp first
  obtain ⟨d, here, same⟩ := Unicode.head?_upperChar c
  obtain ⟨more, upper⟩ := List.head?_eq_some_iff.mp here
  refine ⟨_, ?_, (isDigit_variable d).trans same⟩
  rw [variableName, String.toList_ofList, letters, Unicode.upper, List.flatMap_cons, upper,
    List.cons_append, List.map_cons, List.head?_cons]

theorem isVariableName_iff (named : r.Named) :
    IsVariableName r.versionVariable ↔ ∀ c ∈ r.owner.toList.head?, c.isDigit = false := by
  have filled : r.versionVariable ≠ "" := by
    simp [versionVariable]
  obtain ⟨c, begins⟩ : ∃ c, r.owner.toList.head? = some c := by
    cases letters : r.owner.toList with
    | nil => exact absurd (String.toList_inj.mp letters) named.owner_filled
    | cons c rest => exact ⟨c, rfl⟩
  obtain ⟨d, first, same⟩ := head?_variableName begins
  have start : r.versionVariable.toList.head? = some d := by
    rw [versionVariable_eq]
    simp [List.head?_append, first]
  constructor
  · intro isName c' here
    cases begins.symm.trans here
    rw [← same]
    exact isName.first d start
  · intro plain
    refine ⟨filled, fun c member => plain_of_mem_versionVariable member, fun d' here => ?_⟩
    cases start.symm.trans here
    rw [same]
    exact plain c begins

theorem isAssignment_iff (r : Repository) (tag : Option String) :
    IsAssignment (VersionLine.text ⟨r, tag⟩) ↔ IsVariableName r.versionVariable := by
  have unsigned : ∀ {letters : List Char},
      (∀ c ∈ letters, c.isUpper = true ∨ c.isDigit = true ∨ c = '_') → '=' ∉ letters := by
    intro letters plain member
    exact absurd (plain '=' member) (by decide)
  constructor
  · rintro ⟨name, value, line, isName⟩
    have own : Text.splitFirst '=' (VersionLine.text ⟨r, tag⟩).toList =
        some (r.versionVariable.toList, (tag.getD "").toList) :=
      Text.splitFirst_eq_some_iff.mpr
        ⟨by simp [VersionLine.text], unsigned fun _ => plain_of_mem_versionVariable⟩
    have other : Text.splitFirst '=' (VersionLine.text ⟨r, tag⟩).toList =
        some (name.toList, value.toList) :=
      Text.splitFirst_eq_some_iff.mpr ⟨by simp [line], unsigned isName.plain⟩
    obtain ⟨letters, _⟩ := Prod.mk.inj (Option.some.inj (other.symm.trans own))
    have same : name = r.versionVariable := String.toList_inj.mp letters
    rw [← same]
    exact isName
  · exact fun isName => ⟨r.versionVariable, tag.getD "", rfl, isName⟩

/-- The variable of a repository is made of capital letters, digits and underscores and ends in
`_VERSION`, after what owner and name come to. It is the name of a variable, and the line of any tag an
assignment, if and only if the owner does not begin with a digit. -/
theorem versionVariable_isName_iff (read : ofString input = .ok r) :
    r.versionVariable = variableName r.owner ++ "_" ++ variableName r.name ++ "_VERSION" ∧
    (∀ c ∈ r.versionVariable.toList, c.isUpper = true ∨ c.isDigit = true ∨ c = '_') ∧
    (IsVariableName r.versionVariable ↔ ∀ c ∈ r.owner.toList.head?, c.isDigit = false) ∧
    ∀ tag, IsAssignment (VersionLine.text ⟨r, tag⟩) ↔
      ∀ c ∈ r.owner.toList.head?, c.isDigit = false := by
  have named := (named_of_ofString read).1
  refine ⟨versionVariable_eq r, fun c => plain_of_mem_versionVariable, isVariableName_iff named, ?_⟩
  intro tag
  rw [isAssignment_iff, isVariableName_iff named]

theorem leadingLetter_isName :
    ofString " a1/9b.v2\n" = .ok ⟨"a1", "9b.v2"⟩ ∧
      IsVariableName (versionVariable ⟨"a1", "9b.v2"⟩) ∧
      versionVariable ⟨"a1", "9b.v2"⟩ = "A1_9B_V2_VERSION" ∧
      IsAssignment (VersionLine.text ⟨⟨"a1", "9b.v2"⟩, some "v2"⟩) := by
  have read : ofString " a1/9b.v2\n" = .ok ⟨"a1", "9b.v2"⟩ := by decide +kernel
  have letter : ∀ c ∈ "a1".toList.head?, c.isDigit = false := by simp
  obtain ⟨_, _, isName, assigns⟩ := versionVariable_isName_iff read
  exact ⟨read, isName.mpr letter, by decide +kernel, (assigns (some "v2")).mpr letter⟩

theorem leadingDigit_not_name :
    ¬ ∀ (input : String) (r : Repository), ofString input = .ok r →
      IsVariableName r.versionVariable := by
  intro isName
  have read : ofString "1password/cli" = .ok ⟨"1password", "cli"⟩ := by decide +kernel
  have written : versionVariable ⟨"1password", "cli"⟩ = "1PASSWORD_CLI_VERSION" := by decide +kernel
  have first := (isName _ _ read).first '1' (by rw [written]; decide)
  cases first

end Repository

end OperatorKit
