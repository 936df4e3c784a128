import OperatorKit.Proofs.Text.Split
import OperatorKit.Proofs.Text.Trimming
import OperatorKit.Release.Repository

/-!
Which texts name a repository. Without the blanks at its ends such a text has one slash and something
on either side of it; that is also how the repository is written, so it is read off what is written.
-/

namespace OperatorKit.Repository

variable {input : String} {r : Repository} {text : List Char}

def OneSlash (text : List Char) : Prop :=
  text.count '/' = 1 ∧ text.head? ≠ some '/' ∧ text.getLast? ≠ some '/'

structure Named (r : Repository) : Prop where
  owner_filled : r.owner ≠ ""
  name_filled : r.name ≠ ""
  owner_plain : '/' ∉ r.owner.toList
  name_plain : '/' ∉ r.name.toList

theorem toList_text (r : Repository) : r.text.toList = r.owner.toList ++ '/' :: r.name.toList := by
  simp [text]

theorem ofString_of_named (named : r.Named)
    (written : Text.trim Unicode.isBlank input.toList = r.text.toList) : ofString input = .ok r := by
  have parts : Text.splitFirst '/' (Text.trim Unicode.isBlank input.toList) =
      some (r.owner.toList, r.name.toList) :=
    Text.splitFirst_eq_some_iff.mpr ⟨written.trans (toList_text r), named.owner_plain⟩
  have fits : ¬ (r.owner.toList.isEmpty || r.name.toList.isEmpty || r.name.toList.contains '/') = true := by
    simp [named.owner_filled, named.name_filled, named.name_plain]
  simp only [ofString, parts, if_neg fits, String.ofList_toList]

theorem named_of_ofString (read : ofString input = .ok r) :
    r.Named ∧ Text.trim Unicode.isBlank input.toList = r.text.toList := by
  unfold ofString at read
  split at read
  · cases read
  · rename_i owner name parts
    obtain ⟨written, plain⟩ := Text.splitFirst_eq_some_iff.mp parts
    split at read
    · cases read
    · rename_i fits
      cases read
      simp only [Bool.or_eq_true, List.isEmpty_iff, List.contains_eq_mem, decide_eq_true_eq,
        not_or] at fits
      obtain ⟨⟨owned, filled⟩, single⟩ := fits
      refine ⟨⟨?_, ?_, ?_, ?_⟩, ?_⟩
      · simpa using owned
      · simpa using filled
      · simpa using plain
      · simpa using single
      · rw [toList_text, String.toList_ofList, String.toList_ofList, written]

theorem ofString_error {e : ReleaseError} (refused : ofString input = .error e) :
    e = .invalidRepository input := by
  unfold ofString at refused
  split at refused
  · cases refused
    rfl
  · split at refused
    · cases refused
      rfl
    · cases refused

theorem oneSlash_text_iff : OneSlash r.text.toList ↔ r.Named := by
  rw [OneSlash, toList_text, List.count_append, List.count_cons_self]
  constructor
  · rintro ⟨once, first, last⟩
    have plain : r.owner.toList.count '/' = 0 ∧ r.name.toList.count '/' = 0 := by omega
    refine ⟨?_, ?_, List.count_eq_zero.mp plain.1, List.count_eq_zero.mp plain.2⟩
    · intro none
      simp [none] at first
    · intro none
      simp [none] at last
  · rintro ⟨owned, filled, before, behind⟩
    refine ⟨?_, ?_, ?_⟩
    · rw [List.count_eq_zero.mpr before, List.count_eq_zero.mpr behind]
    · rw [List.head?_append_of_ne_nil _ (by simpa using owned)]
      exact fun first => before (List.mem_of_mem_head? first)
    · rw [List.getLast?_append_cons, List.getLast?_cons_of_ne_nil (by simpa using filled)]
      exact fun last => behind (List.mem_of_getLast? last)

theorem exists_text_of_oneSlash (one : OneSlash text) : ∃ r : Repository, r.text.toList = text := by
  have slash : '/' ∈ text := List.count_pos_iff.mp (by rw [one.1]; exact Nat.one_pos)
  obtain ⟨owner, name, rfl⟩ := List.append_of_mem slash
  exact ⟨⟨String.ofList owner, String.ofList name⟩, by
    rw [toList_text, String.toList_ofList, String.toList_ofList]⟩

/-- A text is read as a repository if and only if, without the blanks at its ends, it has one slash with
something on either side. These are then owner and name, the repository is written as the text without
blanks, and reading what is written gives it again. Every other text is refused as it stands. -/
theorem ofString_splits (input : String) :
    ∃ core, Text.Trimmed Unicode.isBlank input.toList core ∧
      ((∃ r, ofString input = .ok r) ↔ OneSlash core) ∧
      (∀ r, ofString input = .ok r →
        core = r.owner.toList ++ '/' :: r.name.toList ∧ r.Named ∧
          r.text = String.ofList core ∧ ofString r.text = .ok r) ∧
      (¬ OneSlash core → ofString input = .error (.invalidRepository input)) := by
  have trimmed := Text.trimmed_trim Unicode.isBlank input.toList
  have reads : (∃ r, ofString input = .ok r) ↔
      OneSlash (Text.trim Unicode.isBlank input.toList) := by
    constructor
    · rintro ⟨r, read⟩
      obtain ⟨named, written⟩ := named_of_ofString read
      exact written ▸ oneSlash_text_iff.mpr named
    · intro one
      obtain ⟨r, written⟩ := exists_text_of_oneSlash one
      exact ⟨r, ofString_of_named (oneSlash_text_iff.mp (written ▸ one)) written.symm⟩
  refine ⟨_, trimmed, reads, fun r read => ?_, fun apart => ?_⟩
  · obtain ⟨named, written⟩ := named_of_ofString read
    -- No blank is at an end of what is written, since it is what trimming left.
    have bare : Text.Trimmed Unicode.isBlank r.text.toList r.text.toList := by
      rw [← written]
      exact ⟨⟨[], [], by simp, by simp, by simp⟩, trimmed.first, trimmed.last⟩
    refine ⟨written.trans (toList_text r), named, ?_, ofString_of_named named bare.trim_eq⟩
    rw [written, String.ofList_toList]
  · cases refused : ofString input with
    | ok r => exact absurd (reads.mp ⟨r, refused⟩) apart
    | error e => rw [ofString_error refused]

example : ofString "a / b\t" = .ok ⟨"a ", " b"⟩ ∧
    ofString "a/ " = .error (.invalidRepository "a/ ") := by decide +kernel

end OperatorKit.Repository
