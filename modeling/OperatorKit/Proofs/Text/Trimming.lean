import Mathlib.Data.List.DropRight
import OperatorKit.Text.Split

/-!
Trimming at the ends. What it leaves is the one part of a text that neither begins nor ends with a
blank and has nothing but blanks around it, so a second trimming changes nothing.
-/

namespace OperatorKit.Text

variable {p : Char → Bool} {text core : List Char}

structure Trimmed (p : Char → Bool) (text core : List Char) : Prop where
  within : ∃ front back, text = front ++ core ++ back ∧
    (∀ c ∈ front, p c = true) ∧ ∀ c ∈ back, p c = true
  first : ∀ c ∈ core.head?, p c = false
  last : ∀ c ∈ core.getLast?, p c = false

theorem trimEnd_append {p : Char → Bool} {s : List Char} {c : Char} (last : s.getLast? = some c)
    (stays : p c = false) (t : List Char) : trimEnd p (s ++ t) = s ++ trimEnd p t := by
  change (s ++ t).rdropWhile p = s ++ t.rdropWhile p
  induction t using List.reverseRecOn with
  | nil =>
    obtain ⟨front, rfl⟩ := List.getLast?_eq_some_iff.mp last
    rw [List.append_nil, List.rdropWhile_nil, List.append_nil, List.rdropWhile_concat, stays,
      if_neg Bool.false_ne_true]
  | append_singleton t d ih =>
    rw [← List.append_assoc, List.rdropWhile_concat, List.rdropWhile_concat, ih, List.append_assoc]
    split <;> rfl

theorem trim_append {p : Char → Bool} {s : List Char} {c : Char} (last : s.getLast? = some c)
    (stays : p c = false) (t : List Char) : trim p (s ++ t) = trim p s ++ trimEnd p t := by
  have core : ∃ core, s.dropWhile p = core ++ [c] := by
    obtain ⟨front, rfl⟩ := List.getLast?_eq_some_iff.mp last
    rw [List.dropWhile_append, List.dropWhile_cons, stays, if_neg Bool.false_ne_true]
    split
    · exact ⟨[], rfl⟩
    · exact ⟨_, rfl⟩
  obtain ⟨core, inside⟩ := core
  have ends : (core ++ [c]).getLast? = some c := List.getLast?_concat
  have whole : trim p s = core ++ [c] := by
    have alone := trimEnd_append ends stays []
    rw [List.append_nil] at alone
    rw [trim, inside, alone]
    exact List.append_nil _
  rw [whole, trim, List.dropWhile_append, inside, if_neg (by simp), trimEnd_append ends stays]

theorem trim_of_blank (blank : ∀ c ∈ text, p c = true) : trim p text = [] := by
  rw [trim, List.dropWhile_eq_nil_iff.mpr blank]
  rfl

theorem trimmed_trim (p : Char → Bool) (text : List Char) : Trimmed p text (trim p text) where
  within := by
    refine ⟨text.takeWhile p, (text.dropWhile p).rtakeWhile p, ?_,
      fun c member => List.mem_takeWhile_imp member, fun c member => List.mem_rtakeWhile_imp member⟩
    change text = text.takeWhile p ++ (text.dropWhile p).rdropWhile p ++ (text.dropWhile p).rtakeWhile p
    rw [List.append_assoc, List.rdropWhile_append_rtakeWhile, List.takeWhile_append_dropWhile]
  first := by
    intro c first
    obtain ⟨rest, core⟩ := List.head?_eq_some_iff.mp first
    obtain ⟨more, front⟩ : trim p text <+: text.dropWhile p := List.rdropWhile_prefix p _
    have stops := List.head?_dropWhile_not p text
    rwa [← front, core] at stops
  last := by
    intro c last
    obtain ⟨front, core⟩ := List.getLast?_eq_some_iff.mp last
    have again : trimEnd p (trim p text) = trim p text := List.rdropWhile_idempotent p _
    cases stays : p c with
    | false => rfl
    | true =>
      rw [core] at again
      change (front ++ [c]).rdropWhile p = front ++ [c] at again
      rw [List.rdropWhile_concat_pos _ _ _ stays] at again
      have shorter := (List.rdropWhile_prefix p front).length_le
      rw [again, List.length_append, List.length_singleton] at shorter
      omega

theorem Trimmed.trim_eq (trimmed : Trimmed p text core) : trim p text = core := by
  obtain ⟨⟨front, back, rfl, before, behind⟩, first, last⟩ := trimmed
  cases core with
  | nil =>
    apply trim_of_blank
    rw [List.append_nil]
    exact List.forall_mem_append.mpr ⟨before, behind⟩
  | cons c rest =>
    obtain ⟨d, ends⟩ : ∃ d, (c :: rest).getLast? = some d :=
      ⟨_, List.getLast?_eq_some_getLast (List.cons_ne_nil c rest)⟩
    have begins : (front ++ (c :: rest) ++ back).dropWhile p = c :: rest ++ back := by
      rw [List.append_assoc, List.dropWhile_append_of_pos before, List.cons_append,
        List.dropWhile_cons, first c rfl, if_neg Bool.false_ne_true]
    have bare : trimEnd p back = [] := List.rdropWhile_eq_nil_iff.mpr behind
    rw [trim, begins, trimEnd_append ends (last d ends), bare, List.append_nil]

theorem toList_withoutFinalSlashes (text : String) :
    ∃ slashes, text.toList = (withoutFinalSlashes text).toList ++ slashes ∧
      ∀ c ∈ slashes, c = '/' := by
  refine ⟨text.toList.rtakeWhile (· = '/'), ?_, fun c member => ?_⟩
  · rw [withoutFinalSlashes, String.toList_ofList]
    exact List.rdropWhile_append_rtakeWhile.symm
  · have slash := List.mem_rtakeWhile_imp member
    exact of_decide_eq_true slash

end OperatorKit.Text
