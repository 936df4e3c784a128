import OperatorKit.Proofs.Text.Split
import OperatorKit.Proofs.Url.Percent
import OperatorKit.Url.Reading

/-!
What becomes of a text that is written into a path. Each character that stays there makes the path
longer, by as much as it takes when it is percent-encoded, and nothing else does: a slash only
separates, a segment of dots goes, and what stands behind the path is no part of it. So a path that is
as long as all its characters together has lost none of them.
-/

namespace OperatorKit

namespace UrlPath

/-- The length of the segments of a path, without the slashes. -/
def extent : List String → Nat
  | [] => 0
  | part :: rest => part.length + extent rest

def encoded (text : List Char) : String :=
  Percent.encode Percent.inPath text

/-- What a character adds to a path of a URL with a host. -/
def width (c : Char) : Nat :=
  if isSlash .hosted c then 0 else (encoded [c]).length

def breadth : List Char → Nat
  | [] => 0
  | c :: rest => width c + breadth rest

/-- A segment that stands for this place or the one above, and not for itself. -/
def IsDots (text : List Char) : Prop :=
  dots? text = some 1 ∨ dots? text = some 2

instance (text : List Char) : Decidable (IsDots text) :=
  inferInstanceAs (Decidable (_ ∨ _))

/-- The characters that a path of a URL with a host is cut at or that go from it. -/
def marks : List Char := ['/', '\\', '?', '#', '\t', '\n', '\x0d']

/-- A text that stays one segment when it is written into a path. -/
structure IsSegment (text : List Char) : Prop where
  plain : ∀ c ∈ text, c ∉ marks
  apart : ¬ IsDots text

def written (pieces : List (List Char)) : List Char :=
  pieces.flatMap ('/' :: ·)

variable {text : List Char} {pieces : List (List Char)}

section Breadth

@[simp] theorem extent_nil : extent [] = 0 := rfl

@[simp] theorem extent_cons (part : String) (rest : List String) :
    extent (part :: rest) = part.length + extent rest := rfl

@[simp] theorem extent_append (front back : List String) :
    extent (front ++ back) = extent front + extent back := by
  induction front with
  | nil => simp
  | cons part rest ih => simp [ih, Nat.add_assoc]

@[simp] theorem breadth_nil : breadth [] = 0 := rfl

@[simp] theorem breadth_cons (c : Char) (text : List Char) :
    breadth (c :: text) = width c + breadth text := rfl

theorem breadth_append (front back : List Char) :
    breadth (front ++ back) = breadth front + breadth back := by
  induction front with
  | nil => simp
  | cons c rest ih => simp [ih, Nat.add_assoc]

@[simp] theorem encoded_nil : encoded [] = "" := rfl

theorem length_encoded_cons (c : Char) (text : List Char) :
    (encoded (c :: text)).length = (encoded [c]).length + (encoded text).length := by
  simp [encoded, Percent.encode]

theorem length_encoded_pos (c : Char) : 0 < (encoded [c]).length := by
  simp only [encoded, Percent.encode, List.flatMap_singleton, String.length_ofList,
    Percent.encodeChar]
  split
  · exact Nat.one_pos
  · obtain ⟨b, rest, bytes⟩ := Percent.exists_byte c
    simp [bytes, Percent.ofByte]

theorem width_of_slash {c : Char} (slash : isSlash .hosted c = true) : width c = 0 :=
  if_pos slash

theorem width_of_apart {c : Char} (apart : isSlash .hosted c = false) :
    width c = (encoded [c]).length :=
  if_neg (by simp [apart])

theorem width_pos {c : Char} (apart : isSlash .hosted c = false) : 0 < width c :=
  width_of_apart apart ▸ length_encoded_pos c

/-- A text is as long in a path as it is encoded only if it has no slash. -/
theorem breadth_le_length_encoded (text : List Char) :
    breadth text ≤ (encoded text).length ∧
      (breadth text = (encoded text).length → ∀ c ∈ text, isSlash .hosted c = false) := by
  induction text with
  | nil => simp
  | cons c rest ih =>
    obtain ⟨most, exactly⟩ := ih
    rw [breadth_cons, length_encoded_cons]
    have long := length_encoded_pos c
    cases slash : isSlash .hosted c with
    | true =>
      rw [width_of_slash slash]
      exact ⟨by omega, fun whole => by omega⟩
    | false =>
      rw [width_of_apart slash]
      exact ⟨by omega, fun whole => List.forall_mem_cons.mpr ⟨slash, exactly (by omega)⟩⟩

theorem breadth_filter (stays : Char → Bool) (text : List Char) :
    breadth (text.filter stays) ≤ breadth text ∧
      (breadth (text.filter stays) = breadth text →
        ∀ c ∈ text, isSlash .hosted c = false → stays c = true) := by
  induction text with
  | nil => simp
  | cons c rest ih =>
    obtain ⟨less, same⟩ := ih
    rw [List.filter_cons]
    split
    · rename_i kept
      rw [breadth_cons, breadth_cons]
      exact ⟨by omega, fun whole => List.forall_mem_cons.mpr ⟨fun _ => kept, same (by omega)⟩⟩
    · rw [breadth_cons]
      refine ⟨by omega, fun whole => List.forall_mem_cons.mpr ⟨fun apart => ?_, same (by omega)⟩⟩
      have wide := width_pos apart
      omega

end Breadth

section Steps

theorem extent_cutAt (text : List Char) :
    extent ((Text.cutAt (isSlash .hosted) text).map encoded) = breadth text := by
  induction text with
  | nil => rfl
  | cons c rest ih =>
    rw [breadth_cons, ← ih, Text.cutAt]
    cases pieces : Text.cutAt (isSlash .hosted) rest with
    | nil => exact absurd pieces (Text.cutAt_ne_nil _ rest)
    | cons piece more =>
      cases slash : isSlash .hosted c with
      | true => simp [width_of_slash slash]
      | false =>
        simp [width_of_apart slash, length_encoded_cons c piece, Nat.add_assoc]

theorem segment_hosted (first : Bool) (text : List Char) :
    segment .hosted first text = encoded text := by
  unfold segment
  split <;> rfl

theorem extent_up_le (parts : List String) : extent (up parts) ≤ extent parts := by
  unfold up
  split
  · rename_i part last
    split
    · exact Nat.le_refl _
    · obtain ⟨front, rfl⟩ := List.getLast?_eq_some_iff.mp last
      simp
  · exact Nat.zero_le _

theorem step_of_not_isDots (apart : ¬ IsDots text) (parts : List String) (last : Bool) :
    step .hosted parts text last = parts ++ [encoded text] := by
  unfold step
  split
  · rename_i one
    exact absurd (Or.inl one) apart
  · rename_i two
    exact absurd (Or.inr two) apart
  · rw [segment_hosted]

theorem extent_step_le_of_isDots (isDots : IsDots text) (parts : List String) (last : Bool) :
    extent (step .hosted parts text last) ≤ extent parts := by
  have less := extent_up_le parts
  unfold step
  rcases isDots with one | two
  · rw [one]
    cases last <;> simp
  · rw [two]
    cases last <;> simpa using less

theorem IsDots.ne_nil (isDots : IsDots text) : text ≠ [] := by
  rintro rfl
  rcases isDots with one | two
  · cases one
  · cases two

theorem extent_step (parts : List String) (text : List Char) (last : Bool) :
    extent (step .hosted parts text last) ≤ extent parts + (encoded text).length ∧
      (extent (step .hosted parts text last) = extent parts + (encoded text).length ↔ ¬ IsDots text) := by
  by_cases isDots : IsDots text
  · have less := extent_step_le_of_isDots isDots parts last
    obtain ⟨c, rest, rfl⟩ := List.exists_cons_of_ne_nil isDots.ne_nil
    have long := length_encoded_pos c
    rw [length_encoded_cons]
    simp only [isDots, not_true_eq_false, iff_false]
    omega
  · rw [step_of_not_isDots isDots]
    simp [isDots]

/-- Segments are no longer than the pieces they come from, and as long only if none is of dots. -/
theorem extent_steps (parts : List String) (pieces : List (List Char)) :
    extent (steps .hosted parts pieces) ≤ extent parts + extent (pieces.map encoded) ∧
      (extent (steps .hosted parts pieces) = extent parts + extent (pieces.map encoded) →
        ∀ piece ∈ pieces, ¬ IsDots piece) := by
  fun_induction steps .hosted parts pieces with
  | case1 parts => simp
  | case2 parts text =>
    obtain ⟨most, exactly⟩ := extent_step parts text true
    simpa using ⟨most, exactly.mp⟩
  | case3 parts text rest filled ih =>
    obtain ⟨most, exactly⟩ := extent_step parts text false
    obtain ⟨most', exactly'⟩ := ih
    rw [List.map_cons, extent_cons]
    exact ⟨by omega, fun whole =>
      List.forall_mem_cons.mpr ⟨exactly.mp (by omega), exactly' (by omega)⟩⟩

theorem steps_of_not_isDots (apart : ∀ piece ∈ pieces, ¬ IsDots piece) (parts : List String) :
    steps .hosted parts pieces = parts ++ pieces.map encoded := by
  induction pieces generalizing parts with
  | nil => simp [steps]
  | cons piece rest ih =>
    obtain ⟨first, others⟩ := List.forall_mem_cons.mp apart
    cases rest with
    | nil => rw [steps, step_of_not_isDots first, List.map_singleton]
    | cons second more =>
      rw [steps, step_of_not_isDots first, ih others, List.append_assoc, List.map_cons]
      · rfl
      · simp

end Steps

end UrlPath

namespace Url

open UrlPath

def isKept (c : Char) : Bool :=
  c ≠ '\t' && c ≠ '\n' && c ≠ '\x0d'

def continued (scheme : String) (authority : Option Authority) (text : List Char) : Url :=
  let tail := splitTail (text.filter isKept)
  withTail scheme authority (pathAfterAuthority .hosted tail.path) tail

variable {piece : List Char} {pieces : List (List Char)}

section Tail

theorem splitTail_cases (text : List Char) :
    (splitTail text = ⟨text, none, none⟩ ∧ '?' ∉ text ∧ '#' ∉ text) ∨
      ∃ c rest, text = (splitTail text).path ++ c :: rest ∧ (c = '?' ∨ c = '#') := by
  unfold splitTail
  cases sign : Text.splitFirst '#' text with
  | none =>
    cases mark : Text.splitFirst '?' text with
    | none =>
      exact Or.inl ⟨by simp [mark], Text.splitFirst_eq_none_iff.mp mark,
        Text.splitFirst_eq_none_iff.mp sign⟩
    | some parts =>
      obtain ⟨front, back⟩ := parts
      obtain ⟨rfl, _⟩ := Text.splitFirst_eq_some_iff.mp mark
      exact Or.inr ⟨'?', back, by simp [mark], Or.inl rfl⟩
  | some parts =>
    obtain ⟨before, after⟩ := parts
    obtain ⟨rfl, _⟩ := Text.splitFirst_eq_some_iff.mp sign
    right
    cases mark : Text.splitFirst '?' before with
    | none => exact ⟨'#', after, by simp [mark], Or.inr rfl⟩
    | some parts =>
      obtain ⟨front, back⟩ := parts
      obtain ⟨rfl, _⟩ := Text.splitFirst_eq_some_iff.mp mark
      exact ⟨'?', back ++ '#' :: after, by simp [mark], Or.inl rfl⟩

theorem extent_pathAfterAuthority (text : List Char) :
    ∃ parts, pathAfterAuthority .hosted text = .segments parts ∧ extent parts ≤ breadth text := by
  have bounded (text : List Char) : extent (extend .hosted [] text) ≤ breadth text := by
    have most := (extent_steps [] (Text.cutAt (isSlash .hosted) text)).1
    rwa [extent_cutAt, extent_nil, Nat.zero_add] at most
  cases text with
  | nil => exact ⟨[""], rfl, Nat.le_refl _⟩
  | cons c rest =>
    refine ⟨_, rfl, ?_⟩
    split
    · exact Nat.le_trans (bounded rest) (Nat.le_add_left _ _)
    · exact bounded _

theorem breadth_splitTail (text : List Char) :
    breadth (splitTail text).path ≤ breadth text ∧
      (breadth (splitTail text).path = breadth text →
        splitTail text = ⟨text, none, none⟩ ∧ '?' ∉ text ∧ '#' ∉ text) := by
  rcases splitTail_cases text with whole | ⟨c, rest, same, mark⟩
  · exact ⟨Nat.le_of_eq (by rw [whole.1]), fun _ => whole⟩
  · have wide : 0 < width c := by rcases mark with rfl | rfl <;> decide
    have parts := congrArg breadth same
    rw [breadth_append, breadth_cons] at parts
    exact ⟨by omega, fun whole => by omega⟩

end Tail

section Pieces

theorem not_mem_marks_iff {c : Char} : c ∉ marks ↔
    isSlash .hosted c = false ∧ c ≠ '?' ∧ c ≠ '#' ∧ isKept c = true := by
  have special : SchemeKind.hosted.isSpecial = true := rfl
  simp only [marks, List.mem_cons, List.not_mem_nil, or_false, not_or, isSlash, special,
    Bool.true_and, Bool.or_eq_false_iff, decide_eq_false_iff_not, isKept, Bool.and_eq_true,
    decide_eq_true_eq, ne_eq, and_assoc]

theorem cutAt_written (plain : ∀ p ∈ piece :: pieces, ∀ c ∈ p, isSlash .hosted c = false) :
    Text.cutAt (isSlash .hosted) (piece ++ written pieces) = piece :: pieces := by
  induction pieces generalizing piece with
  | nil =>
    rw [written, List.flatMap_nil, List.append_nil]
    exact Text.cutAt_of_plain (plain piece List.mem_cons_self)
  | cons next more ih =>
    obtain ⟨here, others⟩ := List.forall_mem_cons.mp plain
    rw [written, List.flatMap_cons, List.cons_append, Text.cutAt_append_cons rfl,
      Text.cutAt_of_plain here, ← written, ih others, List.singleton_append]

theorem breadth_written_le (pieces : List (List Char)) :
    breadth (written pieces) ≤ extent (pieces.map encoded) ∧
      (breadth (written pieces) = extent (pieces.map encoded) →
        ∀ p ∈ pieces, ∀ c ∈ p, isSlash .hosted c = false) := by
  induction pieces with
  | nil => simp [written]
  | cons piece more ih =>
    obtain ⟨most, exactly⟩ := ih
    rw [written, List.flatMap_cons, ← written, breadth_append, breadth_cons, width_of_slash rfl,
      List.map_cons, extent_cons]
    obtain ⟨most', exactly'⟩ := breadth_le_length_encoded piece
    exact ⟨by omega,
      fun whole => List.forall_mem_cons.mpr ⟨exactly' (by omega), exactly (by omega)⟩⟩

theorem path_of_written (plain : ∀ p ∈ piece :: pieces, ∀ c ∈ p, isSlash .hosted c = false) :
    pathAfterAuthority .hosted (written (piece :: pieces)) =
      .segments (steps .hosted [] (piece :: pieces)) := by
  have slash : isSlash .hosted '/' = true := rfl
  rw [written, List.flatMap_cons, ← written, List.cons_append, pathAfterAuthority, slash, if_pos rfl,
    extend, cutAt_written plain]

theorem mem_written {c : Char} (member : c ∈ written pieces) : c = '/' ∨ ∃ p ∈ pieces, c ∈ p := by
  obtain ⟨p, inside, there⟩ := List.mem_flatMap.mp member
  rcases List.mem_cons.mp there with slash | own
  · exact Or.inl slash
  · exact Or.inr ⟨p, inside, own⟩

theorem mem_written_of_mem {c : Char} {p : List Char} (inside : p ∈ pieces) (own : c ∈ p) :
    c ∈ written pieces :=
  List.mem_flatMap.mpr ⟨p, inside, List.mem_cons_of_mem _ own⟩

theorem splitTail_written (plain : ∀ p ∈ pieces, ∀ c ∈ p, c ∉ marks) :
    splitTail ((written pieces).filter isKept) = ⟨written pieces, none, none⟩ := by
  have inside (c : Char) (member : c ∈ written pieces) :
      c ≠ '?' ∧ c ≠ '#' ∧ isKept c = true := by
    rcases mem_written member with rfl | ⟨p, inside, own⟩
    · decide
    · exact (not_mem_marks_iff.mp (plain p inside c own)).2
  rw [List.filter_eq_self.mpr fun c member => (inside c member).2.2]
  rcases splitTail_cases (written pieces) with ⟨whole, _⟩ | ⟨c, rest, same, mark⟩
  · exact whole
  · obtain ⟨noQuery, noFragment, _⟩ := inside c (by rw [same]; simp)
    rcases mark with query | fragment
    · exact absurd query noQuery
    · exact absurd fragment noFragment

/-- Each step of the reading makes a path shorter if it takes a mark away, so none has if the path is
as long as all the pieces. -/
theorem plain_of_extent_le (long : extent (pieces.map encoded) ≤
    breadth (splitTail ((written pieces).filter isKept)).path) :
    ∀ p ∈ pieces, ∀ c ∈ p, c ∉ marks := by
  obtain ⟨shorter, whole⟩ := breadth_splitTail ((written pieces).filter isKept)
  obtain ⟨shorter', all⟩ := breadth_filter isKept (written pieces)
  obtain ⟨shorter'', unslashed⟩ := breadth_written_le pieces
  obtain ⟨_, noQuery, noFragment⟩ := whole (by omega)
  intro p inside c own
  have member := mem_written_of_mem inside own
  have apart := unslashed (by omega) p inside c own
  refine not_mem_marks_iff.mpr ⟨apart, ?_, ?_, all (by omega) c member apart⟩
  · rintro rfl
    exact noQuery (List.mem_filter.mpr ⟨member, rfl⟩)
  · rintro rfl
    exact noFragment (List.mem_filter.mpr ⟨member, rfl⟩)

/-- Pieces that are written into a path one after the other are read as they are, and no query begins
among them, if and only if each of them is a segment. -/
theorem continued_written_iff (scheme : String) (authority : Option Authority) (piece : List Char)
    (pieces : List (List Char)) :
    (continued scheme authority (written (piece :: pieces))).query = none ∧
        (continued scheme authority (written (piece :: pieces))).path =
          .segments ((piece :: pieces).map encoded) ↔
      ∀ p ∈ piece :: pieces, IsSegment p := by
  have unslashed (plain : ∀ p ∈ piece :: pieces, ∀ c ∈ p, c ∉ marks) :
      ∀ p ∈ piece :: pieces, ∀ c ∈ p, isSlash .hosted c = false :=
    fun p inside c own => (not_mem_marks_iff.mp (plain p inside c own)).1
  simp only [continued, withTail, Option.map_eq_none_iff]
  constructor
  · rintro ⟨_, path⟩
    obtain ⟨parts, same, short⟩ :=
      extent_pathAfterAuthority (splitTail ((written (piece :: pieces)).filter isKept)).path
    cases path.symm.trans same
    have plain := plain_of_extent_le short
    rw [splitTail_written plain, path_of_written (unslashed plain), UrlPath.segments.injEq] at path
    have dotless := (extent_steps [] (piece :: pieces)).2
    rw [path, extent_nil, Nat.zero_add] at dotless
    exact fun p inside => ⟨plain p inside, dotless rfl p inside⟩
  · intro segments
    have plain : ∀ p ∈ piece :: pieces, ∀ c ∈ p, c ∉ marks := fun p inside => (segments p inside).plain
    rw [splitTail_written plain, path_of_written (unslashed plain),
      steps_of_not_isDots fun p inside => (segments p inside).apart]
    exact ⟨rfl, rfl⟩

example : (continued "http" none "/repos/../x/releases/latest".toList).path =
    .segments ["x", "releases", "latest"] := by decide +kernel

end Pieces

end Url

end OperatorKit
