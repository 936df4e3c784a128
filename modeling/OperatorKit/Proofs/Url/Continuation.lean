import OperatorKit.Proofs.Http.Independence
import OperatorKit.Proofs.Url.Authority
import OperatorKit.Proofs.Url.Segments

/-!
Texts that go on where an origin ends. If the origin is written plainly, all that comes behind it is
read as a path, a query and a fragment, so the URL keeps the origin.
-/

namespace OperatorKit

namespace Url

def authorityMarks : List Char := ['/', '\\', '?', '#', '@']

/-- The parts of a text that is `http` or `https`, a host and maybe a port, with or without slashes
behind them. -/
structure PlainOrigin (text : String) (scheme authority slashes : List Char) : Prop where
  typed : text.toList = scheme ++ "://".toList ++ authority ++ slashes
  web : String.ofList (Domain.lower scheme) ∈ ["http", "https"]
  filled : authority ≠ []
  visible : ∀ c ∈ authority, 0x20 < c.toNat
  plain : ∀ c ∈ authority, c ∉ authorityMarks
  slashes : ∀ c ∈ slashes, c = '/'

def IsPlainOrigin (text : String) : Prop :=
  (∃ url, parse text = .ok url) ∧ ∃ scheme authority slashes, PlainOrigin text scheme authority slashes

variable {text : String} {front back authority scheme : List Char} {name : String}

section Parts

theorem isAlpha_of_toLower {c : Char} (alpha : c.toLower.isAlpha = true) : c.isAlpha = true := by
  unfold Char.toLower at alpha
  split at alpha
  · rename_i upper
    exact Symbol.of_below (P := fun c => 0x41 ≤ c.toNat → c.isAlpha = true) (by decide)
      (Nat.lt_succ_of_le upper.2) upper.1
  · exact alpha

theorem visible_of_isAlpha {c : Char} (alpha : c.isAlpha = true) : 0x20 < c.toNat := by
  apply Nat.lt_of_not_le
  intro low
  exact Symbol.of_below (P := fun c => c.isAlpha ≠ true) (by decide) (Nat.lt_succ_of_le low) alpha

theorem isKept_of_visible {c : Char} (visible : 0x20 < c.toNat) : isKept c = true := by
  have apart : c ≠ '\t' ∧ c ≠ '\n' ∧ c ≠ '\x0d' := by
    refine ⟨?_, ?_, ?_⟩ <;> (rintro rfl; revert visible; decide)
  simp [isKept, apart]

theorem cleaned_eq (typed : text.toList = front ++ back) (filled : front ≠ [])
    (visible : ∀ c ∈ front, 0x20 < c.toNat) (last : ∀ c ∈ back.getLast?, 0x20 < c.toNat) :
    cleaned text = front ++ back.filter isKept := by
  have shown {c : Char} (above : 0x20 < c.toNat) : decide (c.toNat ≤ 0x20) = false :=
    decide_eq_false (Nat.not_le_of_lt above)
  have whole : Text.Trimmed (·.toNat ≤ 0x20) text.toList text.toList := by
    refine ⟨⟨[], [], by simp, by simp, by simp⟩, ?_, ?_⟩
    · intro c first
      rw [typed, List.head?_append_of_ne_nil _ filled] at first
      exact shown (visible c (List.mem_of_mem_head? first))
    · intro c ends
      rw [typed, List.getLast?_append] at ends
      cases there : back.getLast? with
      | some d =>
        rw [there, Option.some_or] at ends
        exact shown (last c (there.trans ends))
      | none =>
        rw [there, Option.none_or] at ends
        exact shown (visible c (List.mem_of_mem_getLast? ends))
  have kept : front.filter isKept = front :=
    List.filter_eq_self.mpr fun c member => isKept_of_visible (visible c member)
  rw [cleaned, whole.trim_eq, typed]
  change (front ++ back).filter isKept = _
  rw [List.filter_append, kept]

theorem splitHost_parts (inBrackets : Bool) (text : List Char) :
    (splitHost inBrackets text).2 <:+ text ∧
      ∀ c ∈ (splitHost inBrackets text).2.head?, c = ':' := by
  fun_induction splitHost inBrackets text with
  | case1 => simp
  | case2 _ _ rest colon => exact ⟨List.suffix_refl _, by simp [colon]⟩
  | case3 _ c text _ host rest parts ih =>
    rw [parts] at ih
    exact ⟨ih.1.trans (List.suffix_cons c text), ih.2⟩

theorem hostAndPort_rest {host : Option Host} {found : Option Nat} {rest : List Char}
    (kind : schemeKind name = .hosted) (plain : '\\' ∉ authority)
    (read : hostAndPort name authority = .ok (host, found, rest)) : rest = [] := by
  obtain ⟨_, _, ported⟩ := hostAndPort_hosted kind read
  obtain ⟨within, first⟩ := splitHost_parts false authority
  unfold port at ported
  split at ported
  · rename_i text there
    dsimp only at ported
    split at ported
    · rename_i fits
      cases ported
      rcases fits.2 with empty | backslash
      · exact List.isEmpty_iff.mp empty
      · have member : '\\' ∈ text := (List.dropWhile_sublist _).subset (List.mem_of_mem_head? backslash)
        rw [there] at within
        exact absurd (within.subset (List.mem_cons_of_mem _ member)) plain
    · cases ported
  · rename_i apart
    cases ported
    cases left : (splitHost false authority).2 with
    | nil => rfl
    | cons c text =>
      rw [left] at first
      exact absurd left (first c rfl ▸ apart text)

theorem cut_authority (plain : ∀ c ∈ authority, c ∉ authorityMarks)
    (ends : ∀ c ∈ back.head?, isAuthorityEnd .hosted c = true) :
    (authority ++ back).takeWhile (!isAuthorityEnd .hosted ·) = authority ∧
      (authority ++ back).dropWhile (!isAuthorityEnd .hosted ·) = back := by
  have goesOn : ∀ c ∈ authority, (!isAuthorityEnd .hosted c) = true := by
    intro c member
    have apart := plain c member
    simp only [authorityMarks, List.mem_cons, List.not_mem_nil, or_false, not_or] at apart
    simp [isAuthorityEnd, UrlPath.isSlash, apart]
  rw [List.takeWhile_append_of_pos goesOn, List.dropWhile_append_of_pos goesOn]
  cases back with
  | nil => simp
  | cons c rest => simp [ends c rfl]

theorem splitUserinfo_eq_none (plain : ∀ c ∈ authority, c ∉ authorityMarks) :
    splitUserinfo authority = none := by
  have sign : '@' ∉ authority.reverse := fun member =>
    plain '@' (List.mem_reverse.mp member) (by decide)
  rw [splitUserinfo, Text.splitFirst_eq_none_iff.mpr sign, Option.map_none]

theorem afterSlashes_eq {host : Option Host} {found : Option Nat}
    (kind : schemeKind name = .hosted)
    (plain : ∀ c ∈ authority, c ∉ authorityMarks)
    (ends : ∀ c ∈ back.head?, isAuthorityEnd .hosted c = true)
    (read : hostAndPort name authority = .ok (host, found, [])) :
    afterSlashes name (authority ++ back) =
      .ok (withTail name (some ⟨"", "", host, found⟩)
        (pathAfterAuthority .hosted (splitTail back).path) (splitTail back)) := by
  obtain ⟨front, behind⟩ := cut_authority plain ends
  have nobody : userinfo (Option.getD none []) = ("", "") := rfl
  unfold afterSlashes
  simp only [kind, front, behind, splitUserinfo_eq_none plain, bind, Except.bind, pure, Except.pure,
    read, nobody, List.nil_append]
  rw [if_neg (by simp), if_neg (by simp)]

end Parts

section Whole

variable {start : String} {slashes tail : List Char}

theorem web_hosted (web : name ∈ ["http", "https"]) : schemeKind name = .hosted := by
  revert name
  decide

theorem PlainOrigin.isAlpha (origin : PlainOrigin text scheme authority slashes) :
    ∀ c ∈ scheme, c.isAlpha = true := by
  intro c member
  have letters : ∀ s ∈ ["http", "https"], ∀ d ∈ s.toList, d.isAlpha = true := by simp
  apply isAlpha_of_toLower
  apply letters _ origin.web
  rw [String.toList_ofList]
  exact List.mem_map_of_mem member

theorem PlainOrigin.splitScheme_eq (origin : PlainOrigin text scheme authority slashes)
    (rest : List Char) :
    splitScheme (scheme ++ ':' :: rest) = some (String.ofList (Domain.lower scheme), rest) := by
  have letters : ∀ c ∈ scheme, isSchemeChar c = true := by
    intro c member
    simp [isSchemeChar, Char.isAlphanum, origin.isAlpha c member]
  have colon : isSchemeChar ':' = false := by decide
  refine splitScheme_eq_some_iff.mpr ⟨?_, ?_, ?_⟩
  · rw [List.dropWhile_append_of_pos letters, List.dropWhile_cons, colon, if_neg Bool.false_ne_true]
  · cases scheme with
    | nil => exact absurd origin.web (by decide)
    | cons c more => exact ⟨c, rfl, origin.isAlpha c List.mem_cons_self⟩
  · rw [List.takeWhile_append_of_pos letters, List.takeWhile_cons, colon, if_neg Bool.false_ne_true,
      List.append_nil]

/-- A text that goes on at the end of an authority is read from there on. -/
theorem PlainOrigin.parse_eq (origin : PlainOrigin start scheme authority slashes)
    (typed : text.toList = scheme ++ "://".toList ++ authority ++ tail)
    (last : ∀ c ∈ tail.getLast?, 0x20 < c.toNat) :
    parse text = afterSlashes (String.ofList (Domain.lower scheme)) (authority ++ tail.filter isKept) := by
  have visible : ∀ c ∈ scheme ++ "://".toList ++ authority, 0x20 < c.toNat := by
    simp only [List.forall_mem_append]
    exact ⟨⟨fun c member => visible_of_isAlpha (origin.isAlpha c member), by simp⟩,
      origin.visible⟩
  obtain ⟨c, rest, rfl⟩ := List.exists_cons_of_ne_nil origin.filled
  have apart : UrlPath.isSlash .hosted c = false := by
    have plain := origin.plain c List.mem_cons_self
    simp only [authorityMarks, List.mem_cons, List.not_mem_nil, or_false, not_or] at plain
    simp [UrlPath.isSlash, plain]
  have slash : UrlPath.isSlash .hosted '/' = true := rfl
  have parts : scheme ++ "://".toList ++ (c :: rest) ++ tail.filter isKept =
      scheme ++ ':' :: '/' :: '/' :: c :: (rest ++ tail.filter isKept) := by
    simp
  rw [parse, cleaned_eq typed (by simp) visible last, parts, origin.splitScheme_eq]
  simp only [absolute, web_hosted origin.web, List.dropWhile_cons, slash, apart, if_pos,
    Bool.false_eq_true, if_false, List.cons_append]

theorem PlainOrigin.withoutFinalSlashes_eq (origin : PlainOrigin start scheme authority slashes) :
    (Text.withoutFinalSlashes start).toList = scheme ++ "://".toList ++ authority := by
  obtain ⟨c, final⟩ : ∃ c, authority.getLast? = some c :=
    ⟨_, List.getLast?_eq_some_getLast origin.filled⟩
  have stays : decide (c = '/') = false := by
    have plain := origin.plain c (List.mem_of_mem_getLast? final)
    simp only [authorityMarks, List.mem_cons, not_or] at plain
    exact decide_eq_false plain.1
  have bare : Text.trimEnd (· = '/') slashes = [] :=
    List.rdropWhile_eq_nil_iff.mpr fun d member => decide_eq_true (origin.slashes d member)
  have last : (scheme ++ "://".toList ++ authority).getLast? = some c := by
    rw [List.getLast?_append, final, Option.some_or]
  rw [Text.withoutFinalSlashes, String.toList_ofList, origin.typed, Text.trimEnd_append last stays, bare,
    List.append_nil]

/-- A plain origin names no user, and what is written behind it is path, query and fragment of the
URL that the whole is read as. -/
theorem parse_continued (plain : IsPlainOrigin start) (behind : String)
    (slash : behind.toList.head? = some '/') (last : ∀ c ∈ behind.toList.getLast?, 0x20 < c.toNat) :
    ∃ base, parse start = .ok base ∧ ¬ base.HasUserinfo ∧
      parse (Text.withoutFinalSlashes start ++ behind) =
        .ok (continued base.scheme base.authority behind.toList) := by
  obtain ⟨⟨base, read⟩, scheme, authority, slashes, origin⟩ := plain
  have kind := web_hosted origin.web
  have ends : ∀ c ∈ (slashes.filter isKept).head?, isAuthorityEnd .hosted c = true := by
    intro c first
    rw [origin.slashes c (List.mem_of_mem_filter (List.mem_of_mem_head? first))]
    rfl
  have ends' : ∀ c ∈ (behind.toList.filter isKept).head?, isAuthorityEnd .hosted c = true := by
    obtain ⟨rest, same⟩ := List.head?_eq_some_iff.mp slash
    rw [same]
    rintro c ⟨⟩
    rfl
  have whole : (Text.withoutFinalSlashes start ++ behind).toList =
      scheme ++ "://".toList ++ authority ++ behind.toList := by
    rw [String.toList_append, origin.withoutFinalSlashes_eq]
  have slashed : ∀ c ∈ slashes.getLast?, 0x20 < c.toNat := by
    intro c final
    rw [origin.slashes c (List.mem_of_mem_getLast? final)]
    decide
  have parsed := origin.parse_eq origin.typed slashed
  obtain ⟨host, found, rest, there, _⟩ := afterSlashes_ok (parsed.symm.trans read)
  rw [kind, (cut_authority origin.plain ends).1, named, splitUserinfo_eq_none origin.plain] at there
  have backslash : '\\' ∉ authority := fun member => origin.plain _ member (by decide)
  cases hostAndPort_rest kind backslash there
  rw [afterSlashes_eq kind origin.plain ends there, read] at parsed
  cases parsed
  refine ⟨_, read, ?_, ?_⟩
  · rintro ⟨_, ⟨⟩, userinfo⟩
    exact userinfo ⟨rfl, rfl⟩
  · rw [origin.parse_eq whole last, afterSlashes_eq kind origin.plain ends' there]
    rfl

end Whole

end Url

end OperatorKit
