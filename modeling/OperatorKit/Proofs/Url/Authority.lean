import OperatorKit.Proofs.Text.Trimming
import OperatorKit.Url.Reading

/-!
What the origin of a URL depends on: its scheme, and what stands between the slashes after it and the
next slash, question mark or number sign. A text that goes on behind the end of that has the same
origin; one that goes on within it may have any other.
-/

namespace OperatorKit

namespace Text

theorem cut_append {p : Char → Bool} {text r : List Char} {c : Char}
    (behind : text.dropWhile p = c :: r) (tail : List Char) :
    (text ++ tail).dropWhile p = c :: (r ++ tail) ∧
      (text ++ tail).takeWhile p = text.takeWhile p := by
  have left : ¬ (text.dropWhile p).isEmpty = true := by
    rw [behind]
    simp
  have short : (text.takeWhile p).length ≠ text.length := by
    intro same
    have parts := congrArg List.length (List.takeWhile_append_dropWhile (p := p) (l := text))
    rw [behind, List.length_append, same, List.length_cons] at parts
    omega
  constructor
  · rw [List.dropWhile_append, if_neg left, behind, List.cons_append]
  · rw [List.takeWhile_append, if_neg short]

end Text

namespace Url

def IsHosted (text : String) : Prop :=
  ∃ url, parse text = .ok url ∧ schemeKind url.scheme = .hosted

/-- No blank or control character stands at the end of a text or before the slashes there. -/
def EndsBare (text : String) : Prop :=
  ∃ c, (Text.withoutFinalSlashes text).toList.getLast? = some c ∧ 0x20 < c.toNat

def front (rest : List Char) : List Char :=
  (rest.dropWhile (UrlPath.isSlash .hosted)).takeWhile (!isAuthorityEnd .hosted ·)

/-- The scheme of a text and its authority, as it is read if the scheme has known hosts. -/
def heading? (text : String) : Option (String × List Char) :=
  (splitScheme (cleaned text)).map fun (scheme, rest) => (scheme, front rest)

/-- One text ends in its authority, but for slashes, and the other goes on within it. -/
def Extends (start url : String) : Prop :=
  ∃ scheme authority more, heading? start = some (scheme, authority) ∧
    authority <:+ cleaned (Text.withoutFinalSlashes start) ∧
    heading? url = some (scheme, authority ++ more) ∧ more ≠ []

section Reading

def named (authority : List Char) : List Char :=
  match splitUserinfo authority with
  | some (_, named) => named
  | none => authority

theorem afterSlashes_ok {scheme : String} {text : List Char} {url : Url}
    (read : afterSlashes scheme text = .ok url) :
    ∃ host port rest,
      hostAndPort scheme (named (text.takeWhile (!isAuthorityEnd (schemeKind scheme) ·))) =
        .ok (host, port, rest) ∧
      url.scheme = scheme ∧ url.host? = host ∧ url.authority.bind (·.port) = port := by
  unfold afterSlashes at read
  unfold named
  simp only [bind, Except.bind, pure, Except.pure, throw, throwThe, MonadExceptOf.throw] at read
  generalize text.takeWhile (!isAuthorityEnd (schemeKind scheme) ·) = authority at read ⊢
  cases user : splitUserinfo authority
  all_goals
    simp only [user] at read
    split at read
    · cases read
    · split at read
      · cases read
      · rename_i found parts
        obtain ⟨host, port, rest⟩ := found
        split at read
        · cases read
        · cases read
          exact ⟨host, port, rest, parts, rfl, rfl, rfl⟩

theorem hostAndPort_hosted {scheme : String} {text rest : List Char} {host : Option Host}
    {found : Option Nat} (kind : schemeKind scheme = .hosted)
    (read : hostAndPort scheme text = .ok (host, found, rest)) :
    text ≠ [] ∧ (∃ named, host = some named) ∧
      port scheme (splitHost false text).2 = .ok (found, rest) := by
  unfold hostAndPort at read
  simp only [kind, bind, Except.bind, pure, Except.pure, throw, throwThe, MonadExceptOf.throw] at read
  cases name : (splitHost false text).1 with
  | nil =>
    rw [name] at read
    cases read
  | cons c behind =>
    have filled : text ≠ [] := by
      rintro rfl
      cases name
    rw [name] at read
    simp only at read
    cases parsed : Host.parse (c :: behind) with
    | error e =>
      rw [parsed] at read
      cases read
    | ok named =>
      rw [parsed] at read
      simp only [Except.map] at read
      split at read
      · cases read
      · rename_i ported
        cases read
        exact ⟨filled, ⟨named, rfl⟩, ported⟩

theorem scheme_of_file {text : List Char} {url : Url} (read : file text = .ok url) :
    url.scheme = "file" := by
  match text with
  | [] | [_] => cases read; rfl
  | c :: d :: rest =>
    simp only [file, bind, Except.bind, pure, Except.pure] at read
    cases slashes : UrlPath.isSlash .file c && UrlPath.isSlash .file d with
    | false =>
      rw [slashes] at read
      cases read
      rfl
    | true =>
      rw [slashes] at read
      cases found : fileHost rest with
      | error e =>
        rw [found] at read
        cases read
      | ok host =>
        rw [found] at read
        cases read
        rfl

theorem absolute_hosted {scheme : String} {text : List Char} {url : Url}
    (read : absolute scheme text = .ok url) (kind : schemeKind url.scheme = .hosted) :
    schemeKind scheme = .hosted := by
  unfold absolute at read
  cases known : schemeKind scheme with
  | hosted => rfl
  | file =>
    rw [known] at read
    rw [scheme_of_file read] at kind
    cases kind
  | other =>
    simp only [known] at read
    unfold other at read
    split at read
    · obtain ⟨_, _, _, _, same, _⟩ := afterSlashes_ok read
      cases (same ▸ kind).symm.trans known
    · cases read
      cases kind.symm.trans known

/-- Scheme and authority are all that the origin is made from. -/
theorem heading_of_parse {text : String} {url : Url} (read : parse text = .ok url)
    (kind : schemeKind url.scheme = .hosted) :
    ∃ authority rest, heading? text = some (url.scheme, authority) ∧ authority ≠ [] ∧
      hostAndPort url.scheme (named authority) =
        .ok (url.host?, url.authority.bind (·.port), rest) := by
  unfold parse at read
  split at read
  · rename_i scheme text' split
    have hosted := absolute_hosted read kind
    simp only [absolute, hosted] at read
    obtain ⟨host, port, rest, found, rfl, rfl, rfl⟩ := afterSlashes_ok read
    rw [hosted] at found
    refine ⟨front text', rest, ?_, ?_, found⟩
    · rw [heading?, split, Option.map_some]
    · intro nothing
      have empty : named (front text') = [] := by rw [nothing]; rfl
      exact (hostAndPort_hosted hosted found).1 empty
  · cases read

theorem scheme_of_heading {text : String} {url : Url} {scheme : String} {authority : List Char}
    (read : parse text = .ok url) (heading : heading? text = some (scheme, authority))
    (kind : schemeKind scheme = .hosted) : url.scheme = scheme := by
  unfold parse at read
  split at read
  · rename_i name text' split
    rw [heading?, split, Option.map_some, Option.some.injEq, Prod.mk.injEq] at heading
    obtain ⟨rfl, rfl⟩ := heading
    simp only [absolute, kind] at read
    obtain ⟨_, _, _, _, same, _⟩ := afterSlashes_ok read
    exact same
  · cases read

theorem sameOrigin_iff {first second : String} :
    sameOrigin first second = true ↔
      ∃ a b, parse first = .ok a ∧ parse second = .ok b ∧ a.origin = b.origin := by
  unfold sameOrigin
  cases parse first <;> cases parse second <;> simp

theorem sameOrigin_congr {first second : String} (same : sameOrigin first second = true)
    (url : String) : sameOrigin first url = sameOrigin second url := by
  obtain ⟨a, b, read, read', origin⟩ := sameOrigin_iff.mp same
  unfold sameOrigin
  rw [read, read']
  cases parse url with
  | error _ => rfl
  | ok _ => simp only [origin]

theorem sameOrigin_of_heading {text text' : String} {url url' : Url} (read : parse text = .ok url)
    (read' : parse text' = .ok url') (kind : schemeKind url.scheme = .hosted)
    (same : heading? text = heading? text') : sameOrigin text text' = true := by
  obtain ⟨authority, rest, heading, _, found⟩ := heading_of_parse read kind
  have scheme : url'.scheme = url.scheme := scheme_of_heading read' (same ▸ heading) kind
  obtain ⟨authority', rest', heading', _, found'⟩ := heading_of_parse read' (scheme ▸ kind)
  rw [scheme] at heading' found'
  cases heading.symm.trans (same.trans heading')
  have parts := Except.ok.inj (found.symm.trans found')
  simp only [Prod.mk.injEq] at parts
  obtain ⟨host, port, _⟩ := parts
  have origin : url.origin = url'.origin := by
    rw [Url.origin, Url.origin, Url.port?, Url.port?, host, port, scheme]
  exact sameOrigin_iff.mpr ⟨url, url', read, read', origin⟩

end Reading

section Continuation

theorem cleaned_append {text : String} {s t : List Char} {c : Char} (last : s.getLast? = some c)
    (bare : 0x20 < c.toNat) (goes : text.toList = s ++ t) :
    ∃ tail, cleaned text = cleaned (String.ofList s) ++ tail ∧ tail ⊆ t ∧
      ∀ d, 0x20 < d.toNat → t.head? = some d → tail.head? = some d := by
  have stays : ∀ {d : Char}, 0x20 < d.toNat → decide (d.toNat ≤ 0x20) = false := fun above =>
    decide_eq_false (Nat.not_le_of_lt above)
  unfold cleaned
  rw [goes, String.toList_ofList, Text.trim_append last (stays bare), List.filter_append]
  refine ⟨_, rfl, ?_, ?_⟩
  · intro d member
    exact (List.rdropWhile_prefix _ t).subset (List.mem_of_mem_filter member)
  · intro d above first
    obtain ⟨t, rfl⟩ := List.head?_eq_some_iff.mp first
    have apart : d ≠ '\t' ∧ d ≠ '\n' ∧ d ≠ '\x0d' := by
      refine ⟨?_, ?_, ?_⟩ <;> (rintro rfl; revert above; decide)
    rw [← List.singleton_append, Text.trimEnd_append rfl (stays above), List.filter_append,
      List.filter_cons, if_pos (by simp [apart])]
    rfl

theorem splitScheme_eq_some_iff {text : List Char} {scheme : String} {rest : List Char} :
    splitScheme text = some (scheme, rest) ↔
      text.dropWhile isSchemeChar = ':' :: rest ∧ (∃ c ∈ text.head?, c.isAlpha = true) ∧
        String.ofList (Domain.lower (text.takeWhile isSchemeChar)) = scheme := by
  cases text with
  | nil => simp [splitScheme]
  | cons c text =>
    unfold splitScheme
    simp only [List.head?_cons, Option.mem_def, Option.some.injEq, exists_eq_left']
    split
    · rename_i behind colon
      rw [colon]
      split <;> simp_all [and_comm]
    · rename_i apart
      simp only [reduceCtorEq, false_iff, not_and]
      intro colon
      exact absurd colon (apart rest)

theorem splitScheme_append {text slashes : List Char} {scheme : String} {rest : List Char}
    (all : ∀ c ∈ slashes, c = '/') (split : splitScheme (text ++ slashes) = some (scheme, rest)) :
    ∃ r, r <:+ text ∧ rest = r ++ slashes ∧
      ∀ tail, splitScheme (text ++ tail) = some (scheme, r ++ tail) := by
  obtain ⟨colon, alpha, name⟩ := splitScheme_eq_some_iff.mp split
  have within : ∃ r, text.dropWhile isSchemeChar = ':' :: r ∧ rest = r ++ slashes := by
    rw [List.dropWhile_append] at colon
    split at colon
    · have member : ':' ∈ slashes.dropWhile isSchemeChar := colon ▸ List.mem_cons_self
      cases all ':' ((List.dropWhile_sublist _).subset member)
    · rename_i left
      cases behind : text.dropWhile isSchemeChar with
      | nil => exact absurd behind (by simpa using left)
      | cons d r =>
        rw [behind, List.cons_append, List.cons.injEq] at colon
        exact ⟨r, colon.1 ▸ rfl, colon.2.symm⟩
  obtain ⟨r, within, rfl⟩ := within
  have suffix : r <:+ text :=
    (List.suffix_cons ':' r).trans (within ▸ List.dropWhile_suffix isSchemeChar)
  have filled : text ≠ [] := by
    rintro rfl
    cases within
  rw [(Text.cut_append within slashes).2] at name
  rw [List.head?_append_of_ne_nil _ filled] at alpha
  refine ⟨r, suffix, rfl, fun tail => splitScheme_eq_some_iff.mpr ⟨?_, ?_, ?_⟩⟩
  · exact (Text.cut_append within tail).1
  · rw [List.head?_append_of_ne_nil _ filled]
    exact alpha
  · rw [(Text.cut_append within tail).2]
    exact name

theorem front_append {text slashes : List Char} (all : ∀ c ∈ slashes, c = '/')
    (named : front (text ++ slashes) ≠ []) (tail : List Char) :
    ∃ more, front (text ++ tail) = front (text ++ slashes) ++ more ∧
      (more ≠ [] → front (text ++ slashes) <:+ text) ∧
      ((∀ c ∈ tail.head?, isAuthorityEnd .hosted c = true) → more = []) := by
  have slash : ∀ c ∈ slashes, UrlPath.isSlash .hosted c = true := fun c member => all c member ▸ rfl
  -- There is an authority, so it begins before the slashes and does not depend on what follows.
  have left : ¬ (text.dropWhile (UrlPath.isSlash .hosted)).isEmpty = true := by
    intro gone
    apply named
    rw [front, List.dropWhile_append, if_pos gone, List.dropWhile_eq_nil_iff.mpr slash,
      List.takeWhile_nil]
  have ended : ∀ {tail : List Char}, (∀ c ∈ tail.head?, isAuthorityEnd .hosted c = true) →
      tail.takeWhile (!isAuthorityEnd .hosted ·) = [] := by
    intro tail ends
    cases tail with
    | nil => rfl
    | cons c tail => rw [List.takeWhile_cons, ends c rfl]; rfl
  have slashEnds : ∀ c ∈ slashes.head?, isAuthorityEnd .hosted c = true :=
    fun c first => all c (List.mem_of_mem_head? first) ▸ rfl
  unfold front
  rw [List.dropWhile_append, List.dropWhile_append, if_neg left, if_neg left, List.takeWhile_append,
    List.takeWhile_append]
  split
  · rw [ended slashEnds, List.append_nil]
    exact ⟨_, rfl, fun _ => List.dropWhile_suffix _, ended⟩
  · exact ⟨[], (List.append_nil _).symm, fun more => absurd rfl more, fun _ => rfl⟩

variable {start url : String} {tail : List Char}

/-- A text that goes on where another ends has its scheme, and its authority or a longer one. -/
theorem heading_append {base : Url} (read : parse start = .ok base)
    (kind : schemeKind base.scheme = .hosted) (bare : EndsBare start)
    (goes : url.toList = (Text.withoutFinalSlashes start).toList ++ tail) :
    ∃ authority more, heading? start = some (base.scheme, authority) ∧
      heading? url = some (base.scheme, authority ++ more) ∧
      (more ≠ [] → authority <:+ cleaned (Text.withoutFinalSlashes start)) ∧
      ((∀ c ∈ tail.head?, isAuthorityEnd .hosted c = true) → more = []) := by
  obtain ⟨authority, _, heading, named, _⟩ := heading_of_parse read kind
  obtain ⟨c, last, above⟩ := bare
  obtain ⟨slashes, split, all⟩ := Text.toList_withoutFinalSlashes start
  obtain ⟨after, cleanStart, within, _⟩ := cleaned_append last above split
  obtain ⟨behind, cleanUrl, less, first⟩ := cleaned_append last above goes
  rw [String.ofList_toList] at cleanStart cleanUrl
  have allAfter : ∀ c ∈ after, c = '/' := fun c member => all c (within member)
  rw [heading?, cleanStart, Option.map_eq_some_iff] at heading
  obtain ⟨⟨scheme, rest⟩, found, parts⟩ := heading
  cases parts
  obtain ⟨r, suffix, rfl, continued⟩ := splitScheme_append allAfter found
  obtain ⟨more, longer, inside, ended⟩ := front_append allAfter named behind
  refine ⟨_, more, ?_, ?_, fun goesOn => (inside goesOn).trans suffix, fun ends => ended ?_⟩
  · rw [heading?, cleanStart, found]
    rfl
  · rw [heading?, cleanUrl, continued, ← longer]
    rfl
  · intro d begins
    cases tail with
    | nil =>
      rw [List.subset_nil.mp less] at begins
      cases begins
    | cons e tail =>
      have mark := ends e rfl
      have visible : 0x20 < e.toNat := by
        simp only [isAuthorityEnd, UrlPath.isSlash, Bool.or_eq_true, Bool.and_eq_true,
          decide_eq_true_eq] at mark
        rcases mark with ((rfl | ⟨_, rfl⟩) | rfl) | rfl <;> decide
      rw [first e visible rfl] at begins
      cases begins
      exact mark

theorem sameOrigin_or_extends (hosted : IsHosted start) (bare : EndsBare start)
    (begins : (Text.withoutFinalSlashes start).toList <+: url.toList)
    (readable : ∃ target, parse url = .ok target) :
    sameOrigin start url = true ∨ Extends start url := by
  obtain ⟨base, read, kind⟩ := hosted
  obtain ⟨tail, goes⟩ := begins
  obtain ⟨target, read'⟩ := readable
  obtain ⟨authority, more, heading, heading', inside, _⟩ := heading_append read kind bare goes.symm
  by_cases longer : more = []
  · rw [longer, List.append_nil] at heading'
    exact Or.inl (sameOrigin_of_heading read read' kind (heading.trans heading'.symm))
  · exact Or.inr ⟨base.scheme, authority, more, heading, inside longer, heading', longer⟩

theorem sameOrigin_of_ends (hosted : IsHosted start) (bare : EndsBare start)
    (goes : url.toList = (Text.withoutFinalSlashes start).toList ++ tail)
    (ends : ∀ c ∈ tail.head?, isAuthorityEnd .hosted c = true)
    (readable : ∃ target, parse url = .ok target) : sameOrigin start url = true := by
  obtain ⟨base, read, kind⟩ := hosted
  obtain ⟨target, read'⟩ := readable
  obtain ⟨authority, more, heading, heading', _, ended⟩ := heading_append read kind bare goes
  rw [ended ends, List.append_nil] at heading'
  exact sameOrigin_of_heading read read' kind (heading.trans heading'.symm)

end Continuation

end Url

end OperatorKit
