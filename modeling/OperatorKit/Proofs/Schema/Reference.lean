import OperatorKit.Proofs.Json.Nesting
import OperatorKit.Proofs.Text.Split
import OperatorKit.Schema.Reference

/-!
How references are written and read. Restoring the slashes of a segment and then its tildes comes to
one pass over it, since neither step makes or breaks an escape of the other. So a reference is read
piece by piece, and any path of keys that have names can be written as one.
-/

namespace OperatorKit

namespace Json

variable {document v : Json} {r : Reference}

theorem lookup_eq (document : Json) (r : Reference) :
    document.lookup r =
      match document.walk? (r.directory ++ [r.key]) with
      | some v => .ok v
      | none => .error (.unresolved r.text) := by
  have last : ∀ w : Json, w.walk? [r.key] = w.fields?.bind (·.lookup r.key) :=
    fun w => Option.bind_fun_some (w.member? r.key)
  have route : document.walk? (r.directory ++ [r.key]) =
      (document.directory? r).bind (·.lookup r.key) := by
    rw [directory?, walk?_append, Option.bind_assoc, funext last]
  rw [route]
  rfl

theorem lookup_ok_iff :
    document.lookup r = .ok v ↔ document.walk? (r.directory ++ [r.key]) = some v := by
  rw [lookup_eq]
  split
  · rename_i w found
    rw [found, Except.ok.injEq, Option.some.injEq]
  · rename_i missed
    simp [missed]

theorem lookup_error_iff {e : SchemaError} :
    document.lookup r = .error e ↔
      document.walk? (r.directory ++ [r.key]) = none ∧ e = .unresolved r.text := by
  rw [lookup_eq]
  split
  · rename_i w found
    simp [found]
  · rename_i missed
    simp [missed, eq_comm]

end Json

namespace Reference

section Segment

variable {mark replacement c : Char} {segment rest : List Char}

/-- A segment read from the front: `~1` is a slash, `~0` is a tilde, and all else is itself. -/
def decode : List Char → List Char
  | '~' :: '1' :: rest => '/' :: decode rest
  | '~' :: '0' :: rest => '~' :: decode rest
  | c :: rest => c :: decode rest
  | [] => []

theorem replaceTilde_escape (mark replacement : Char) (rest : List Char) :
    replaceTilde mark replacement ('~' :: mark :: rest) =
      replacement :: replaceTilde mark replacement rest := by
  rw [replaceTilde, if_pos ⟨rfl, rfl⟩]

theorem replaceTilde_cons (plain : ¬ (c = '~' ∧ rest.head? = some mark)) :
    replaceTilde mark replacement (c :: rest) = c :: replaceTilde mark replacement rest := by
  cases rest with
  | nil => rfl
  | cons d more =>
    have apart : ¬ (c = '~' ∧ d = mark) := fun ⟨tilde, marked⟩ => plain ⟨tilde, congrArg some marked⟩
    rw [replaceTilde, if_neg apart]

theorem replaceTilde_of_ne (plain : c ≠ '~') :
    replaceTilde mark replacement (c :: rest) = c :: replaceTilde mark replacement rest :=
  replaceTilde_cons fun both => plain both.1

/-- A replacement puts no other character first than the one it brings in. -/
theorem head?_replaceTilde (first : (replaceTilde mark replacement segment).head? = some c) :
    c = replacement ∨ segment.head? = some c := by
  cases segment with
  | nil => cases first
  | cons d rest =>
    by_cases escaped : d = '~' ∧ rest.head? = some mark
    · obtain ⟨rfl, marked⟩ := escaped
      obtain ⟨more, rfl⟩ := List.head?_eq_some_iff.mp marked
      rw [replaceTilde_escape] at first
      exact Or.inl (Option.some.inj first).symm
    · rw [replaceTilde_cons escaped] at first
      exact Or.inr first

theorem unescape_eq_decode (segment : List Char) : unescape segment = decode segment := by
  unfold unescape
  fun_induction decode segment with
  | case1 rest ih =>
    have slash : '/' ≠ '~' := by decide
    rw [replaceTilde_escape, replaceTilde_of_ne slash, ih]
  | case2 rest ih =>
    have later : '0' ≠ '~' := by decide
    have here : ¬ ('~' = '~' ∧ ('0' :: rest).head? = some '1') := by simp
    rw [replaceTilde_cons here, replaceTilde_of_ne later, replaceTilde_escape, ih]
  | case3 c rest noSlash noTilde ih =>
    by_cases tilde : c = '~'
    · subst tilde
      have first : rest.head? ≠ some '1' := by
        intro marked
        obtain ⟨more, rfl⟩ := List.head?_eq_some_iff.mp marked
        exact noSlash more rfl rfl
      -- What comes to stand behind this tilde was there before, or it is a slash.
      have second : (replaceTilde '1' '/' rest).head? ≠ some '0' := by
        intro marked
        rcases head?_replaceTilde marked with slash | before
        · exact absurd slash (by decide)
        · obtain ⟨more, rfl⟩ := List.head?_eq_some_iff.mp before
          exact noTilde more rfl rfl
      rw [replaceTilde_cons fun both => first both.2, replaceTilde_cons fun both => second both.2, ih]
    · rw [replaceTilde_of_ne tilde, replaceTilde_of_ne tilde, ih]
  | case4 => rfl

theorem decode_eq_nil_iff : decode segment = [] ↔ segment = [] := by
  fun_cases decode segment <;> simp

end Segment

section Grammar

def keys (path : String) : List String :=
  (path.toList.splitOn '/').map fun segment => String.ofList (decode segment)

theorem keys_ne_nil (path : String) : keys path ≠ [] := by
  unfold keys List.splitOn
  exact mt List.map_eq_nil_iff.mp (List.splitOnP_ne_nil _ _)

theorem dropLast_append_getLastD {α : Type} {as : List α} (filled : as ≠ []) (default : α) :
    as.dropLast ++ [as.getLastD default] = as := by
  rw [List.getLastD_eq_getLast?, List.getLast?_eq_some_getLast filled, Option.getD_some,
    List.dropLast_concat_getLast]

theorem any_isEmpty_keys (path : String) :
    (keys path).any (·.isEmpty) = true ↔ [] ∈ path.toList.splitOn '/' := by
  simp only [keys, List.any_map, List.any_eq_true, Function.comp_apply, String.isEmpty_iff,
    String.ofList_eq_empty_iff, decode_eq_nil_iff, exists_eq_right]

theorem toList_path (path : String) : ("#/" ++ path).toList = '#' :: '/' :: path.toList :=
  String.toList_append

theorem exists_path {text : String} (isLocal : "#/".toList <+: text.toList) :
    ∃ path, text = "#/" ++ path := by
  obtain ⟨rest, written⟩ := isLocal
  refine ⟨String.ofList rest, ?_⟩
  rw [← String.toList_inj, ← written, String.toList_append]
  exact congrArg _ String.toList_ofList.symm

theorem ofString_path (path : String) :
    ofString ("#/" ++ path) =
      if [] ∈ path.toList.splitOn '/' then .error (.invalid ("#/" ++ path) emptySegment)
      else .ok ⟨"#/" ++ path, (keys path).dropLast, (keys path).getLastD ""⟩ := by
  have cut : (Text.cutAt (· = '/') path.toList).map (fun s => String.ofList (unescape s)) =
      keys path := by
    simp only [Text.cutAt_eq_splitOnP, unescape_eq_decode]
    rfl
  simp only [ofString, toList_path, cut]
  by_cases gap : [] ∈ path.toList.splitOn '/'
  · rw [if_pos gap, if_pos ((any_isEmpty_keys path).mpr gap)]
  · rw [if_neg gap, if_neg (mt (any_isEmpty_keys path).mp gap)]

theorem ofString_foreign {text : String} (foreign : ¬ "#/".toList <+: text.toList) :
    ofString text = .error (.unsupported text) := by
  unfold ofString
  split
  · rename_i rest written
    exact absurd ⟨rest, written.symm⟩ foreign
  · rfl

theorem ofString_unsupported_iff {text p : String} :
    ofString text = .error (.unsupported p) ↔ p = text ∧ ¬ "#/".toList <+: text.toList := by
  constructor
  · intro refused
    have foreign : ¬ "#/".toList <+: text.toList := by
      intro isLocal
      obtain ⟨path, rfl⟩ := exists_path isLocal
      rw [ofString_path] at refused
      split at refused <;> cases refused
    rw [ofString_foreign foreign] at refused
    cases refused
    exact ⟨rfl, foreign⟩
  · rintro ⟨rfl, foreign⟩
    exact ofString_foreign foreign

theorem ofString_invalid_iff {path p reason : String} :
    ofString ("#/" ++ path) = .error (.invalid p reason) ↔
      p = "#/" ++ path ∧ reason = emptySegment ∧ [] ∈ path.toList.splitOn '/' := by
  rw [ofString_path]
  split
  · rename_i gap
    simp [gap, eq_comm]
  · rename_i whole
    simp [whole]

theorem ofString_ok_iff {path : String} {r : Reference} :
    ofString ("#/" ++ path) = .ok r ↔
      [] ∉ path.toList.splitOn '/' ∧ r.text = "#/" ++ path ∧ r.directory ++ [r.key] = keys path := by
  rw [ofString_path]
  split
  · rename_i gap
    simp [gap]
  · rename_i whole
    obtain ⟨text, directory, key⟩ := r
    constructor
    · intro read
      cases read
      exact ⟨whole, rfl, dropLast_append_getLastD (keys_ne_nil path) ""⟩
    · rintro ⟨_, rfl, named⟩
      rw [← named, List.dropLast_concat, List.getLastD_concat]

/-- Which texts are references, why any other is refused, and which keys a reference names. -/
theorem ofString_grammar :
    (∀ text p, ofString text = .error (.unsupported p) ↔
      p = text ∧ ¬ "#/".toList <+: text.toList) ∧
    (∀ path p reason, ofString ("#/" ++ path) = .error (.invalid p reason) ↔
      p = "#/" ++ path ∧ reason = emptySegment ∧ [] ∈ path.toList.splitOn '/') ∧
    ∀ path, [] ∉ path.toList.splitOn '/' ↔
      ∃ r, ofString ("#/" ++ path) = .ok r ∧ r.text = "#/" ++ path ∧
        r.directory ++ [r.key] =
          (path.toList.splitOn '/').map fun segment => String.ofList (decode segment) := by
  refine ⟨fun _ _ => ofString_unsupported_iff, fun _ _ _ => ofString_invalid_iff, fun path => ?_⟩
  constructor
  · intro whole
    have named := dropLast_append_getLastD (keys_ne_nil path) ""
    exact ⟨⟨_, _, _⟩, ofString_ok_iff.mpr ⟨whole, rfl, named⟩, rfl, named⟩
  · rintro ⟨r, read, _, _⟩
    exact (ofString_ok_iff.mp read).1

/-- An escaped tilde takes no part in what follows it, and a stray one stands for itself. -/
example : ofString "#/a~01/~/~~1~2" = .ok ⟨"#/a~01/~/~~1~2", ["a~1", "~"], "~/~2"⟩ := rfl

end Grammar

section Path

variable {path : List String}

def substitute (c : Char) (text : List Char) (segment : List Char) : List Char :=
  segment.flatMap fun d => if d = c then text else [d]

/-- A key as a segment: first its tildes and then its slashes are escaped. -/
def escaped (key : String) : String :=
  String.ofList (substitute '/' ['~', '1'] (substitute '~' ['~', '0'] key.toList))

theorem escape_eq_substitute (segment : List Char) :
    escape segment = substitute '/' ['~', '1'] (substitute '~' ['~', '0'] segment) := by
  unfold escape substitute
  rw [List.flatMap_assoc]
  refine congrArg segment.flatMap (funext fun c => ?_)
  by_cases tilde : c = '~'
  · simp [tilde]
  · by_cases slash : c = '/' <;> simp [tilde, slash]

theorem decode_cons {c : Char} (plain : c ≠ '~') (rest : List Char) :
    decode (c :: rest) = c :: decode rest := by
  rw [decode]
  · rintro _ rfl
    exact absurd rfl plain
  · rintro _ rfl
    exact absurd rfl plain

theorem decode_escape (segment : List Char) : decode (escape segment) = segment := by
  induction segment with
  | nil => rfl
  | cons c rest ih =>
    rw [escape, List.flatMap_cons, ← escape]
    by_cases tilde : c = '~'
    · rw [if_pos tilde, List.cons_append, List.singleton_append, decode, ih, tilde]
    · by_cases slash : c = '/'
      · rw [if_neg tilde, if_pos slash, List.cons_append, List.singleton_append, decode, ih, slash]
      · rw [if_neg tilde, if_neg slash, List.singleton_append, decode_cons tilde, ih]

theorem slash_not_mem_escape (segment : List Char) : '/' ∉ escape segment := by
  intro member
  obtain ⟨c, _, written⟩ := List.mem_flatMap.mp member
  split at written
  · exact absurd written (by decide)
  · split at written
    · exact absurd written (by decide)
    · rename_i slash
      exact slash (List.mem_singleton.mp written).symm

theorem toList_textOf (path : List String) :
    (textOf path).toList = '#' :: path.flatMap fun key => '/' :: escape key.toList :=
  String.toList_ofList

theorem flatMap_slash {α : Type} {as : List α} (segment : α → List Char) (filled : as ≠ []) :
    (as.flatMap fun a => '/' :: segment a) = '/' :: ['/'].intercalate (as.map segment) := by
  induction as with
  | nil => exact absurd rfl filled
  | cons a rest ih =>
    cases rest with
    | nil => simp
    | cons b more =>
      have next := ih (List.cons_ne_nil b more)
      have two : ['/'].intercalate ((a :: b :: more).map segment) =
          segment a ++ ['/'] ++ ['/'].intercalate ((b :: more).map segment) :=
        List.intercalate_cons_cons
      rw [List.flatMap_cons, next, two]
      simp

theorem textOf_eq (filled : path ≠ []) :
    textOf path = "#/" ++ "/".intercalate (path.map escaped) := by
  have segments : (path.map escaped).map String.toList = path.map fun key => escape key.toList := by
    rw [List.map_map]
    refine List.map_congr_left fun key _ => ?_
    rw [Function.comp_apply, escaped, String.toList_ofList, escape_eq_substitute]
  rw [← String.toList_inj, toList_textOf, flatMap_slash _ filled, toList_path,
    String.toList_intercalate, segments]
  rfl

theorem splitOn_escaped (filled : path ≠ []) :
    ("/".intercalate (path.map escaped)).toList.splitOn '/' =
      path.map fun key => escape key.toList := by
  have plain : ∀ segment ∈ path.map fun key => escape key.toList, '/' ∉ segment := by
    intro segment member
    obtain ⟨key, _, rfl⟩ := List.mem_map.mp member
    exact slash_not_mem_escape key.toList
  have written := textOf_eq filled
  rw [← String.toList_inj, toList_textOf, flatMap_slash _ filled, toList_path,
    List.cons.injEq, List.cons.injEq] at written
  rw [← written.2.2]
  exact List.splitOn_intercalate '/' plain (mt List.map_eq_nil_iff.mp filled)

theorem keys_escaped (filled : path ≠ []) :
    keys ("/".intercalate (path.map escaped)) = path := by
  rw [keys, splitOn_escaped filled, List.map_map]
  have back : ∀ key : String, String.ofList (decode (escape key.toList)) = key := by
    intro key
    rw [decode_escape, String.ofList_toList]
  exact List.map_id'' back path

/-- A path of keys that have names is written as a reference that reads back as the path, and a
lookup of it finds what the path leads to. -/
theorem ofString_textOf (path : List String) (filled : path ≠ []) (named : ∀ key ∈ path, key ≠ "") :
    textOf path = "#/" ++ "/".intercalate (path.map escaped) ∧
    ∃ r, ofString (textOf path) = .ok r ∧ r.directory ++ [r.key] = path ∧ r.text = textOf path ∧
      ∀ document : Json,
        (∀ v, document.lookup r = .ok v ↔ document.walk? path = some v) ∧
        (∀ e, document.lookup r = .error e ↔
          document.walk? path = none ∧ e = .unresolved (textOf path)) := by
  have written := textOf_eq filled
  have whole : [] ∉ ("/".intercalate (path.map escaped)).toList.splitOn '/' := by
    rw [splitOn_escaped filled]
    intro gap
    obtain ⟨key, member, empty⟩ := List.mem_map.mp gap
    rw [← decode_eq_nil_iff, decode_escape, String.toList_eq_nil_iff] at empty
    exact named key member empty
  have parts := dropLast_append_getLastD filled ""
  have read : ofString (textOf path) = .ok ⟨textOf path, path.dropLast, path.getLastD ""⟩ := by
    rw [written]
    exact ofString_ok_iff.mpr ⟨whole, rfl, parts.trans (keys_escaped filled).symm⟩
  refine ⟨written, _, read, parts, rfl, fun document => ⟨fun v => ?_, fun e => ?_⟩⟩
  · rw [Json.lookup_ok_iff, parts]
  · rw [Json.lookup_error_iff, parts]

def mixedPath : List String :=
  ["paths", "/a~1", "~0/~"]

def mixedDocument : Json :=
  .object [("paths", .object [("/a~1", .object [("~0/~", .ofInt 1)])])]

theorem mixedPath_textOf :
    mixedPath ≠ [] ∧ (∀ key ∈ mixedPath, key ≠ "") ∧
      textOf mixedPath = "#/paths/~1a~01/~00~1~0" ∧
      ∃ r, ofString (textOf mixedPath) = .ok r ∧ r.directory ++ [r.key] = mixedPath ∧
        mixedDocument.lookup r = .ok (.ofInt 1) ∧
        Json.null.lookup r = .error (.unresolved "#/paths/~1a~01/~00~1~0") := by
  have filled : mixedPath ≠ [] := List.cons_ne_nil _ _
  have named : ∀ key ∈ mixedPath, key ≠ "" := by decide
  obtain ⟨_, r, read, parts, _, looked⟩ := ofString_textOf mixedPath filled named
  exact ⟨filled, named, rfl, r, read, parts, ((looked mixedDocument).1 _).mpr rfl,
    ((looked .null).2 _).mpr ⟨rfl, rfl⟩⟩

end Path

end Reference

end OperatorKit
