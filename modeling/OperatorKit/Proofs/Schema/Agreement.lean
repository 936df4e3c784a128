import Mathlib.Data.Set.Defs
import OperatorKit.Proofs.Schema.Clean
import OperatorKit.Proofs.Schema.Follow
import OperatorKit.Proofs.Schema.Strip

/-!
What a resolution depends on. Two documents agree on some references if each of these leads to the
same schema in both, but for documentation, and no other reference is written there. Then values that
are the same but for documentation, and have no other reference in them either, are resolved to the
same result with every limit, or refused for the same reason.
-/

namespace OperatorKit.Schema

section Results

variable {α β γ δ ε : Type} {R : α → β → Prop}

inductive Matches (R : α → β → Prop) : Except ε α → Except ε β → Prop where
  | failed (e : ε) : Matches R (.error e) (.error e)
  | done {a : α} {b : β} : R a b → Matches R (.ok a) (.ok b)

theorem Matches.map {S : γ → δ → Prop} {f : α → γ} {g : β → δ} {first : Except ε α}
    {second : Except ε β} (matching : Matches R first second)
    (related : ∀ a b, R a b → S (f a) (g b)) : Matches S (first.map f) (second.map g) := by
  cases matching with
  | failed e => exact .failed e
  | done both => exact .done (related _ _ both)

end Results

/-- Two values are the same but for documentation, and no reference outside of it is another than
those given. -/
structure Alike (pointers : Set String) (v w : Json) : Prop where
  same : strip v = strip w
  inside : ∀ p, Written survives v (.string p) → p ∈ pointers

def Agree (pointers : Set String) (first second : Json) : Prop :=
  ∀ p ∈ pointers, ∀ r, Reference.ofString p = .ok r →
    Matches (fun upper lower => Alike pointers (.object upper) (.object lower)) (target first r)
      (target second r)

variable {pointers : Set String} {first second v w : Json} {fields others : Fields}

namespace Alike

theorem object (alike : Alike pointers (.object fields) w) :
    ∃ others, w = .object others ∧ stripFields fields = stripFields others := by
  have same := alike.same
  cases w with
  | object others =>
    simp only [strip, Json.object.injEq] at same
    exact ⟨others, rfl, same⟩
  | _ => simp [strip] at same

theorem array {vs : List Json} (alike : Alike pointers (.array vs) w) :
    ∃ ws, w = .array ws ∧ List.Forall₂ (fun v w => strip v = strip w) vs ws := by
  have same := alike.same
  cases w with
  | array ws =>
    simp only [strip, Json.array.injEq, stripItems_eq] at same
    rw [← List.forall₂_eq_eq_eq, List.forall₂_map_left_iff, List.forall₂_map_right_iff] at same
    exact ⟨ws, rfl, same⟩
  | _ => simp [strip] at same

theorem scalar (alike : Alike pointers v w) (plain : v.fields? = none ∧ v.items? = none) :
    v = w := by
  have same := alike.same
  cases v with
  | array vs => cases plain.2
  | object fields => cases plain.1
  | _ => cases w <;> simp_all [strip]

theorem item {vs : List Json} (alike : Alike pointers (.array vs) w) {u u' : Json} (member : u ∈ vs)
    (same : strip u = strip u') : Alike pointers u u' :=
  ⟨same, fun p written => alike.inside p (written.item member)⟩

theorem field (alike : Alike pointers (.object fields) w) {field : String × Json} {u : Json}
    (member : field ∈ fields) (plain : Keyword.isStripped field.1 = false)
    (same : strip field.2 = strip u) : Alike pointers field.2 u :=
  ⟨same, fun p written => alike.inside p (written.field member (by simp [survives, plain]))⟩

theorem reference_eq (alike : Alike pointers (.object fields) (.object others)) :
    fields.lookup Keyword.reference = others.lookup Keyword.reference := by
  have same := alike.same
  simp only [strip, Json.object.injEq] at same
  have plain : Keyword.isStripped Keyword.reference = false := by decide
  have looked := congrArg (List.lookup Keyword.reference) same
  rw [lookup_stripFields plain, lookup_stripFields plain] at looked
  have whole : stripUnder Keyword.reference = id := by
    funext v
    exact if_pos rfl
  simpa [whole] using looked

theorem overlay {lower lower' upper upper' : Fields}
    (below : Alike pointers (.object lower) (.object lower'))
    (above : Alike pointers (.object upper) (.object upper')) :
    Alike pointers (.object (Entries.overlay lower upper)) (.object (Entries.overlay lower' upper')) := by
  have sameBelow := below.same
  have sameAbove := above.same
  simp only [strip, Json.object.injEq] at sameBelow sameAbove
  refine ⟨by rw [strip, strip, stripFields_overlay, stripFields_overlay, sameBelow, sameAbove], ?_⟩
  intro p written
  rcases written_object_iff.mp written with own | ⟨field, member, kept, inner⟩
  · rcases Entries.mem_overlay own with lower | upper
    · exact below.inside p (.own lower)
    · exact above.inside p (.own upper)
  · rcases Entries.mem_overlay member with lower | upper
    · exact below.inside p (inner.field lower kept)
    · exact above.inside p (inner.field upper kept)

theorem erase (alike : Alike pointers (.object fields) (.object others)) (key : String) :
    Alike pointers (.object (Entries.erase fields key)) (.object (Entries.erase others key)) := by
  have same := alike.same
  simp only [strip, Json.object.injEq] at same
  refine ⟨by rw [strip, strip, stripFields_erase, stripFields_erase, same], ?_⟩
  intro p written
  rcases written_object_iff.mp written with own | ⟨field, member, kept, inner⟩
  · exact alike.inside p (.own (Entries.mem_erase.mp own).1)
  · exact alike.inside p (inner.field (Entries.mem_erase.mp member).1 kept)

theorem side_by_side (alike : Alike pointers (.object fields) (.object others))
    (free : fields.lookup Keyword.reference = none) :
    List.Forall₂ (fun a b => a.1 = b.1 ∧ strip a.2 = strip b.2) (kept fields) (kept others) := by
  have same := alike.same
  simp only [strip, Json.object.injEq] at same
  rw [stripFields_of_free free, stripFields_of_free (alike.reference_eq ▸ free),
    ← List.forall₂_eq_eq_eq, List.forall₂_map_left_iff, List.forall₂_map_right_iff] at same
  exact same.imp fun a b pair => Prod.mk.inj pair

theorem member (alike : Alike pointers v w) {key : String}
    (plain : Keyword.isStripped key = false) :
    Option.Rel (Alike pointers) (v.member? key) (w.member? key) := by
  cases v with
  | object fields =>
    obtain ⟨others, rfl, same⟩ := alike.object
    have looked := congrArg (List.lookup key) same
    rw [lookup_stripFields plain, lookup_stripFields plain] at looked
    change Option.Rel (Alike pointers) (fields.lookup key) (others.lookup key)
    cases found : fields.lookup key with
    | none =>
      rw [found, Option.map_none] at looked
      rw [Option.map_eq_none_iff.mp looked.symm]
      exact .none
    | some u =>
      rw [found, Option.map_some] at looked
      obtain ⟨u', found', under⟩ := Option.map_eq_some_iff.mp looked.symm
      have below : strip u = strip u' := by
        by_cases reference : key = Keyword.reference
        · simp only [stripUnder, if_pos reference] at under
          rw [under]
        · simp only [stripUnder, if_neg reference] at under
          exact under.symm
      rw [found']
      exact .some (alike.field (Entries.mem_of_lookup found) plain below)
  | array vs =>
    obtain ⟨ws, rfl, _⟩ := alike.array
    exact .none
  | _ =>
    cases alike.scalar ⟨rfl, rfl⟩
    exact .none

theorem walk (alike : Alike pointers v w) {path : List String}
    (plain : ∀ key ∈ path, Keyword.isStripped key = false) :
    Option.Rel (Alike pointers) (v.walk? path) (w.walk? path) := by
  induction path generalizing v w with
  | nil => exact .some alike
  | cons key rest ih =>
    obtain ⟨here, later⟩ := List.forall_mem_cons.mp plain
    have step := alike.member here
    simp only [Json.walk?]
    generalize v.member? key = child at step
    generalize w.member? key = child' at step
    cases step with
    | none => exact .none
    | some below => exact ih below later

end Alike

theorem Agree.enter {x : Json} (agree : Agree pointers first second) (stack : Stack)
    (own : ∀ p, x = .string p → p ∈ pointers) :
    Matches (fun a b => a.1 = b.1 ∧ Alike pointers (.object a.2) (.object b.2))
      (enter first stack x) (enter second stack x) := by
  unfold Schema.enter
  cases parsed : reference x with
  | error e => exact .failed e
  | ok r =>
    by_cases known : stack.contains r.text = true
    · simp only [if_pos known]
      exact .failed _
    · simp only [if_neg known]
      cases x with
      | string p =>
        have leads := agree p (own p rfl) r parsed
        exact leads.map fun upper lower alike => ⟨rfl, alike⟩
      | _ => cases parsed

/-- A chain goes on in one document as in the other, and ends there under the same stack. -/
theorem Follows.alike {stack : Stack} {outcome : Step Fields} (agree : Agree pointers first second)
    (follows : Follows first fields stack outcome)
    (alike : Alike pointers (.object fields) (.object others)) :
    ∃ other, Follows second others stack other ∧ outcome.2 = other.2 ∧
      Matches (fun a b => Alike pointers (.object a) (.object b)) outcome.1 other.1 := by
  induction follows generalizing others with
  | @done fields stack free =>
    exact ⟨_, .done (alike.reference_eq ▸ free), rfl, .done alike⟩
  | @broken fields stack x e next failed =>
    have own : ∀ p, x = .string p → p ∈ pointers := by
      rintro p rfl
      exact alike.inside p (.own (Entries.mem_of_lookup next))
    have entered := agree.enter stack own
    rw [failed] at entered
    generalize both : enter second stack x = result at entered
    cases entered with
    | failed _ => exact ⟨_, .broken (alike.reference_eq ▸ next) both, rfl, .failed e⟩
  | @link fields upper stack x r outcome next found rest ih =>
    have own : ∀ p, x = .string p → p ∈ pointers := by
      rintro p rfl
      exact alike.inside p (.own (Entries.mem_of_lookup next))
    have entered := agree.enter stack own
    rw [found] at entered
    generalize both : enter second stack x = result at entered
    cases entered with
    | @done _ b related =>
      obtain ⟨r', lower⟩ := b
      obtain ⟨rfl, targets⟩ := related
      obtain ⟨other, follows, sameStack, ends⟩ := ih ((alike.erase Keyword.reference).overlay targets)
      exact ⟨other, .link (alike.reference_eq ▸ next) both follows, sameStack, ends⟩

def fieldsOf {ε : Type} (absent wrong : ε) : Option Json → Except ε Fields
  | none => .error absent
  | some (.object fields) => .ok fields
  | some _ => .error wrong

theorem Alike.fieldsOf {ε : Type} (absent wrong : ε) {found found' : Option Json}
    (alike : Option.Rel (Alike pointers) found found') :
    Matches (fun upper lower => Alike pointers (.object upper) (.object lower))
      (fieldsOf absent wrong found) (fieldsOf absent wrong found') := by
  cases alike with
  | none => exact .failed absent
  | @some v w both =>
    cases v with
    | object fields =>
      obtain ⟨others, rfl, _⟩ := both.object
      exact .done both
    | array vs =>
      obtain ⟨ws, rfl, _⟩ := both.array
      exact .failed wrong
    | _ =>
      cases both.scalar ⟨rfl, rfl⟩
      exact .failed wrong

def plainPointers : Set String :=
  { p | ∀ r, Reference.ofString p = .ok r →
    ∀ key ∈ r.directory ++ [r.key], Keyword.isStripped key = false }

/-- No reference outside of documentation leads into documentation. -/
def ReadsNoDocumentation (v : Json) : Prop :=
  ∀ p, Written survives v (.string p) → p ∈ plainPointers

theorem target_eq (document : Json) (r : Reference) :
    target document r = fieldsOf (.unresolved r.text) (.invalid r.text notObject)
      ((document.walk? r.directory).bind (·.member? r.key)) := by
  unfold target Json.lookup Json.directory?
  cases walked : document.walk? r.directory with
  | none => rfl
  | some v =>
    simp only [Option.bind_some, Json.member?]
    generalize (v.fields?.bind fun fields => fields.lookup r.key) = found
    cases found with
    | none => rfl
    | some w => cases w <;> rfl

theorem Alike.agree (alike : Alike plainPointers first second) :
    Agree plainPointers first second := by
  intro p plain r parsed
  obtain ⟨directory, key⟩ := List.forall_mem_append.mp (plain r parsed)
  have found := alike.walk directory
  rw [target_eq, target_eq]
  apply Alike.fieldsOf
  generalize first.walk? r.directory = v at found
  generalize second.walk? r.directory = w at found
  cases found with
  | none => exact .none
  | some below => exact below.member (key r.key (List.mem_singleton_self _))

variable {limit levels more more' : Nat} {stack : Stack} {pool pool' : List String}

theorem inline_alike (agree : Agree pointers first second)
    (alike : Alike pointers (.object fields) (.object others))
    (fits : Fits first more stack (.object fields) pool)
    (fits' : Fits second more' stack (.object others) pool') :
    (∃ e inner inner', inline first more fields stack = (.error e, inner) ∧
      inline second more' others stack = (.error e, inner')) ∨
    ∃ merged merged' inner, inline first more fields stack = (.ok merged, inner) ∧
      inline second more' others stack = (.ok merged', inner) ∧
      Alike pointers (.object merged) (.object merged') := by
  obtain ⟨other, follows, sameStack, ends⟩ := fits.follows.alike agree alike
  cases follows.unique fits'.follows
  generalize inline first more fields stack = run at sameStack ends
  generalize inline second more' others stack = run' at sameStack ends
  obtain ⟨result, inner⟩ := run
  obtain ⟨result', inner'⟩ := run'
  cases sameStack
  cases ends with
  | failed e => exact Or.inl ⟨e, inner, inner, rfl, rfl⟩
  | done both => exact Or.inr ⟨_, _, inner, rfl, rfl, both⟩

/-- With room for every reference on both sides, alike values are resolved to the same result. -/
theorem resolveValue_alike (agree : Agree pointers first second) (alike : Alike pointers v w)
    (fits : Fits first more stack v pool) (fits' : Fits second more' stack w pool') :
    (resolveValue first limit more levels v stack).1 =
      (resolveValue second limit more' levels w stack).1 := by
  induction levels generalizing v w stack with
  | zero => rfl
  | succ levels ih =>
    cases v with
    | array vs =>
      obtain ⟨ws, rfl, items⟩ := alike.array
      have each : (vs.mapM fun v => (resolveValue first limit more levels v stack).1) =
          ws.mapM fun w => (resolveValue second limit more' levels w stack).1 := by
        refine mapM_eq_of_forall₂ (forall₂_imp_of_mem items fun v member w also same => ?_)
        exact ih (alike.item member same) (fits.item member) (fits'.item also)
      rw [resolveValue_array, resolveValue_array, each]
    | object fields =>
      obtain ⟨others, rfl, _⟩ := alike.object
      rcases inline_alike agree alike fits fits' with
        ⟨e, inner, inner', failed, failed'⟩ | ⟨merged, merged', inner, done, done', both⟩
      · simp only [resolveValue, failed, failed']
      · obtain ⟨_, chain, _⟩ := inline_ok done
        have each : ((kept merged).mapM fun field =>
            (resolveValue first limit more levels field.2 inner).1.map fun v => (field.1, v)) =
            (kept merged').mapM fun field =>
              (resolveValue second limit more' levels field.2 inner).1.map fun v => (field.1, v) := by
          refine mapM_eq_of_forall₂ (forall₂_imp_of_mem (both.side_by_side chain.free)
            fun a member b also pair => ?_)
          -- The stacks are equal, but each side needs room of its own for what is written there.
          have below := fits.field done member
          have below' := fits'.field done' also
          obtain ⟨inside, plain⟩ := mem_kept.mp member
          rw [pair.1, ih (both.field inside plain pair.2) below below']
        rw [resolveValue_object done, resolveValue_object done', each]
    | _ =>
      cases alike.scalar ⟨rfl, rfl⟩
      rw [resolveValue_scalar ⟨rfl, rfl⟩, resolveValue_scalar ⟨rfl, rfl⟩]

theorem resolve_alike (agree : Agree pointers first second) (alike : Alike pointers v w)
    (limit : Nat) : resolve first limit v = resolve second limit w :=
  resolveValue_alike agree alike (.start first v) (.start second w)

end OperatorKit.Schema
