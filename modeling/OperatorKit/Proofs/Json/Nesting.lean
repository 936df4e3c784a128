import OperatorKit.Json.Basic
import OperatorKit.Proofs.Data.Entries

/-!
What stands inside a value, what holds throughout it, and how deep it nests. Items and fields lead
down; the keys that lead down can be restricted, which leaves out all that stands below the other
keys.
-/

namespace OperatorKit.Json

/-- One value stands inside another, below keys that are kept. -/
inductive Contains (keep : String → Bool) : Json → Json → Prop where
  | here {v : Json} : Contains keep v v
  | item {vs : List Json} {v w : Json} :
      v ∈ vs → Contains keep v w → Contains keep (.array vs) w
  | field {fields : Fields} {field : String × Json} {w : Json} :
      field ∈ fields → keep field.1 = true → Contains keep field.2 w → Contains keep (.object fields) w

def everyKey : String → Bool := fun _ => true

def Throughout (P : Fields → Prop) (v : Json) : Prop :=
  ∀ fields, v.Contains everyKey (.object fields) → P fields

/-- Induction on a value, with a hypothesis for each item and each field. -/
@[elab_as_elim]
theorem induct {motive : Json → Prop}
    (scalar : ∀ v : Json, v.fields? = none ∧ v.items? = none → motive v)
    (array : ∀ vs : List Json, (∀ v ∈ vs, motive v) → motive (.array vs))
    (object : ∀ fields : Fields, (∀ field ∈ fields, motive field.2) → motive (.object fields)) :
    (v : Json) → motive v
  | .array vs => array vs fun v _ => induct scalar array object v
  | .object fields => object fields fun field _ => induct scalar array object field.2
  | .null => scalar _ ⟨rfl, rfl⟩
  | .bool _ => scalar _ ⟨rfl, rfl⟩
  | .number _ => scalar _ ⟨rfl, rfl⟩
  | .string _ => scalar _ ⟨rfl, rfl⟩
termination_by v => sizeOf v
decreasing_by
  · rename_i member
    have smaller := List.sizeOf_lt_of_mem member
    simp only [Json.array.sizeOf_spec]
    omega
  · rename_i member
    have smaller := List.sizeOf_lt_of_mem member
    obtain ⟨key, value⟩ := field
    simp only [Json.object.sizeOf_spec, Prod.mk.sizeOf_spec] at smaller ⊢
    omega

theorem Contains.trans {keep : String → Bool} {u v w : Json} (outer : Contains keep u v)
    (inner : Contains keep v w) : Contains keep u w := by
  induction outer with
  | here => exact inner
  | item member _ ih => exact .item member (ih inner)
  | field member kept _ ih => exact .field member kept (ih inner)

theorem Contains.anywhere {keep : String → Bool} {v w : Json} (inside : Contains keep v w) :
    Contains everyKey v w := by
  induction inside with
  | here => exact .here
  | item member _ ih => exact .item member ih
  | field member _ _ ih => exact .field member rfl ih

section Throughout

variable {P : Fields → Prop} {v w : Json}

theorem Throughout.inside (holds : v.Throughout P) (inside : v.Contains everyKey w) :
    w.Throughout P :=
  fun fields deeper => holds fields (inside.trans deeper)

theorem throughout_array_iff {vs : List Json} :
    Throughout P (.array vs) ↔ ∀ v ∈ vs, v.Throughout P := by
  constructor
  · exact fun holds v member => holds.inside (.item member .here)
  · intro holds fields inside
    cases inside with
    | item member deeper => exact holds _ member fields deeper

theorem throughout_object_iff {fields : Fields} :
    Throughout P (.object fields) ↔ P fields ∧ ∀ field ∈ fields, field.2.Throughout P := by
  constructor
  · exact fun holds => ⟨holds fields .here, fun field member => holds.inside (.field member rfl .here)⟩
  · rintro ⟨here, below⟩ inner inside
    cases inside with
    | here => exact here
    | field member _ deeper => exact below _ member inner deeper

theorem throughout_scalar (plain : v.fields? = none ∧ v.items? = none) : v.Throughout P := by
  intro fields inside
  cases inside with
  | here => cases plain.1
  | item _ _ => cases plain.2
  | field _ _ _ => cases plain.1

end Throughout

theorem contains_of_member? {v w : Json} {key : String} (found : v.member? key = some w) :
    Contains everyKey v w := by
  cases v with
  | object fields => exact .field (Entries.mem_of_lookup found) rfl .here
  | _ => simp [member?, fields?] at found

theorem contains_of_walk? {v w : Json} {path : List String} (found : v.walk? path = some w) :
    Contains everyKey v w := by
  induction path generalizing v with
  | nil => exact Option.some.inj found ▸ .here
  | cons key rest ih =>
    obtain ⟨child, first, later⟩ := Option.bind_eq_some_iff.mp found
    exact (contains_of_member? first).trans (ih later)

theorem walk?_append (v : Json) (path rest : List String) :
    v.walk? (path ++ rest) = (v.walk? path).bind (·.walk? rest) := by
  induction path generalizing v with
  | nil => rfl
  | cons key path ih =>
    rw [List.cons_append, walk?, walk?, Option.bind_assoc]
    exact congrArg _ (funext ih)

mutual

/-- The number of levels below a value: none below a scalar or an empty container. -/
def height : Json → Nat
  | .array vs => heightOfItems vs
  | .object fields => heightOfFields fields
  | _ => 0

def heightOfItems : List Json → Nat
  | [] => 0
  | v :: rest => max (height v + 1) (heightOfItems rest)

def heightOfFields : List (String × Json) → Nat
  | [] => 0
  | (_, v) :: rest => max (height v + 1) (heightOfFields rest)

end

theorem height_scalar {v : Json} (plain : v.fields? = none ∧ v.items? = none) : v.height = 0 := by
  cases v with
  | array vs => cases plain.2
  | object fields => cases plain.1
  | _ => rfl

theorem height_array_le_iff {vs : List Json} {n : Nat} :
    height (.array vs) ≤ n ↔ ∀ v ∈ vs, height v < n := by
  simp only [height]
  induction vs with
  | nil => simp [heightOfItems]
  | cons v rest ih => rw [heightOfItems, Nat.max_le, List.forall_mem_cons, ih, Nat.add_one_le_iff]

theorem height_object_le_iff {fields : Fields} {n : Nat} :
    height (.object fields) ≤ n ↔ ∀ field ∈ fields, height field.2 < n := by
  simp only [height]
  induction fields with
  | nil => simp [heightOfFields]
  | cons field rest ih =>
    rw [heightOfFields, Nat.max_le, List.forall_mem_cons, ih, Nat.add_one_le_iff]

theorem Contains.height_le {keep : String → Bool} {v w : Json} (inside : Contains keep v w) :
    height w ≤ height v := by
  induction inside with
  | here => exact Nat.le_refl _
  | item member _ ih =>
    exact Nat.le_of_lt (Nat.lt_of_le_of_lt ih (height_array_le_iff.mp (Nat.le_refl _) _ member))
  | field member _ _ ih =>
    exact Nat.le_of_lt (Nat.lt_of_le_of_lt ih (height_object_le_iff.mp (Nat.le_refl _) _ member))

inductive AtLevel : Json → Nat → Json → Prop where
  | here {v : Json} : AtLevel v 0 v
  | item {vs : List Json} {v w : Json} {n : Nat} :
      v ∈ vs → AtLevel v n w → AtLevel (.array vs) (n + 1) w
  | field {fields : Fields} {field : String × Json} {w : Json} {n : Nat} :
      field ∈ fields → AtLevel field.2 n w → AtLevel (.object fields) (n + 1) w

def IsContainer (v : Json) : Prop :=
  ¬ (v.fields? = none ∧ v.items? = none)

section AtLevel

variable {v w : Json} {n : Nat}

theorem AtLevel.parent (below : v.AtLevel (n + 1) w) :
    ∃ u, v.AtLevel n u ∧ u.AtLevel 1 w := by
  induction n generalizing v with
  | zero => exact ⟨v, .here, below⟩
  | succ n ih =>
    cases below with
    | item member deeper =>
      obtain ⟨u, above, last⟩ := ih deeper
      exact ⟨u, .item member above, last⟩
    | field member deeper =>
      obtain ⟨u, above, last⟩ := ih deeper
      exact ⟨u, .field member above, last⟩

theorem AtLevel.isContainer (below : v.AtLevel (n + 1) w) : v.IsContainer := by
  intro plain
  cases below with
  | item _ _ => cases plain.2
  | field _ _ => cases plain.1

theorem AtLevel.le_height (below : v.AtLevel n w) : n ≤ v.height := by
  induction below with
  | here => exact Nat.zero_le _
  | item member _ ih =>
    have lower := height_array_le_iff.mp (Nat.le_refl _) _ member
    omega
  | field member _ ih =>
    have lower := height_object_le_iff.mp (Nat.le_refl _) _ member
    omega

/-- The height is that of the lowest value inside. -/
theorem height_le_iff : v.height ≤ n ↔ ∀ k w, v.AtLevel k w → k ≤ n := by
  constructor
  · intro low k w below
    exact Nat.le_trans below.le_height low
  · intro bounded
    induction v using Json.induct generalizing n with
    | scalar v plain =>
      rw [height_scalar plain]
      exact Nat.zero_le n
    | array vs ih =>
      refine height_array_le_iff.mpr fun v member => ?_
      have below : ∀ k w, v.AtLevel k w → k + 1 ≤ n := fun k w deeper =>
        bounded (k + 1) w (.item member deeper)
      have first := below 0 v .here
      have low : v.height ≤ n - 1 := ih v member fun k w deeper => by
        have next := below k w deeper
        omega
      omega
    | object fields ih =>
      refine height_object_le_iff.mpr fun field member => ?_
      have below : ∀ k w, field.2.AtLevel k w → k + 1 ≤ n := fun k w deeper =>
        bounded (k + 1) w (.field member deeper)
      have first := below 0 field.2 .here
      have low : field.2.height ≤ n - 1 := ih field member fun k w deeper => by
        have next := below k w deeper
        omega
      omega

end AtLevel

mutual

/-- The most containers that are open at once in the text of a value. -/
def nesting : Json → Nat
  | .array vs => nestingOfItems vs + 1
  | .object fields => nestingOfFields fields + 1
  | _ => 0

def nestingOfItems : List Json → Nat
  | [] => 0
  | v :: rest => max (nesting v) (nestingOfItems rest)

def nestingOfFields : List (String × Json) → Nat
  | [] => 0
  | (_, v) :: rest => max (nesting v) (nestingOfFields rest)

end

theorem nesting_array_le_iff {vs : List Json} {n : Nat} :
    nesting (.array vs) ≤ n + 1 ↔ ∀ v ∈ vs, nesting v ≤ n := by
  rw [nesting, Nat.add_le_add_iff_right]
  induction vs with
  | nil => simp [nestingOfItems]
  | cons v rest ih => rw [nestingOfItems, Nat.max_le, List.forall_mem_cons, ih]

theorem nesting_object_le_iff {fields : Fields} {n : Nat} :
    nesting (.object fields) ≤ n + 1 ↔ ∀ field ∈ fields, nesting field.2 ≤ n := by
  rw [nesting, Nat.add_le_add_iff_right]
  induction fields with
  | nil => simp [nestingOfFields]
  | cons field rest ih => rw [nestingOfFields, Nat.max_le, List.forall_mem_cons, ih]

theorem AtLevel.lt_nesting {v w : Json} {n : Nat} (below : v.AtLevel n w)
    (container : w.IsContainer) : n < v.nesting := by
  induction below with
  | @here v =>
    cases v with
    | array _ => exact Nat.succ_pos _
    | object _ => exact Nat.succ_pos _
    | _ => exact absurd ⟨rfl, rfl⟩ container
  | @item vs _ _ _ member _ ih =>
    have inside : ∀ v ∈ vs, v.nesting ≤ nestingOfItems vs := nesting_array_le_iff.mp (Nat.le_refl _)
    have here := inside _ member
    have deeper := ih container
    rw [nesting]
    omega
  | @field fields _ _ _ member _ ih =>
    have inside : ∀ field ∈ fields, field.2.nesting ≤ nestingOfFields fields :=
      nesting_object_le_iff.mp (Nat.le_refl _)
    have here := inside _ member
    have deeper := ih container
    rw [nesting]
    omega

end OperatorKit.Json
