import OperatorKit.Proofs.Data.Entries
import OperatorKit.Proofs.Http.Scope
import OperatorKit.Proofs.Text.Trimming

/-!
Scopes as a history of additions. The entries may come in any order and the order may change between
two additions, but there is one entry for a scope, with the credentials of its last addition. Of the
scopes that a URL begins with no two are equally long, so the order does not show.
-/

namespace OperatorKit.Scopes

/-- What the scopes may be after some additions, whatever order their entries have come to be in. -/
inductive Holds : List (String × Credentials) → Scopes → Prop where
  | empty : Holds [] []
  | add {additions : List (String × Credentials)} {scopes : Scopes} (start : String)
      (c : Credentials) :
      Holds additions scopes → Holds (additions ++ [(start, c)]) (scopes.add start c)
  | reorder {additions : List (String × Credentials)} {scopes others : Scopes} :
      Holds additions scopes → scopes.Perm others → Holds additions others

def latest? (additions : List (String × Credentials)) (scope : String) : Option Credentials :=
  ((additions.filter fun addition => Text.withoutFinalSlashes addition.1 = scope).getLast?).map (·.2)

/-- Without its final slashes nothing is left, and every URL begins with that. -/
def isCatchAll (start : String) : Bool :=
  start.toList.all (· = '/')

def catchAll? (additions : List (String × Credentials)) : Option Credentials :=
  ((additions.filter (isCatchAll ·.1)).getLast?).map (·.2)

structure Records (additions : List (String × Credentials)) (scopes : Scopes) : Prop where
  distinct : (scopes.map Prod.fst).Nodup
  entry_iff : ∀ scope c, (scope, c) ∈ scopes ↔ latest? additions scope = some c

variable {additions : List (String × Credentials)} {scopes others : Scopes} {scope url : String}
  {c : Credentials}

section Latest

theorem latest?_concat (start : String) (d : Credentials) : latest? (additions ++ [(start, d)]) scope =
    if Text.withoutFinalSlashes start = scope then some d else latest? additions scope := by
  rw [latest?, List.filter_append, List.filter_singleton]
  by_cases same : Text.withoutFinalSlashes start = scope
  · simp [same]
  · simp [same, latest?]

theorem latest?_isSome_iff : (latest? additions scope).isSome = true ↔
    ∃ addition ∈ additions, Text.withoutFinalSlashes addition.1 = scope := by
  rw [latest?, Option.isSome_map, List.getLast?_isSome, Ne, List.filter_eq_nil_iff]
  simp

theorem latest?_of_mem {addition : String × Credentials} (member : addition ∈ additions) :
    ∃ c, latest? additions (Text.withoutFinalSlashes addition.1) = some c :=
  Option.isSome_iff_exists.mp (latest?_isSome_iff.mpr ⟨addition, member, rfl⟩)

theorem isCatchAll_iff {start : String} :
    isCatchAll start = true ↔ Text.withoutFinalSlashes start = "" := by
  have bare : Text.trimEnd (· = '/') start.toList = [] ↔ ∀ c ∈ start.toList, decide (c = '/') = true :=
    List.rdropWhile_eq_nil_iff
  rw [isCatchAll, List.all_eq_true, ← bare, Text.withoutFinalSlashes, ← String.toList_inj,
    String.toList_ofList]
  rfl

theorem catchAll?_eq_latest? : catchAll? additions = latest? additions "" := by
  have same : (fun addition : String × Credentials => isCatchAll addition.1) =
      fun addition => decide (Text.withoutFinalSlashes addition.1 = "") :=
    funext fun addition => Bool.eq_iff_iff.mpr (isCatchAll_iff.trans decide_eq_true_iff.symm)
  rw [catchAll?, latest?, same]

theorem latest?_filter (keep : String × Credentials → Bool) (kept : ∀ addition ∈ additions,
      Text.withoutFinalSlashes addition.1 = scope → keep addition = true) :
    latest? (additions.filter keep) scope = latest? additions scope := by
  rw [latest?, latest?, List.filter_filter]
  congr 2
  refine List.filter_congr fun addition member => ?_
  by_cases same : Text.withoutFinalSlashes addition.1 = scope
  · simp [same, kept addition member same]
  · simp [same]

end Latest

section Records

theorem Records.add (records : Records additions scopes) (start : String) (d : Credentials) :
    Records (additions ++ [(start, d)]) (scopes.add start d) where
  distinct := Entries.nodup_put records.distinct
  entry_iff scope c := by
    rw [Scopes.add, Entries.mem_put_iff records.distinct, records.entry_iff, latest?_concat]
    by_cases same : Text.withoutFinalSlashes start = scope
    · simp [same, eq_comm]
    · simp [same, Ne.symm same]

theorem Records.perm (records : Records additions scopes) (perm : scopes.Perm others) :
    Records additions others where
  distinct := (perm.map Prod.fst).nodup_iff.mp records.distinct
  entry_iff scope c := by rw [← perm.mem_iff, records.entry_iff]

theorem Holds.records (holds : Holds additions scopes) : Records additions scopes := by
  induction holds with
  | empty => exact ⟨List.nodup_nil, fun _ _ => by simp [latest?]⟩
  | add start c _ ih => exact ih.add start c
  | reorder _ perm ih => exact ih.perm perm

end Records

/-- A scope that was added decides for a URL: the URL begins with it, and with no other that is not a
beginning of it. -/
structure Decides (additions : List (String × Credentials)) (url scope : String) : Prop where
  added : ∃ addition ∈ additions, Text.withoutFinalSlashes addition.1 = scope
  covers : covers scope url = true
  longest : ∀ addition ∈ additions, Scopes.covers (Text.withoutFinalSlashes addition.1) url = true →
    (Text.withoutFinalSlashes addition.1).toList <+: scope.toList

section Deciding

theorem prefix_of_covers {first second : String} (covers₁ : covers first url = true)
    (covers₂ : covers second url = true) (short : first.length ≤ second.length) :
    first.toList <+: second.toList :=
  List.prefix_of_prefix_length_le (List.isPrefixOf_iff_prefix.mp covers₁)
    (List.isPrefixOf_iff_prefix.mp covers₂) (by rwa [String.length_toList, String.length_toList])

theorem Decides.unique {first second : String} (one : Decides additions url first)
    (other : Decides additions url second) : first = second := by
  obtain ⟨addition, member, rfl⟩ := one.added
  obtain ⟨addition', member', rfl⟩ := other.added
  have below := other.longest addition member one.covers
  have above := one.longest addition' member' other.covers
  exact String.toList_inj.mp (below.eq_of_length_le above.length_le)

theorem Records.decides_of_longest (records : Records additions scopes)
    (best : scopes.Longest url (scope, c)) : Decides additions url scope where
  added := latest?_isSome_iff.mp (Option.isSome_of_eq_some ((records.entry_iff scope c).mp best.member))
  covers := best.covers
  longest addition member also := by
    obtain ⟨d, latest⟩ := latest?_of_mem member
    have entry := (records.entry_iff _ d).mpr latest
    exact prefix_of_covers also best.covers (best.longest (_, d) entry also)

theorem Records.credentials?_eq_none_iff (records : Records additions scopes) :
    scopes.credentials? url = none ↔
      ∀ addition ∈ additions, covers (Text.withoutFinalSlashes addition.1) url = false := by
  refine Scopes.credentials?_eq_none_iff.trans ⟨?_, ?_⟩
  · intro none addition member
    obtain ⟨d, latest⟩ := latest?_of_mem member
    have entry := (records.entry_iff _ d).mpr latest
    exact none (_, d) entry
  · intro none entry member
    obtain ⟨addition, added, same⟩ := latest?_isSome_iff.mp
      (Option.isSome_of_eq_some ((records.entry_iff entry.1 entry.2).mp member))
    rw [← same]
    exact none addition added

theorem Records.credentials?_of_decides (records : Records additions scopes)
    (decides : Decides additions url scope) :
    scopes.credentials? url = latest? additions scope := by
  cases found : scopes.credentials? url with
  | none =>
    obtain ⟨addition, member, rfl⟩ := decides.added
    cases (records.credentials?_eq_none_iff.mp found addition member).symm.trans decides.covers
  | some c =>
    obtain ⟨other, best⟩ := longest_of_credentials? found
    have same := (records.decides_of_longest best).unique decides
    exact ((records.entry_iff scope c).mp (same ▸ best.member)).symm

theorem Records.credentials?_eq_some_iff (records : Records additions scopes) :
    scopes.credentials? url = some c ↔
      ∃ scope, Decides additions url scope ∧ latest? additions scope = some c := by
  constructor
  · intro found
    obtain ⟨scope, best⟩ := longest_of_credentials? found
    exact ⟨scope, records.decides_of_longest best, (records.entry_iff scope c).mp best.member⟩
  · rintro ⟨scope, decides, latest⟩
    exact (records.credentials?_of_decides decides).trans latest

/-- The scopes that are not catch-alls come first, whenever one of them fits. -/
theorem Records.credentials?_eq_or (records : Records additions scopes)
    (named : Records (additions.filter (!isCatchAll ·.1)) others) :
    scopes.credentials? url = (others.credentials? url).or (catchAll? additions) := by
  have catches {addition : String × Credentials} (all : isCatchAll addition.1 = true)
      (scope : String) : (Text.withoutFinalSlashes addition.1).toList <+: scope.toList := by
    rw [isCatchAll_iff.mp all]
    exact List.nil_prefix
  rw [catchAll?_eq_latest?]
  cases found : others.credentials? url with
  | some c =>
    obtain ⟨scope, decides, latest⟩ := named.credentials?_eq_some_iff.mp found
    obtain ⟨addition, member, same⟩ := decides.added
    obtain ⟨added, proper⟩ := List.mem_filter.mp member
    have kept : ∀ other ∈ additions, Text.withoutFinalSlashes other.1 = scope →
        (!isCatchAll other.1) = true := by
      intro other _ also
      rw [Bool.not_eq_true', Bool.eq_false_iff, Ne, isCatchAll_iff, also, ← same, ← isCatchAll_iff]
      simpa using proper
    rw [latest?_filter _ kept] at latest
    refine records.credentials?_eq_some_iff.mpr
      ⟨scope, ⟨⟨addition, added, same⟩, decides.covers, fun other member also => ?_⟩, latest⟩
    cases all : isCatchAll other.1 with
    | true => exact catches all scope
    | false => exact decides.longest other (List.mem_filter.mpr ⟨member, by rw [all]; rfl⟩) also
  | none =>
    have apart := named.credentials?_eq_none_iff.mp found
    have uncovered : ∀ addition ∈ additions, isCatchAll addition.1 = false →
        covers (Text.withoutFinalSlashes addition.1) url = false := fun addition member all =>
      apart addition (List.mem_filter.mpr ⟨member, by rw [all]; rfl⟩)
    rw [Option.none_or]
    cases latest : latest? additions "" with
    | some c =>
      have added := latest?_isSome_iff.mp (Option.isSome_of_eq_some latest)
      refine records.credentials?_eq_some_iff.mpr
        ⟨"", ⟨added, rfl, fun addition member also => ?_⟩, latest⟩
      cases all : isCatchAll addition.1 with
      | true => exact catches all ""
      | false => cases (uncovered addition member all).symm.trans also
    | none =>
      refine records.credentials?_eq_none_iff.mpr fun addition member => ?_
      cases all : isCatchAll addition.1 with
      | true =>
        obtain ⟨c, found⟩ := latest?_of_mem member
        rw [isCatchAll_iff.mp all, latest] at found
        cases found
      | false => exact uncovered addition member all

end Deciding

/-- Whatever order the entries are in, the credentials for a URL are those of the last addition for the
longest scope that it begins with, and there are none exactly if it begins with no scope. An addition
of slashes alone is for every URL that no other scope fits. -/
theorem latest_longest_of_holds (holds : Holds additions scopes) (url : String) :
    (∀ c, scopes.credentials? url = some c ↔
      ∃ scope, Decides additions url scope ∧ latest? additions scope = some c) ∧
    (scopes.credentials? url = none ↔
      ∀ addition ∈ additions, covers (Text.withoutFinalSlashes addition.1) url = false) ∧
    ∀ others, Holds (additions.filter (!isCatchAll ·.1)) others →
      scopes.credentials? url = (others.credentials? url).or (catchAll? additions) :=
  ⟨fun _ => holds.records.credentials?_eq_some_iff, holds.records.credentials?_eq_none_iff,
    fun _ named => holds.records.credentials?_eq_or named.records⟩

/-- An interface is added twice, written with and without slashes, and a catch-all in between; the map
is then in another order than the additions. -/
theorem latest_longest_twice :
    let old := Credentials.token "old"
    let all := Credentials.basic "any" "one"
    let new := Credentials.basic "user" "pass"
    let additions := [("https://api.test//", old), ("//", all), ("https://api.test", new)]
    let scopes := [("", all), ("https://api.test", new)]
    let named := [("https://api.test", new)]
    Holds additions scopes ∧ Holds (additions.filter (!isCatchAll ·.1)) named ∧
      Scopes.credentials? scopes "https://api.test/repos" = some new ∧
      Scopes.credentials? scopes "https://api.tes" = some all ∧
      Scopes.credentials? scopes "https://api.tes" =
        (Scopes.credentials? named "https://api.tes").or (catchAll? additions) := by
  intro old all new additions scopes named
  have holds : Holds additions scopes :=
    .reorder (.add _ new (.add _ all (.add _ old .empty))) (by decide +kernel)
  have without : additions.filter (!isCatchAll ·.1) =
      [("https://api.test//", old), ("https://api.test", new)] := by decide +kernel
  have holds' : Holds (additions.filter (!isCatchAll ·.1)) named := by
    rw [without]
    exact .reorder (.add _ new (.add _ old .empty)) (by decide +kernel)
  refine ⟨holds, holds', ?_, ?_, (latest_longest_of_holds holds _).2.2 named holds'⟩
  · exact ((latest_longest_of_holds holds _).1 new).mpr
      ⟨"https://api.test", ⟨⟨_, List.mem_cons_self, by decide +kernel⟩, by decide +kernel,
        by decide +kernel⟩, by decide +kernel⟩
  · exact ((latest_longest_of_holds holds _).1 all).mpr
      ⟨"", ⟨⟨_, List.mem_cons_of_mem _ List.mem_cons_self, by decide +kernel⟩, by decide +kernel,
        by decide +kernel⟩, by decide +kernel⟩

end OperatorKit.Scopes
