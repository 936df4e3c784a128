import OperatorKit.Proofs.Release.Lines
import OperatorKit.Proofs.Release.Orders
import OperatorKit.Proofs.Release.Repository

/-!
Reporting versions from the command line. Nothing is asked for unless all arguments are
repositories. Then the lines are printed if each lookup comes to one, and nothing is printed if one
fails, with a code that tells why it did. It is so in every order in which the lookups can go on.
-/

namespace OperatorKit

theorem Failure.exitCode_of_lookupCode {cause : FetchError} {code : Nat} (repository : String)
    (known : cause.lookupCode? = some code) :
    (ofRelease (.fetch repository cause)).exitCode = code := by
  cases cause with
  | network _ | timeout _ | tooManyRedirects _ _ | missingLocation _
  | decode _ _ | invalidUrl _ _ =>
    cases known
    rfl
  | status _ _ | clientBuild _ => cases known

namespace World

variable {world : World} {arguments : List String} {apiUser : Option String} {apiUrl : String}
  {options : FetchOptions} {repositories : List Repository} {reporter : Reporter} {b : Batch}
  {o : Outcome}

theorem queryVersions_of_invalid
    (invalid : ∃ argument ∈ arguments, ∀ r, Repository.ofString argument ≠ .ok r) :
    ∃ input, world.queryVersions arguments apiUser apiUrl options =
      some (.failed (.ofRelease (.invalidRepository input)) [] world.files) := by
  cases read : arguments.mapM Repository.ofString with
  | ok repositories =>
    obtain ⟨argument, member, refused⟩ := invalid
    obtain ⟨r, valid⟩ := exists_of_forall₂ (mapM_ok_iff.mp read) member
    exact absurd valid (refused r)
  | error e =>
    obtain ⟨argument, _, refused⟩ := exists_error_of_mapM read
    cases Repository.ofString_error refused
    refine ⟨argument, ?_⟩
    simp only [queryVersions, read, bind, Except.bind]

theorem exists_reporter (apiUser : Option String) (apiUrl : String) (limit : UInt32) :
    ∃ reporter, Reporter.build (lookupOptions apiUser apiUrl { maxRedirects := limit }) =
      .ok reporter ∧ reporter.client.options.maxRedirects = limit := by
  have sendable : isHeaderValue "adviser/0.1.0" = true := by decide +kernel
  unfold Reporter.build Client.build lookupOptions
  dsimp only
  rw [if_pos sendable]
  exact ⟨_, rfl, rfl⟩

def announce (world : World) (requests : List Request) :
    Except ReleaseError (List VersionLine) → Outcome
  | .error e => .failed (.ofRelease e) requests world.files
  | .ok lines =>
    .success (String.join (lines.map fun line => line.text ++ "\n")) requests world.files

theorem queryVersions_eq
    (read : List.Forall₂ (fun argument r => Repository.ofString argument = .ok r) arguments
      repositories)
    (built : Reporter.build (lookupOptions apiUser apiUrl options) = .ok reporter) :
    world.queryVersions arguments apiUser apiUrl options =
      (reporter.reportAll world.network [] repositories).result.map
        (world.announce (reporter.reportAll world.network [] repositories).requests) := by
  have valid := mapM_ok_iff.mpr read
  rw [lookupOptions] at built
  simp only [queryVersions, valid, built, bind, Except.bind, pure, Except.pure]
  congr 1

/-- How the command ends when its lookups have come to a result. -/
def Ends (world : World) (b : Batch) (o : Outcome) : Prop :=
  ∃ result, b.Gives result ∧ o = world.announce b.requests result

/-- All lookups have come to a line and all lines are printed, in the order of the repositories; or
a lookup has failed and nothing is printed, with the code of its failure. -/
inductive AllOrNothing (repositories : List Repository) (b : Batch) (o : Outcome) : Prop where
  | all {lines : List VersionLine} :
      b.lookups.map Lookup.result? = lines.map (fun line => some (.ok line)) →
      lines.map VersionLine.repository = repositories → o.exitCode = 0 →
      o.output = String.join (lines.map fun line => line.text ++ "\n") →
        AllOrNothing repositories b o
  | nothing {l : Lookup} {cause : FetchError} : l ∈ b.lookups →
      l.result? = some (.error (.fetch l.repository.text cause)) →
      cause.lookupCode? = some o.exitCode → o.output = "" → AllOrNothing repositories b o

theorem allOrNothing_of_ends (keeps : reporter.Keeps repositories b) (ends : world.Ends b o) :
    AllOrNothing repositories b o := by
  obtain ⟨result, gives, rfl⟩ := ends
  cases gives with
  | complete complete =>
    exact .all complete ((Lookup.repositories_eq complete).trans keeps.named) rfl rfl
  | failed member failed =>
    obtain ⟨cause, rfl, known⟩ := Lookup.result?_error (keeps.proper _ member) failed
    obtain ⟨code, coded⟩ := Option.ne_none_iff_exists'.mp known
    refine .nothing member failed ?_ rfl
    exact coded.trans (congrArg some (Failure.exitCode_of_lookupCode _ coded).symm)

theorem queryVersions_ends
    (read : List.Forall₂ (fun argument r => Repository.ofString argument = .ok r) arguments
      repositories)
    (built : Reporter.build (lookupOptions apiUser apiUrl options) = .ok reporter)
    (done : world.queryVersions arguments apiUser apiUrl options = some o) :
    ∃ n b, reporter.Runs world.network (reporter.start repositories) n b ∧ world.Ends b o := by
  rw [queryVersions_eq read built] at done
  obtain ⟨result, given, rfl⟩ := Option.map_eq_some_iff.mp done
  obtain ⟨n, lookups, run, gives⟩ := Reporter.exists_runs_of_reportAll given []
  exact ⟨n, _, run, result, gives _, rfl⟩

theorem queryVersions_endless
    (read : List.Forall₂ (fun argument r => Repository.ofString argument = .ok r) arguments
      repositories)
    (built : Reporter.build (lookupOptions apiUser apiUrl options) = .ok reporter)
    (endless : world.queryVersions arguments apiUser apiUrl options = none) :
    ∃ front r back lines, repositories = front ++ r :: back ∧
      (reporter.reportAll world.network [] front).result = some (.ok lines) ∧
      (reporter.report world.network (reporter.reportAll world.network [] front).requests r).result =
        none := by
  rw [queryVersions_eq read built, Option.map_eq_none_iff] at endless
  exact Reporter.exists_endless_of_reportAll endless

/-- An argument that is no repository ends the command before any request. Otherwise the command
ends if its lookups do, as in some order of them. And in every order, whatever the network answers,
it is never stuck, and at its end it has printed a line for each repository or nothing at all, with
a code that tells a failed exchange from an answer that is no release. -/
theorem queryVersions_all_or_nothing (world : World) (arguments : List String)
    (apiUser : Option String) (apiUrl : String) (limit : UInt32) :
    let run := world.queryVersions arguments apiUser apiUrl { maxRedirects := limit }
    ((∃ argument ∈ arguments, ∀ r, Repository.ofString argument ≠ .ok r) →
      ∃ o, run = some o ∧ o.exitCode = 64 ∧ o.output = "" ∧ o.requests = []) ∧
    ∀ repositories,
      List.Forall₂ (fun argument r => Repository.ofString argument = .ok r) arguments
        repositories →
      ∃ reporter,
        Reporter.build (lookupOptions apiUser apiUrl { maxRedirects := limit }) = .ok reporter ∧
        (limit.toNat < UInt32.size - 1 → run ≠ none) ∧
        (run = none → ∃ front r back lines, repositories = front ++ r :: back ∧
          (reporter.reportAll world.network [] front).result = some (.ok lines) ∧
          (reporter.report world.network
            (reporter.reportAll world.network [] front).requests r).result = none) ∧
        (∀ o, run = some o → ∃ n b,
          reporter.Runs world.network (reporter.start repositories) n b ∧ world.Ends b o) ∧
        ∀ n b, reporter.Runs world.network (reporter.start repositories) n b →
          (limit.toNat < UInt32.size - 1 → n ≤ repositories.length * (2 * (limit.toNat + 1))) ∧
          ((∃ o, world.Ends b o) ∨ ∃ b', reporter.Advances world.network b b') ∧
          ∀ o, world.Ends b o → AllOrNothing repositories b o := by
  intro run
  constructor
  · intro invalid
    obtain ⟨input, ended⟩ := queryVersions_of_invalid invalid
    exact ⟨_, ended, rfl, rfl, rfl⟩
  · intro repositories read
    obtain ⟨reporter, built, limited⟩ := exists_reporter apiUser apiUrl limit
    refine ⟨reporter, built, ?_, queryVersions_endless read built,
      fun o => queryVersions_ends read built, ?_⟩
    · intro bounded endless
      obtain ⟨_, r, _, _, _, _, unended⟩ := queryVersions_endless read built endless
      exact Reporter.report_ends (limited ▸ bounded) world.network _ r unended
    · intro n b order
      obtain ⟨keeps, short⟩ := order.keeps
      rw [limited] at short
      refine ⟨?_, ?_, fun o => allOrNothing_of_ends keeps⟩
      · intro bounded
        exact Nat.le_of_add_right_le (short bounded)
      · rcases Reporter.gives_or_advances reporter world.network b with ⟨result, gives⟩ | goes
        · exact Or.inl ⟨_, result, gives, rfl⟩
        · exact Or.inr goes

def library : World :=
  ⟨[], ⟨[], []⟩, Reporter.tagged⟩

theorem library_all_or_nothing :
    (∃ o, library.queryVersions ["o/a", "o"] none "http://api.test" { maxRedirects := 5 } = some o ∧
      o.exitCode = 64 ∧ o.output = "" ∧ o.requests = []) ∧
    (∃ o, ∃ lines : List VersionLine,
      library.queryVersions ["o/b", "o/a"] none "http://api.test" { maxRedirects := 5 } = some o ∧
      o.exitCode = 0 ∧
      lines.map VersionLine.repository = [⟨"o", "b"⟩, ⟨"o", "a"⟩] ∧
      o.output = String.join (lines.map fun line => line.text ++ "\n")) ∧
    ∃ o, library.queryVersions ["o/a", "o/c"] none "http://api.test" { maxRedirects := 5 } =
        some o ∧ o.exitCode = 1 ∧ o.output = "" := by
  have bounded : (5 : UInt32).toNat < UInt32.size - 1 := by decide
  have a : Repository.ofString "o/a" = .ok ⟨"o", "a"⟩ := by decide +kernel
  have b : Repository.ofString "o/b" = .ok ⟨"o", "b"⟩ := by decide +kernel
  have c : Repository.ofString "o/c" = .ok ⟨"o", "c"⟩ := by decide +kernel
  refine ⟨?_, ?_, ?_⟩
  · refine (queryVersions_all_or_nothing library ["o/a", "o"] none "http://api.test" 5).1
      ⟨"o", by decide, fun r valid => ?_⟩
    have refused : (Repository.ofString "o").isOk = false := by decide +kernel
    rw [valid] at refused
    cases refused
  · obtain ⟨reporter, _, ends, _, finishes, orders⟩ :=
      (queryVersions_all_or_nothing library ["o/b", "o/a"] none "http://api.test" 5).2 _
        (.cons b (.cons a .nil))
    obtain ⟨o, done⟩ := Option.ne_none_iff_exists'.mp (ends bounded)
    obtain ⟨n, batch, order, ended⟩ := finishes o done
    have code : (library.queryVersions ["o/b", "o/a"] none "http://api.test"
        { maxRedirects := 5 }).map Outcome.exitCode = some 0 := by decide +kernel
    rw [done] at code
    cases (orders n batch order).2.2 o ended with
    | all _ named succeeds printed => exact ⟨o, _, done, succeeds, named, printed⟩
    | @nothing _ cause _ _ known _ =>
      rw [Option.some.inj code] at known
      cases cause <;> cases known
  · obtain ⟨reporter, _, ends, _, finishes, orders⟩ :=
      (queryVersions_all_or_nothing library ["o/a", "o/c"] none "http://api.test" 5).2 _
        (.cons a (.cons c .nil))
    obtain ⟨o, done⟩ := Option.ne_none_iff_exists'.mp (ends bounded)
    obtain ⟨n, batch, order, ended⟩ := finishes o done
    have code : (library.queryVersions ["o/a", "o/c"] none "http://api.test"
        { maxRedirects := 5 }).map Outcome.exitCode = some 1 := by decide +kernel
    rw [done] at code
    cases (orders n batch order).2.2 o ended with
    | all _ _ succeeds _ => cases succeeds.symm.trans (Option.some.inj code)
    | nothing _ _ _ silent => exact ⟨o, done, Option.some.inj code, silent⟩

end World

end OperatorKit
