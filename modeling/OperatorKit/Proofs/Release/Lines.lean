import Mathlib.Data.List.Forall2
import OperatorKit.CommandLine.Run
import OperatorKit.Http.Script
import OperatorKit.Proofs.Release.Report
import OperatorKit.Proofs.Schema.Run
import OperatorKit.Proofs.Text.Split

/-!
The lines of a report of versions. A tag is written as it stands. The first line of it follows the
variable of its repository, and any further one stands on a line of its own.
-/

namespace OperatorKit

theorem Repository.versionVariable_plain (r : Repository) : '\n' ∉ r.versionVariable.toList := by
  unfold versionVariable variableName
  rw [String.toList_append, String.toList_ofList, List.mem_append, not_or]
  refine ⟨?_, by decide⟩
  intro member
  obtain ⟨c, _, written⟩ := List.mem_map.mp member
  split at written
  · subst written
    rename_i kept
    exact absurd kept (by decide)
  · exact absurd written (by decide)

namespace VersionLine

variable {lines : List VersionLine} {line : VersionLine}

def value (line : VersionLine) : String :=
  line.tag.getD ""

def rows (line : VersionLine) : List (List Char) :=
  (Text.cutAt (· = '\n') line.value.toList).modifyHead
    ((line.repository.versionVariable ++ "=").toList ++ ·)

theorem toList_text (line : VersionLine) :
    line.text.toList = (line.repository.versionVariable ++ "=").toList ++ line.value.toList :=
  String.toList_append

theorem cutAt_text (line : VersionLine) : Text.cutAt (· = '\n') line.text.toList = line.rows := by
  have plain : ∀ c ∈ (line.repository.versionVariable ++ "=").toList,
      decide (c = '\n') = false := by
    intro c member
    rw [String.toList_append, List.mem_append] at member
    apply decide_eq_false
    rintro rfl
    rcases member with named | equals
    · exact line.repository.versionVariable_plain named
    · exact absurd equals (by decide)
  rw [toList_text, Text.cutAt_append plain, rows]

theorem length_rows (line : VersionLine) :
    line.rows.length = line.value.toList.countP (· = '\n') + 1 := by
  rw [rows, List.length_modifyHead, Text.length_cutAt]

theorem rows_of_plain (plain : '\n' ∉ line.value.toList) : line.rows = [line.text.toList] := by
  have unmarked : ∀ c ∈ line.value.toList, decide (c = '\n') = false := by
    intro c member
    apply decide_eq_false
    rintro rfl
    exact plain member
  rw [rows, Text.cutAt_of_plain unmarked, List.modifyHead_cons, toList_text]

theorem length_le_rows (lines : List VersionLine) : lines.length ≤ (lines.flatMap rows).length := by
  induction lines with
  | nil => exact Nat.le_refl 0
  | cons line rest ih =>
    rw [List.flatMap_cons, List.length_append, List.length_cons, length_rows]
    omega

theorem plain_of_length_rows (few : (lines.flatMap rows).length = lines.length) :
    ∀ line ∈ lines, '\n' ∉ line.value.toList := by
  induction lines with
  | nil => exact List.forall_mem_nil _
  | cons line rest ih =>
    rw [List.flatMap_cons, List.length_append, List.length_cons, length_rows] at few
    have others := length_le_rows rest
    have none : line.value.toList.countP (· = '\n') = 0 := by omega
    refine List.forall_mem_cons.mpr ⟨fun member => ?_, ih (by omega)⟩
    exact List.countP_eq_zero.mp none _ member (decide_eq_true rfl)

theorem cutAt_join (lines : List VersionLine) :
    Text.cutAt (· = '\n') (String.join (lines.map fun line => line.text ++ "\n")).toList =
      lines.flatMap rows ++ [[]] := by
  induction lines with
  | nil => rfl
  | cons line rest ih =>
    have ended : (line.text ++ "\n").toList = line.text.toList ++ ['\n'] := String.toList_append
    rw [List.map_cons, String.join_cons, String.toList_append, ended, List.append_assoc,
      List.singleton_append, Text.cutAt_append_cons (decide_eq_true rfl), cutAt_text, ih,
      List.flatMap_cons, List.append_assoc]

end VersionLine

theorem Failure.exitCode_ne_zero (f : Failure) : f.exitCode ≠ 0 := by
  rw [Failure.exitCode]
  cases f.kind <;> decide

namespace World

variable {world : World} {arguments : List String} {apiUser : Option String} {apiUrl : String}
  {options : FetchOptions} {outcome : Outcome}

def lookupOptions (apiUser : Option String) (apiUrl : String) (options : FetchOptions) :
    ReporterOptions where
  apiUrl
  credentials := apiUser.bind Credentials.ofToken
  fetch := { options with accept := some "application/vnd.github.v3+json" }

theorem queryVersions_ok
    (done : world.queryVersions arguments apiUser apiUrl options = some outcome)
    (succeeds : outcome.exitCode = 0) :
    ∃ repositories reporter lines,
      arguments.mapM Repository.ofString = .ok repositories ∧
      Reporter.build (lookupOptions apiUser apiUrl options) = .ok reporter ∧
      (reporter.reportAll world.network [] repositories).result = some (.ok lines) ∧
      outcome.output = String.join (lines.map fun line => line.text ++ "\n") := by
  unfold queryVersions at done
  cases read : arguments.mapM Repository.ofString with
  | error e =>
    simp only [read, bind, Except.bind] at done
    cases done
    exact absurd succeeds (Failure.exitCode_ne_zero _)
  | ok repositories =>
    cases built : Reporter.build (lookupOptions apiUser apiUrl options) with
    | error e =>
      rw [lookupOptions] at built
      simp only [read, built, bind, Except.bind] at done
      cases done
      exact absurd succeeds (Failure.exitCode_ne_zero _)
    | ok reporter =>
      rw [lookupOptions] at built
      simp only [read, built, bind, Except.bind, pure, Except.pure] at done
      obtain ⟨result, reported, same⟩ := Option.map_eq_some_iff.mp done
      cases result with
      | error e =>
        cases same
        exact absurd succeeds (Failure.exitCode_ne_zero _)
      | ok lines =>
        cases same
        exact ⟨repositories, reporter, lines, rfl, rfl, reported, rfl⟩

def LineForEach (arguments : List String) (output : String) : Prop :=
  ∃ rows, Text.cutAt (· = '\n') output.toList = rows ++ [[]] ∧
    List.Forall₂ (fun argument row => ∃ r, Repository.ofString argument = .ok r ∧
      (r.versionVariable ++ "=").toList <+: row) arguments rows

theorem lineForEach_iff {output : String} {lines : List VersionLine}
    (named : List.Forall₂ (fun argument line => Repository.ofString argument = .ok line.repository)
      arguments lines)
    (written : Text.cutAt (· = '\n') output.toList = lines.flatMap VersionLine.rows ++ [[]]) :
    LineForEach arguments output ↔ ∀ line ∈ lines, '\n' ∉ line.value.toList := by
  constructor
  · rintro ⟨rows, cut, each⟩
    have same : lines.flatMap VersionLine.rows = rows :=
      List.append_cancel_right (written.symm.trans cut)
    apply VersionLine.plain_of_length_rows
    rw [same, ← each.length_eq, named.length_eq]
  · intro plain
    have single : lines.flatMap VersionLine.rows = lines.map fun line => line.text.toList := by
      rw [List.map_eq_flatMap]
      exact List.flatMap_congr fun line member => line.rows_of_plain (plain line member)
    refine ⟨_, written.trans (congrArg (· ++ [[]]) single), ?_⟩
    rw [List.forall₂_map_right_iff]
    refine named.imp fun argument line read => ⟨_, read, ?_⟩
    rw [line.toList_text]
    exact List.prefix_append _ _

/-- A report that is printed has the lines of its tags, and one for each repository exactly if none
of them has a line end in it. -/
theorem queryVersions_lines
    (done : world.queryVersions arguments apiUser apiUrl options = some outcome)
    (succeeds : outcome.exitCode = 0) :
    ∃ reporter lines,
      Reporter.build (lookupOptions apiUser apiUrl options) = .ok reporter ∧
      (reporter.reportAll world.network [] (lines.map VersionLine.repository)).result =
        some (.ok lines) ∧
      List.Forall₂ (fun argument line => Repository.ofString argument = .ok line.repository)
        arguments lines ∧
      Text.cutAt (· = '\n') outcome.output.toList = lines.flatMap VersionLine.rows ++ [[]] ∧
      (LineForEach arguments outcome.output ↔ ∀ line ∈ lines, '\n' ∉ line.value.toList) := by
  obtain ⟨repositories, reporter, lines, read, built, reported, printed⟩ :=
    queryVersions_ok done succeeds
  have own : List.Forall₂ (fun r line => r = line.repository) repositories lines :=
    (Reporter.reportAll_ok reported).imp fun r line ⟨_, here⟩ => (Reporter.report_ok here).symm
  have order : repositories = lines.map VersionLine.repository := by
    rw [← List.forall₂_eq_eq_eq, List.forall₂_map_right_iff]
    exact own
  have named : List.Forall₂
      (fun argument line => Repository.ofString argument = .ok line.repository)
      arguments lines := by
    have each := mapM_ok_iff.mp read
    rw [order, List.forall₂_map_right_iff] at each
    exact each
  have written := VersionLine.cutAt_join lines
  rw [← printed] at written
  exact ⟨reporter, lines, built, order ▸ reported, named, written, lineForEach_iff named written⟩

def AnswersJson (network : Network) : Prop :=
  ∀ past request, ∃ response, network.exchange past request = .answered response ∧
    (Json.parseBytes response.body).isOk

def twoLinesRelease : Json :=
  .object [("tag_name", .string "v1\nX_VERSION=2")]

def twoLines : World :=
  ⟨[], ⟨[], []⟩, ⟨fun _ _ => .answered ⟨200, [], Utf8.encode twoLinesRelease.compact⟩⟩⟩

def twoLinesOutcome : Outcome :=
  .success "O_N_VERSION=v1\nX_VERSION=2\n"
    [⟨"http://api.test/repos/o/n/releases/latest", "application/vnd.github.v3+json", [],
      "adviser/0.1.0"⟩] ⟨[], []⟩

theorem twoLines_outcome :
    twoLines.queryVersions ["o/n"] none "http://api.test" {} = some twoLinesOutcome := by
  decide +kernel

theorem twoLines_rows :
    twoLinesOutcome.exitCode = 0 ∧ ∃ lines : List VersionLine,
      List.Forall₂ (fun argument line => Repository.ofString argument = .ok line.repository)
        ["o/n"] lines ∧
      Text.cutAt (· = '\n') twoLinesOutcome.output.toList =
        lines.flatMap VersionLine.rows ++ [[]] ∧
      (LineForEach ["o/n"] twoLinesOutcome.output ↔
        ∀ line ∈ lines, '\n' ∉ line.value.toList) := by
  obtain ⟨_, lines, _, _, named, written, plain⟩ := queryVersions_lines twoLines_outcome rfl
  exact ⟨rfl, lines, named, written, plain⟩

theorem tag_adds_line :
    ¬ ∀ (world : World) (arguments : List String) (apiUrl : String) (outcome : Outcome),
      arguments ≠ [] → (∀ argument ∈ arguments, ∃ r, Repository.ofString argument = .ok r) →
      AnswersJson world.network →
      world.queryVersions arguments none apiUrl {} = some outcome → outcome.exitCode = 0 →
      LineForEach arguments outcome.output := by
  intro each
  have valid : ∀ argument ∈ ["o/n"], ∃ r, Repository.ofString argument = .ok r :=
    List.forall_mem_singleton.mpr ⟨⟨"o", "n"⟩, by decide +kernel⟩
  have json : AnswersJson twoLines.network :=
    fun _ _ => ⟨_, rfl, by decide +kernel⟩
  obtain ⟨rows, cut, aligned⟩ := each twoLines ["o/n"] "http://api.test" twoLinesOutcome
    (List.cons_ne_nil _ _) valid json twoLines_outcome rfl
  have three : (Text.cutAt (· = '\n') twoLinesOutcome.output.toList).length = 3 := by
    decide +kernel
  rw [cut, List.length_append, ← aligned.length_eq] at three
  exact absurd three (by decide)

end World

end OperatorKit
