import Mathlib.Data.List.Forall2
import OperatorKit.Proofs.Http.Steady
import OperatorKit.Release.Reporter

/-!
What is known of a report that has come to an end: whose line it is, whom an error names, and that
the lines of several repositories stand in their order. Over a network that answers alike each time
they are the lines that the repositories have alone.
-/

namespace OperatorKit.Reporter

variable {reporter : Reporter} {network : Network} {past : List Request} {r : Repository}
  {e : ReleaseError} {line : VersionLine} {repositories front back : List Repository}
  {lines : List VersionLine}

theorem tagOf_error {result : Except FetchError Page} (fails : tagOf r result = .error e) :
    ∃ cause, e = .fetch r.text cause := by
  unfold tagOf at fails
  split at fails
  · cases fails
    exact ⟨_, rfl⟩
  · split at fails
    · cases fails
      exact ⟨_, rfl⟩
    · cases fails

theorem report_ok (reported : (reporter.report network past r).result = some (.ok line)) :
    line.repository = r := by
  obtain ⟨result, _, tagged⟩ := Option.map_eq_some_iff.mp reported
  cases tag : tagOf r result with
  | error e =>
    rw [tag] at tagged
    cases tagged
  | ok _ =>
    rw [tag] at tagged
    cases tagged
    rfl

theorem report_error
    (failed : (reporter.report network past r).result = some (.error e)) :
    ∃ cause, e = .fetch r.text cause := by
  obtain ⟨result, _, tagged⟩ := Option.map_eq_some_iff.mp failed
  cases tag : tagOf r result with
  | error _ =>
    rw [tag] at tagged
    cases tagged
    exact tagOf_error tag
  | ok _ =>
    rw [tag] at tagged
    cases tagged

theorem reportAll_ok
    (reported : (reporter.reportAll network past repositories).result = some (.ok lines)) :
    List.Forall₂
      (fun r line => ∃ others,
        (reporter.report network (past ++ others) r).result = some (.ok line))
      repositories lines := by
  induction repositories generalizing past lines with
  | nil =>
    cases reported
    exact .nil
  | cons r rest ih =>
    rw [reportAll] at reported
    dsimp only at reported
    split at reported
    · cases reported
    · cases reported
    · rename_i line first
      obtain ⟨result, others, same⟩ := Option.map_eq_some_iff.mp reported
      cases result with
      | error _ => cases same
      | ok more =>
        cases same
        refine .cons ⟨[], by rw [List.append_nil, first]⟩ ((ih others).imp ?_)
        rintro r line ⟨later, here⟩
        exact ⟨_, List.append_assoc past _ later ▸ here⟩

def Reports (reporter : Reporter) (network : Network) (r : Repository) (line : VersionLine) :
    Prop :=
  (reporter.report network [] r).result = some (.ok line)

def Fails (reporter : Reporter) (network : Network) (r : Repository) (e : ReleaseError) : Prop :=
  (reporter.report network [] r).result = some (.error e)

theorem Reports.ends (reports : reporter.Reports network r line) :
    (reporter.report network [] r).result ≠ none := by
  rw [Reports] at reports
  rw [reports]
  exact Option.some_ne_none _

theorem Fails.ends (fails : reporter.Fails network r e) :
    (reporter.report network [] r).result ≠ none := by
  rw [Fails] at fails
  rw [fails]
  exact Option.some_ne_none _

theorem reports_unique : Relator.RightUnique (reporter.Reports network) := by
  intro r line other reports others
  cases reports.symm.trans others
  rfl

theorem report_steady (steady : network.Steady) (past : List Request) :
    reporter.report network past r = reporter.report network [] r := by
  unfold report Client.get
  rw [Client.run_steady steady past []]

theorem reportAll_of_reports (steady : network.Steady)
    (reports : List.Forall₂ (reporter.Reports network) repositories lines) (past : List Request) :
    (reporter.reportAll network past repositories).result = some (.ok lines) := by
  induction reports generalizing past with
  | nil => rfl
  | cons first _ ih =>
    rw [Reports, ← report_steady steady past] at first
    rw [reportAll, first]
    dsimp only
    rw [ih]
    rfl

theorem reportAll_of_fails (steady : network.Steady)
    (reports : ∀ r' ∈ front, ∃ line, reporter.Reports network r' line)
    (fails : reporter.Fails network r e) (past : List Request) :
    (reporter.reportAll network past (front ++ r :: back)).result = some (.error e) := by
  induction front generalizing past with
  | nil =>
    rw [Fails, ← report_steady steady past] at fails
    rw [List.nil_append, reportAll, fails]
  | cons first rest ih =>
    obtain ⟨⟨line, here⟩, others⟩ := List.forall_mem_cons.mp reports
    rw [Reports, ← report_steady steady past] at here
    rw [List.cons_append, reportAll, here]
    dsimp only
    rw [ih others]
    rfl

end OperatorKit.Reporter
