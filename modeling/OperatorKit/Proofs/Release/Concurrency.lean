import Mathlib.Data.List.Forall2
import OperatorKit.Proofs.Release.Report
import OperatorKit.Proofs.Schema.Run
import OperatorKit.Release.Batch

/-!
Lookups side by side report what they report one by one. Over a network that answers a request alike
whatever came before, a lookup that goes on does what it does alone, and has so many steps before it
as its own fetch. So every order comes to the same lines.
-/

namespace OperatorKit

namespace Client

variable {s : Fetching}

theorem requests_receive (client : Client) (start : String) (base : Url) (response : Response)
    (complete : Bool) :
    (client.receive start s base response complete).state.requests = s.requests := by
  unfold receive
  split
  · dsimp only
    split
    · rfl
    · split
      · rfl
      · split <;> rfl
  · split <;> rfl

theorem requests_step (client : Client) (network : Network) (past : List Request) (start : String)
    (s : Fetching) :
    ∃ asked, (client.step network past start s).state.requests = s.requests ++ asked := by
  unfold step
  dsimp only
  cases client.outgoing start s.current with
  | error reason => exact ⟨[], (List.append_nil _).symm⟩
  | ok out =>
    dsimp only
    split
    · exact ⟨[], (List.append_nil _).symm⟩
    · exact ⟨[out.request], rfl⟩
    · exact ⟨[out.request], rfl⟩
    · exact ⟨[out.request], requests_receive client start _ _ _⟩
    · exact ⟨[out.request], requests_receive client start _ _ _⟩

end Client

open Client in
/-- A lookup is on its way to an end, with so many steps before it at most. -/
inductive Stage.Heads (client : Client) (network : Network) (start : String) (final : Fetching)
    (result : Except FetchError Page) : Nat → Stage → Prop where
  | ready {n : Nat} {s : Fetching} : client.run network [] start n s = ⟨final, some result⟩ →
      Heads client network start final result (2 * n) (.ready s)
  | next {n : Nat} {s : Fetching} : client.run network [] start n s = ⟨final, some result⟩ →
      Heads client network start final result (2 * n + 1) (.waiting (.next s))
  | done : Heads client network start final result 1 (.waiting (.done final result))
  | ended : Heads client network start final result 0 (.ended final result)

namespace Stage

variable {client : Client} {network : Network} {start : String} {final : Client.Fetching}
  {result : Except FetchError Page} {k : Nat} {stage stage' : Stage} {history : List Request}

theorem Heads.advance (steady : network.Steady)
    (heads : Heads client network start final result k stage)
    (goes : stage.next? client network history start = some stage') :
    ∃ m < k, Heads client network start final result m stage' := by
  cases heads with
  | @ready n s rest =>
    cases goes
    cases n with
    | zero => cases rest
    | succ n =>
      -- The network as it stands after the others' requests answers as it does when alone.
      have alone : client.step (network.after history) [] start s =
          client.step network [] start s := Client.step_congr fun _ => steady _ _ _
      rw [alone]
      rw [Client.run] at rest
      cases step : client.step network [] start s with
      | done s' result' =>
        rw [step] at rest
        cases rest
        exact ⟨1, by omega, .done⟩
      | next s' =>
        rw [step] at rest
        exact ⟨2 * n + 1, by omega, .next rest⟩
  | @next n s rest =>
    cases goes
    exact ⟨2 * n, by omega, .ready rest⟩
  | done =>
    cases goes
    exact ⟨0, by omega, .ended⟩
  | ended => cases goes

theorem requests_next? (goes : stage.next? client network history start = some stage') :
    stage'.requests = stage.requests ++ stage'.requests.drop stage.requests.length := by
  have grown : ∃ asked, stage'.requests = stage.requests ++ asked := by
    cases stage with
    | ready s =>
      cases goes
      exact Client.requests_step client (network.after history) [] start s
    | waiting outcome =>
      cases outcome <;> cases goes <;> exact ⟨[], (List.append_nil _).symm⟩
    | ended s result => cases goes
  obtain ⟨asked, same⟩ := grown
  rw [same, List.drop_left]

end Stage

theorem Lookup.goes_on {client : Client} {network : Network} {history : List Request}
    {start : String} {l : Lookup} (unfinished : l.result? = none) :
    ∃ stage, l.stage.next? client network history start = some stage := by
  obtain ⟨r, stage⟩ := l
  cases stage with
  | ready s => exact ⟨_, rfl⟩
  | waiting outcome => cases outcome <;> exact ⟨_, rfl⟩
  | ended s result => cases unfinished

namespace Reporter

variable {reporter : Reporter} {network : Network} {repositories : List Repository}
  {lookups before after : List Lookup} {l : Lookup} {stage : Stage} {history : List Request}
  {r : Repository} {lines : List VersionLine} {k n : Nat}

/-- A lookup of a batch is on its way to the end of the fetch that the repository has alone. -/
structure OnCourse (reporter : Reporter) (network : Network) (r : Repository) (l : Lookup)
    (k : Nat) : Prop where
  named : l.repository = r
  heads : ∃ final result, reporter.client.get network [] (reporter.url r) = ⟨final, some result⟩ ∧
    l.stage.Heads reporter.client network (reporter.url r) final result k

theorem OnCourse.begin (ends : (reporter.report network [] r).result ≠ none) :
    OnCourse reporter network r ⟨r, .ready (Client.begin (reporter.url r))⟩
      (2 * (reporter.client.options.maxRedirects.toNat + 1)) := by
  refine ⟨rfl, ?_⟩
  cases whole : reporter.client.get network [] (reporter.url r) with
  | mk final outcome =>
    cases outcome with
    | none =>
      refine absurd ?_ ends
      rw [report, whole]
      rfl
    | some result => exact ⟨final, result, rfl, .ready whole⟩

theorem OnCourse.advance (steady : network.Steady) (course : OnCourse reporter network r l k)
    (goes :
      l.stage.next? reporter.client network history (reporter.url l.repository) = some stage) :
    ∃ m < k, OnCourse reporter network r { l with stage } m := by
  obtain ⟨named, final, result, whole, heads⟩ := course
  rw [named] at goes
  obtain ⟨m, fewer, heads⟩ := heads.advance steady goes
  exact ⟨m, fewer, named, final, result, whole, heads⟩

/-- What a lookup has come to in a batch, it comes to alone, with the same requests. -/
theorem OnCourse.finished {result : Except ReleaseError VersionLine}
    (course : OnCourse reporter network r l k) (given : l.result? = some result) :
    (reporter.report network [] r).result = some result ∧
      (reporter.report network [] r).requests = l.stage.requests := by
  obtain ⟨rfl, final, _, whole, heads⟩ := course
  obtain ⟨repository, stage⟩ := l
  dsimp only at whole
  cases heads with
  | ready _ | next _ | done => cases given
  | ended =>
    rw [report, whole]
    exact ⟨given, rfl⟩

inductive Tracks (reporter : Reporter) (network : Network) :
    List Repository → List Lookup → Nat → Prop where
  | nil : Tracks reporter network [] [] 0
  | cons {r : Repository} {l : Lookup} {k n : Nat} {repositories : List Repository}
      {lookups : List Lookup} : OnCourse reporter network r l k →
      Tracks reporter network repositories lookups n →
        Tracks reporter network (r :: repositories) (l :: lookups) (k + n)

theorem Tracks.begin
    (ends : ∀ r ∈ repositories, (reporter.report network [] r).result ≠ none) :
    Tracks reporter network repositories (reporter.start repositories).lookups
      (repositories.length * (2 * (reporter.client.options.maxRedirects.toNat + 1))) := by
  induction repositories with
  | nil => rw [List.length_nil, Nat.zero_mul]; exact .nil
  | cons r rest ih =>
    obtain ⟨first, others⟩ := List.forall_mem_cons.mp ends
    rw [List.length_cons, Nat.succ_mul, Nat.add_comm]
    exact .cons (.begin first) (ih others)

theorem Tracks.advance (steady : network.Steady)
    (tracks : Tracks reporter network repositories (before ++ l :: after) n)
    (goes :
      l.stage.next? reporter.client network history (reporter.url l.repository) = some stage) :
    ∃ m < n, Tracks reporter network repositories (before ++ { l with stage } :: after) m := by
  induction before generalizing repositories n with
  | nil =>
    cases tracks with
    | cons course rest =>
      obtain ⟨m, fewer, course⟩ := course.advance steady goes
      exact ⟨_, Nat.add_lt_add_right fewer _, .cons course rest⟩
  | cons first before ih =>
    cases tracks with
    | cons course rest =>
      obtain ⟨m, fewer, rest⟩ := ih rest
      exact ⟨_, Nat.add_lt_add_left fewer _, .cons course rest⟩

theorem Tracks.failed {e : ReleaseError}
    (tracks : Tracks reporter network repositories lookups n) (member : l ∈ lookups)
    (fails : l.result? = some (.error e)) :
    ∃ r ∈ repositories, reporter.Fails network r e := by
  induction tracks with
  | nil => cases member
  | cons course _ ih =>
    rcases List.mem_cons.mp member with rfl | later
    · exact ⟨_, List.mem_cons_self, (course.finished fails).1⟩
    · obtain ⟨r, there, failed⟩ := ih later
      exact ⟨r, List.mem_cons_of_mem _ there, failed⟩

theorem Tracks.complete (tracks : Tracks reporter network repositories lookups n)
    (complete : lookups.map Lookup.result? = lines.map fun line => some (.ok line)) :
    List.Forall₂ (reporter.Reports network) repositories lines ∧
      lookups.flatMap (·.stage.requests) =
        repositories.flatMap fun r => (reporter.report network [] r).requests := by
  induction tracks generalizing lines with
  | nil =>
    cases lines with
    | nil => exact ⟨.nil, rfl⟩
    | cons line lines => cases complete
  | cons course _ ih =>
    cases lines with
    | nil => cases complete
    | cons line lines =>
      obtain ⟨here, later⟩ := List.cons.inj complete
      obtain ⟨reported, asked⟩ := course.finished here
      obtain ⟨others, rest⟩ := ih later
      refine ⟨.cons reported others, ?_⟩
      rw [List.flatMap_cons, List.flatMap_cons, asked, rest]

theorem exists_lines (lined : ∀ l ∈ lookups, ∃ line, l.result? = some (.ok line)) :
    ∃ lines : List VersionLine,
      lookups.map Lookup.result? = lines.map fun line => some (.ok line) := by
  induction lookups with
  | nil => exact ⟨[], rfl⟩
  | cons l rest ih =>
    obtain ⟨⟨line, here⟩, others⟩ := List.forall_mem_cons.mp lined
    obtain ⟨lines, later⟩ := ih others
    exact ⟨line :: lines, by rw [List.map_cons, List.map_cons, here, later]⟩

theorem gives_of_finished {b : Batch} (finished : ∀ l ∈ b.lookups, l.result? ≠ none) :
    ∃ result, b.Gives result := by
  by_cases fails : ∃ l ∈ b.lookups, ∃ e, l.result? = some (.error e)
  · obtain ⟨l, member, e, failed⟩ := fails
    exact ⟨_, .failed member failed⟩
  · have lined : ∀ l ∈ b.lookups, ∃ line, l.result? = some (.ok line) := by
      intro l member
      cases given : l.result? with
      | none => exact absurd given (finished l member)
      | some result =>
        cases result with
        | error e => exact absurd ⟨l, member, e, given⟩ fails
        | ok line => exact ⟨line, rfl⟩
    obtain ⟨lines, complete⟩ := exists_lines lined
    exact ⟨_, .complete complete⟩

theorem gives_or_advances (reporter : Reporter) (network : Network) (b : Batch) :
    (∃ result, b.Gives result) ∨ ∃ b', Advances reporter network b b' := by
  by_cases finished : ∀ l ∈ b.lookups, l.result? ≠ none
  · exact Or.inl (gives_of_finished finished)
  · simp only [not_forall, not_not] at finished
    obtain ⟨l, member, unfinished⟩ := finished
    obtain ⟨lookups, history⟩ := b
    obtain ⟨before, after, rfl⟩ := List.append_of_mem member
    obtain ⟨stage, goes⟩ := Lookup.goes_on unfinished
    exact Or.inr ⟨_, .lookup goes⟩

section Order

variable {b : Batch} {e : ReleaseError} {front back : List Repository}

/-- Every step leaves fewer before the batch, and the requests are those of its lookups. -/
theorem Runs.kept (steady : network.Steady)
    (ends : ∀ r ∈ repositories, (reporter.report network [] r).result ≠ none)
    (run : Runs reporter network (reporter.start repositories) n b) :
    ∃ m, n + m ≤ repositories.length * (2 * (reporter.client.options.maxRedirects.toNat + 1)) ∧
      Tracks reporter network repositories b.lookups m ∧
      b.requests.Perm (b.lookups.flatMap (·.stage.requests)) := by
  induction run with
  | here =>
    refine ⟨_, Nat.le_of_eq (Nat.zero_add _), .begin ends, ?_⟩
    rw [start, List.flatMap_map]
    have silent : repositories.flatMap (fun r =>
        (Stage.ready (Client.begin (reporter.url r))).requests) = [] :=
      List.flatMap_eq_nil_iff.mpr fun _ _ => rfl
    rw [silent]
  | step _ advances ih =>
    obtain ⟨m, short, tracks, asked⟩ := ih
    cases advances with
    | @lookup before after l stage history goes =>
      obtain ⟨m', fewer, tracks⟩ := tracks.advance steady goes
      refine ⟨m', by omega, tracks, ?_⟩
      rw [List.flatMap_append, List.flatMap_cons] at asked ⊢
      dsimp only at asked ⊢
      rw [Stage.requests_next? goes, List.drop_left, List.append_assoc]
      refine (asked.append_right _).trans ?_
      rw [List.append_assoc, List.append_assoc]
      exact ((List.perm_append_comm.append_left _).append_left _)

/-- Every order in which the lookups of a batch go on comes to one result: it is never stuck, it
ends, and nothing else is given on the way. -/
structure Settles (reporter : Reporter) (network : Network) (repositories : List Repository)
    (result : Except ReleaseError (List VersionLine)) : Prop where
  bounded : ∀ n b, Runs reporter network (reporter.start repositories) n b →
    n ≤ repositories.length * (2 * (reporter.client.options.maxRedirects.toNat + 1))
  goes_on : ∀ n b, Runs reporter network (reporter.start repositories) n b →
    b.Gives result ∨ ∃ b', Advances reporter network b b'
  only : ∀ n b, Runs reporter network (reporter.start repositories) n b →
    ∀ other, b.Gives other → other = result

theorem Settles.of_unique {result : Except ReleaseError (List VersionLine)}
    (steady : network.Steady)
    (ends : ∀ r ∈ repositories, (reporter.report network [] r).result ≠ none)
    (only : ∀ n b, Runs reporter network (reporter.start repositories) n b →
      ∀ other, b.Gives other → other = result) :
    reporter.Settles network repositories result where
  bounded n b run := by
    obtain ⟨m, short, _⟩ := run.kept steady ends
    omega
  goes_on n b run := by
    rcases gives_or_advances reporter network b with ⟨other, given⟩ | goes
    · exact Or.inl (only n b run other given ▸ given)
    · exact Or.inr goes
  only := only

theorem ends_of_reports (reports : List.Forall₂ (reporter.Reports network) repositories lines) :
    ∀ r ∈ repositories, (reporter.report network [] r).result ≠ none := by
  intro r member
  obtain ⟨line, _, reported⟩ := exists_mem_of_forall₂ reports member
  exact reported.ends

theorem Runs.reports {result : Except ReleaseError (List VersionLine)} (steady : network.Steady)
    (reports : List.Forall₂ (reporter.Reports network) repositories lines)
    (run : Runs reporter network (reporter.start repositories) n b) (gives : b.Gives result) :
    result = .ok lines ∧
      b.requests.Perm (repositories.flatMap fun r => (reporter.report network [] r).requests) := by
  obtain ⟨m, _, tracks, asked⟩ := run.kept steady (ends_of_reports reports)
  cases gives with
  | failed member failed =>
    obtain ⟨r, there, fails⟩ := tracks.failed member failed
    obtain ⟨line, _, reported⟩ := exists_mem_of_forall₂ reports there
    cases fails.symm.trans reported
  | complete complete =>
    obtain ⟨reported, requests⟩ := tracks.complete complete
    rw [List.right_unique_forall₂' reports_unique reported reports, ← requests]
    exact ⟨rfl, asked⟩

theorem settles_of_reports (steady : network.Steady)
    (reports : List.Forall₂ (reporter.Reports network) repositories lines) :
    reporter.Settles network repositories (.ok lines) := by
  apply Settles.of_unique steady (ends_of_reports reports)
  intro n b run result gives
  exact (run.reports steady reports gives).1

/-- One lookup that fails fails the batch, whenever it does so. -/
theorem settles_of_fails (steady : network.Steady)
    (reports : ∀ r' ∈ front ++ back, ∃ line, reporter.Reports network r' line)
    (fails : reporter.Fails network r e) :
    reporter.Settles network (front ++ r :: back) (.error e) := by
  have known : ∀ r' ∈ front ++ r :: back,
      r' = r ∨ ∃ line, reporter.Reports network r' line := by
    intro r' member
    rcases List.mem_cons.mp (List.perm_middle.mem_iff.mp member) with same | other
    · exact Or.inl same
    · exact Or.inr (reports r' other)
  have ends : ∀ r' ∈ front ++ r :: back, (reporter.report network [] r').result ≠ none := by
    intro r' member
    rcases known r' member with rfl | ⟨line, reported⟩
    · exact fails.ends
    · exact reported.ends
  apply Settles.of_unique steady ends
  intro n b run result gives
  obtain ⟨m, _, tracks, _⟩ := run.kept steady ends
  cases gives with
  | failed member failed =>
    obtain ⟨r', there, fails'⟩ := tracks.failed member failed
    rcases known r' there with rfl | ⟨line, reported⟩
    · cases fails'.symm.trans fails
      rfl
    · cases fails'.symm.trans reported
  | complete complete =>
    obtain ⟨line, _, reported⟩ := exists_mem_of_forall₂ (tracks.complete complete).1
      (List.mem_append_right front List.mem_cons_self)
    cases fails.symm.trans reported

theorem reports_of_untagged {other : Network} {gone : Repository}
    (untagged : reporter.Reports other gone ⟨gone, none⟩)
    (alike : ∀ r ∈ repositories, r ≠ gone →
      (reporter.report other [] r).result = (reporter.report network [] r).result)
    (reports : List.Forall₂ (reporter.Reports network) repositories lines) :
    List.Forall₂ (reporter.Reports other) repositories
      (lines.map fun line => if line.repository = gone then ⟨gone, none⟩ else line) := by
  induction reports with
  | nil => exact .nil
  | @cons r line _ _ first _ ih =>
    obtain ⟨here, others⟩ := List.forall_mem_cons.mp alike
    refine .cons ?_ (ih others)
    dsimp only
    rw [report_ok first]
    split
    · subst r
      exact untagged
    · rename_i kept
      exact (here kept).trans first

/-- Whatever the order, a batch of lookups comes to what they come to one by one. -/
theorem reports_in_any_order (reporter : Reporter) (steady : network.Steady) :
    (∀ repositories lines, List.Forall₂ (reporter.Reports network) repositories lines →
      reporter.Settles network repositories (.ok lines) ∧
      (reporter.reportAll network [] repositories).result = some (.ok lines) ∧
      (∀ n b, Runs reporter network (reporter.start repositories) n b → b.Gives (.ok lines) →
        b.requests.Perm
          (repositories.flatMap fun r => (reporter.report network [] r).requests)) ∧
      ∀ other gone, other.Steady → reporter.Reports other gone ⟨gone, none⟩ →
        (∀ r ∈ repositories, r ≠ gone →
          (reporter.report other [] r).result = (reporter.report network [] r).result) →
        reporter.Settles other repositories (.ok (lines.map fun line =>
          if line.repository = gone then ⟨gone, none⟩ else line))) ∧
    ∀ front r back e, (∀ r' ∈ front ++ back, ∃ line, reporter.Reports network r' line) →
      reporter.Fails network r e →
      (∃ cause, e = .fetch r.text cause) ∧
      reporter.Settles network (front ++ r :: back) (.error e) ∧
      (reporter.reportAll network [] (front ++ r :: back)).result = some (.error e) := by
  refine ⟨fun repositories lines reports => ?_, fun front r back e reports fails => ?_⟩
  · refine ⟨settles_of_reports steady reports, reportAll_of_reports steady reports [],
      fun n b run gives => (run.reports steady reports gives).2, ?_⟩
    intro other gone steady' untagged alike
    exact settles_of_reports steady' (reports_of_untagged untagged alike reports)
  · exact ⟨report_error fails, settles_of_fails steady reports fails, reportAll_of_fails steady
      (fun r' member => reports r' (List.mem_append_left _ member)) fails []⟩

def shelf (moved : String) : List Script.Entry := [
  ⟨"http://api.test/repos/o/a/releases/latest", 302, [("Location", "/x")], [], none⟩,
  ⟨"http://api.test/x", 200, [], Utf8.encode moved, none⟩,
  ⟨"http://api.test/repos/o/b/releases/latest", 200, [], Utf8.encode "\x7b\x7d", none⟩,
  ⟨"http://api.test/repos/o/c/releases/latest", 200, [], Utf8.encode "[", none⟩]

def tagged : Network :=
  Script.network (shelf "\x7b\"tag_name\": \"v1\"\x7d")

def untagged : Network :=
  Script.network (shelf "\x7b\x7d")

def shelfReporter : Reporter :=
  ⟨⟨{}, []⟩, "http://api.test"⟩

theorem shelf_settles :
    shelfReporter.Settles tagged [⟨"o", "a"⟩, ⟨"o", "b"⟩, ⟨"o", "a"⟩]
      (.ok [⟨⟨"o", "a"⟩, some "v1"⟩, ⟨⟨"o", "b"⟩, none⟩, ⟨⟨"o", "a"⟩, some "v1"⟩]) ∧
    shelfReporter.Settles untagged [⟨"o", "a"⟩, ⟨"o", "b"⟩, ⟨"o", "a"⟩]
      (.ok [⟨⟨"o", "a"⟩, none⟩, ⟨⟨"o", "b"⟩, none⟩, ⟨⟨"o", "a"⟩, none⟩]) ∧
    shelfReporter.Settles tagged [⟨"o", "b"⟩, ⟨"o", "c"⟩, ⟨"o", "a"⟩]
      (.error (.fetch "o/c" (.decode "http://api.test/repos/o/c/releases/latest"
        "EOF while parsing a list at line 1 column 1"))) := by
  have steady : tagged.Steady := Script.network_steady (by decide +kernel)
  have steady' : untagged.Steady := Script.network_steady (by decide +kernel)
  have a : shelfReporter.Reports tagged ⟨"o", "a"⟩ ⟨⟨"o", "a"⟩, some "v1"⟩ := by
    unfold Reports
    decide +kernel
  have b : shelfReporter.Reports tagged ⟨"o", "b"⟩ ⟨⟨"o", "b"⟩, none⟩ := by
    unfold Reports
    decide +kernel
  have gone : shelfReporter.Reports untagged ⟨"o", "a"⟩ ⟨⟨"o", "a"⟩, none⟩ := by
    unfold Reports
    decide +kernel
  have others : ∀ r ∈ [Repository.mk "o" "b", ⟨"o", "a"⟩],
      ∃ line, shelfReporter.Reports tagged r line := by
    intro r member
    rcases List.mem_cons.mp member with rfl | later
    · exact ⟨_, b⟩
    · exact List.mem_singleton.mp later ▸ ⟨_, a⟩
  obtain ⟨lined, failed⟩ := reports_in_any_order shelfReporter steady
  obtain ⟨settles, _, _, blanks⟩ := lined _ _ (.cons a (.cons b (.cons a .nil)))
  refine ⟨settles, ?_, ?_⟩
  · refine blanks untagged ⟨"o", "a"⟩ steady' gone fun r member other => ?_
    have same : r = ⟨"o", "b"⟩ := by simpa [other] using member
    subst same
    decide +kernel
  · refine (failed [⟨"o", "b"⟩] ⟨"o", "c"⟩ [⟨"o", "a"⟩] _ others ?_).2.1
    unfold Fails
    decide +kernel

end Order

end Reporter

end OperatorKit
