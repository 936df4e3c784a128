import OperatorKit.Proofs.Http.Redirects
import OperatorKit.Proofs.Release.Concurrency

/-!
The orders in which the lookups of a batch go on, over any network. What the network answers may
depend on the order, but no order is stuck, each comes to an end below the largest limit, and a
lookup fails in few ways. One lookup after the other is one of the orders.
-/

namespace OperatorKit

/-- The code a command exits with if a lookup fails so. There are no other ways for it to fail. -/
def FetchError.lookupCode? : FetchError → Option Nat
  | network _ | timeout _ | tooManyRedirects _ _ | missingLocation _ => some 5
  | decode _ _ | invalidUrl _ _ => some 1
  | status _ _ | clientBuild _ => none

namespace Client

def Foreseen (result : Except FetchError Page) : Prop :=
  ∀ cause, result = .error cause → cause.lookupCode? ≠ none

theorem foreseen_ok (page : Page) : Foreseen (.ok page) := by
  intro cause impossible
  cases impossible

theorem foreseen_error {cause : FetchError} (known : cause.lookupCode? ≠ none) :
    Foreseen (.error cause) := by
  rintro _ ⟨⟩
  exact known

/-- What a step comes to: one redirect more, which the limit allows, or an end. -/
inductive Step.Follows (limit redirects : UInt32) : Step → Prop where
  | next {s : Fetching} : s.redirects = redirects + 1 → ¬ limit < redirects + 1 →
      Follows limit redirects (.next s)
  | done {s : Fetching} {result : Except FetchError Page} : Foreseen result →
      Follows limit redirects (.done s result)

theorem follows_receive (client : Client) (start : String) (s : Fetching) (base : Url)
    (response : Response) (complete : Bool) :
    (client.receive start s base response complete).Follows client.options.maxRedirects
      s.redirects := by
  unfold receive
  split
  · dsimp only
    split
    · exact .done (foreseen_error (Option.some_ne_none _))
    · rename_i room
      split
      · exact .done (foreseen_error (Option.some_ne_none _))
      · split
        · exact .done (foreseen_error (Option.some_ne_none _))
        · exact .next rfl room
  · split
    · exact .done (foreseen_ok _)
    · exact .done (foreseen_error (Option.some_ne_none _))

theorem follows_step (client : Client) (network : Network) (past : List Request) (start : String)
    (s : Fetching) :
    (client.step network past start s).Follows client.options.maxRedirects s.redirects := by
  unfold step
  dsimp only
  cases client.outgoing start s.current with
  | error reason => exact .done (foreseen_error (Option.some_ne_none _))
  | ok out =>
    have received := follows_receive client start
      { s with
        requests := s.requests ++ [out.request]
        warnings := s.warnings ++ client.warnings start s.current } out.base
    dsimp only
    split
    · exact .done (foreseen_error (Option.some_ne_none _))
    · exact .done (foreseen_error (Option.some_ne_none _))
    · exact .done (foreseen_error (Option.some_ne_none _))
    · exact received _ true
    · exact received _ false

end Client

namespace Stage

variable {client : Client} {network : Network} {history : List Request} {start : String}
  {stage stage' : Stage}

def Proper (client : Client) : Stage → Prop
  | ready s => s.redirects ≤ client.options.maxRedirects
  | waiting (.next s) => s.redirects ≤ client.options.maxRedirects
  | waiting (.done _ result) => Client.Foreseen result
  | ended _ result => Client.Foreseen result

/-- How many steps are left for a lookup at most. A redirect is two of them. -/
def ahead (client : Client) : Stage → Nat
  | ready s => 2 * (client.options.maxRedirects.toNat - s.redirects.toNat) + 2
  | waiting (.next s) => 2 * (client.options.maxRedirects.toNat - s.redirects.toNat) + 3
  | waiting (.done _ _) => 1
  | ended _ _ => 0

theorem Proper.advance (proper : stage.Proper client)
    (goes : stage.next? client network history start = some stage') :
    stage'.Proper client ∧
      (client.options.maxRedirects.toNat < UInt32.size - 1 →
        stage'.ahead client < stage.ahead client) := by
  cases stage with
  | ready s =>
    cases goes
    have follows := client.follows_step (network.after history) [] start s
    generalize client.step (network.after history) [] start s = outcome at follows ⊢
    cases follows with
    | @next s' one room =>
      have allowed : s'.redirects ≤ client.options.maxRedirects := one ▸ UInt32.not_lt.mp room
      refine ⟨allowed, ?_⟩
      intro bounded
      have few : s.redirects.toNat ≤ client.options.maxRedirects.toNat :=
        UInt32.le_iff_toNat_le.mp proper
      have fewer : s'.redirects.toNat ≤ client.options.maxRedirects.toNat :=
        UInt32.le_iff_toNat_le.mp allowed
      have counted : s'.redirects.toNat = s.redirects.toNat + 1 := by
        have size : UInt32.size = 4294967296 := rfl
        rw [one, UInt32.toNat_add, UInt32.toNat_one]
        omega
      rw [ahead, ahead]
      omega
    | done foreseen => exact ⟨foreseen, fun _ => Nat.lt_add_left _ Nat.one_lt_two⟩
  | waiting outcome =>
    cases outcome with
    | next s =>
      cases goes
      exact ⟨proper, fun _ => Nat.lt_succ_self _⟩
    | done s result =>
      cases goes
      exact ⟨proper, fun _ => Nat.one_pos⟩
  | ended s result => cases goes

theorem next?_ready (client : Client) (network : Network) (past : List Request) (start : String)
    (s : Client.Fetching) : (ready s).next? client network (past ++ (ready s).requests) start =
      some (.waiting (client.step network past start s)) := by
  have alike : client.step (network.after (past ++ (ready s).requests)) [] start s =
      client.step network past start s := Client.step_congr fun _ => rfl
  rw [next?, alike]

end Stage

theorem Reporter.tagOf_foreseen {r : Repository} {result : Except FetchError Page}
    {e : ReleaseError} (foreseen : Client.Foreseen result)
    (failed : tagOf r result = .error e) :
    ∃ cause, e = .fetch r.text cause ∧ cause.lookupCode? ≠ none := by
  cases result with
  | error cause =>
    cases failed
    exact ⟨cause, rfl, foreseen cause rfl⟩
  | ok page =>
    unfold tagOf at failed
    dsimp only at failed
    split at failed
    · rename_i cause unread
      cases failed
      unfold Page.decode at unread
      cases read : Release.decoder.parseBytes page.body with
      | error e =>
        rw [read] at unread
        cases unread
        exact ⟨_, rfl, Option.some_ne_none _⟩
      | ok _ =>
        rw [read] at unread
        cases unread
    · cases failed

namespace Lookup

variable {client : Client} {l : Lookup} {line : VersionLine} {e : ReleaseError}

theorem result?_eq_some_iff {given : Except ReleaseError VersionLine} :
    l.result? = some given ↔ ∃ s result, l.stage = .ended s result ∧
      (Reporter.tagOf l.repository result).map (fun tag => ⟨l.repository, tag⟩) = given := by
  obtain ⟨r, stage⟩ := l
  cases stage with
  | ready _ | waiting _ =>
    constructor
    · intro impossible
      cases impossible
    · rintro ⟨_, _, impossible, _⟩
      cases impossible
  | ended s result =>
    constructor
    · intro same
      exact ⟨s, result, rfl, Option.some.inj same⟩
    · rintro ⟨_, _, ⟨⟩, same⟩
      exact congrArg some same

theorem result?_ok (given : l.result? = some (.ok line)) : line.repository = l.repository := by
  obtain ⟨s, result, _, tagged⟩ := result?_eq_some_iff.mp given
  obtain ⟨tag, _, rfl⟩ := ok_of_map tagged
  rfl

theorem result?_error (proper : l.stage.Proper client) (failed : l.result? = some (.error e)) :
    ∃ cause, e = .fetch l.repository.text cause ∧ cause.lookupCode? ≠ none := by
  obtain ⟨s, result, ended, untagged⟩ := result?_eq_some_iff.mp failed
  have foreseen : Client.Foreseen result := by
    rw [ended] at proper
    exact proper
  exact Reporter.tagOf_foreseen foreseen (error_of_map untagged)

theorem repositories_eq {lookups : List Lookup} {lines : List VersionLine}
    (complete : lookups.map result? = lines.map fun line => some (.ok line)) :
    lines.map VersionLine.repository = lookups.map Lookup.repository := by
  induction lookups generalizing lines with
  | nil =>
    cases List.map_eq_nil_iff.mp complete.symm
    rfl
  | cons l rest ih =>
    cases lines with
    | nil => cases complete
    | cons line lines =>
      obtain ⟨here, later⟩ := List.cons.inj complete
      rw [List.map_cons, List.map_cons, result?_ok here, ih later]

end Lookup

theorem Batch.Gives.cons {l : Lookup} {line : VersionLine} {lookups : List Lookup}
    {history : List Request} {result : Except ReleaseError (List VersionLine)}
    (gives : Batch.Gives ⟨lookups, history⟩ result) (here : l.result? = some (.ok line)) :
    Batch.Gives ⟨l :: lookups, history⟩ (result.map fun lines => line :: lines) := by
  cases gives with
  | failed member failed => exact .failed (List.mem_cons_of_mem _ member) failed
  | complete complete =>
    apply Gives.complete
    rw [List.map_cons, List.map_cons, here, complete]

namespace Reporter

variable {reporter : Reporter} {network : Network} {repositories : List Repository}
  {b b' b'' : Batch} {n m : Nat} {result : Except ReleaseError (List VersionLine)}
  {r : Repository} {past : List Request}

structure Keeps (reporter : Reporter) (repositories : List Repository) (b : Batch) : Prop where
  named : b.lookups.map Lookup.repository = repositories
  proper : ∀ l ∈ b.lookups, l.stage.Proper reporter.client

def ahead (reporter : Reporter) : List Lookup → Nat
  | [] => 0
  | l :: rest => l.stage.ahead reporter.client + ahead reporter rest

theorem ahead_append (reporter : Reporter) (before after : List Lookup) :
    reporter.ahead (before ++ after) = reporter.ahead before + reporter.ahead after := by
  induction before with
  | nil => exact (Nat.zero_add _).symm
  | cons l rest ih => rw [List.cons_append, ahead, ahead, ih, Nat.add_assoc]

theorem Keeps.advance (keeps : Keeps reporter repositories b)
    (advances : Advances reporter network b b') :
    Keeps reporter repositories b' ∧
      (reporter.client.options.maxRedirects.toNat < UInt32.size - 1 →
        reporter.ahead b'.lookups < reporter.ahead b.lookups) := by
  cases advances with
  | @lookup before after l stage history goes =>
    obtain ⟨named, proper⟩ := keeps
    obtain ⟨here, fewer⟩ :=
      (proper l (List.mem_append_right _ List.mem_cons_self)).advance goes
    have named' : (before ++ { l with stage } :: after).map Lookup.repository = repositories := by
      rw [← named, List.map_append, List.map_append]
      rfl
    have proper' : ∀ l' ∈ before ++ { l with stage } :: after, l'.stage.Proper reporter.client := by
      intro l' member
      rcases List.mem_append.mp member with left | right
      · exact proper l' (List.mem_append_left _ left)
      · rcases List.mem_cons.mp right with rfl | right
        · exact here
        · exact proper l' (List.mem_append_right _ (List.mem_cons_of_mem _ right))
    refine ⟨⟨named', proper'⟩, ?_⟩
    intro bounded
    have fewer := fewer bounded
    simp only [ahead_append, ahead]
    omega

theorem keeps_start (reporter : Reporter) (repositories : List Repository) :
    Keeps reporter repositories (reporter.start repositories) where
  named := by
    rw [start, List.map_map]
    exact List.map_id _
  proper l member := by
    obtain ⟨r, _, rfl⟩ := List.mem_map.mp member
    exact UInt32.zero_le

theorem ahead_start (reporter : Reporter) (repositories : List Repository) :
    reporter.ahead (reporter.start repositories).lookups =
      repositories.length * (2 * (reporter.client.options.maxRedirects.toNat + 1)) := by
  induction repositories with
  | nil => exact (Nat.zero_mul _).symm
  | cons r rest ih =>
    have others : reporter.ahead (reporter.start (r :: rest)).lookups =
        2 * (reporter.client.options.maxRedirects.toNat + 1) +
          reporter.ahead (reporter.start rest).lookups := rfl
    rw [others, ih, List.length_cons]
    exact (Nat.add_comm _ _).trans (Nat.succ_mul _ _).symm

theorem Runs.keeps (run : Runs reporter network (reporter.start repositories) n b) :
    Keeps reporter repositories b ∧
      (reporter.client.options.maxRedirects.toNat < UInt32.size - 1 →
        n + reporter.ahead b.lookups ≤
          repositories.length * (2 * (reporter.client.options.maxRedirects.toNat + 1))) := by
  induction run with
  | here =>
    refine ⟨keeps_start reporter repositories, ?_⟩
    intro _
    have whole := ahead_start reporter repositories
    exact Nat.le_of_eq ((Nat.zero_add _).trans whole)
  | step _ advances ih =>
    obtain ⟨keeps, short⟩ := ih
    obtain ⟨kept, fewer⟩ := keeps.advance advances
    refine ⟨kept, ?_⟩
    intro bounded
    have short := short bounded
    have fewer := fewer bounded
    omega

section OneByOne

theorem Runs.trans (run : Runs reporter network b n b') (more : Runs reporter network b' m b'') :
    Runs reporter network b (n + m) b'' := by
  induction more with
  | here => exact run
  | step _ advances ih => exact .step ih advances

theorem advances_of_next? {stage stage' : Stage} (before after : List Lookup)
    (goes : stage.next? reporter.client network (past ++ stage.requests) (reporter.url r) =
      some stage') :
    Advances reporter network ⟨before ++ ⟨r, stage⟩ :: after, past ++ stage.requests⟩
      ⟨before ++ ⟨r, stage'⟩ :: after, past ++ stage'.requests⟩ := by
  have arrived := Stage.requests_next? goes
  have advances : Advances reporter network
      ⟨before ++ ⟨r, stage⟩ :: after, past ++ stage.requests⟩ _ := .lookup goes
  rw [List.append_assoc, ← arrived] at advances
  exact advances

/-- One lookup goes on to the end of its fetch while the others stand still. -/
theorem exists_runs_of_run {s final : Client.Fetching} {result : Except FetchError Page}
    (ended : reporter.client.run network past (reporter.url r) n s = ⟨final, some result⟩)
    (before after : List Lookup) :
    ∃ m, Runs reporter network ⟨before ++ ⟨r, .ready s⟩ :: after, past ++ s.requests⟩ m
      ⟨before ++ ⟨r, .ended final result⟩ :: after, past ++ final.requests⟩ := by
  induction n generalizing s with
  | zero => cases ended
  | succ n ih =>
    have first := advances_of_next? before after
      (Stage.next?_ready reporter.client network past (reporter.url r) s)
    rw [Client.run] at ended
    cases step : reporter.client.step network past (reporter.url r) s with
    | done s' result' =>
      rw [step] at ended first
      cases ended
      exact ⟨2, .step (.step .here first) (advances_of_next? before after rfl)⟩
    | next s' =>
      rw [step] at ended first
      obtain ⟨m, rest⟩ := ih ended
      have second : Advances reporter network
          ⟨before ++ ⟨r, .waiting (.next s')⟩ :: after, past ++ s'.requests⟩
          ⟨before ++ ⟨r, .ready s'⟩ :: after, past ++ s'.requests⟩ :=
        advances_of_next? before after rfl
      exact ⟨_, (Runs.step (.step .here first) second).trans rest⟩

theorem exists_runs_of_report {result : Except ReleaseError VersionLine}
    (given : (reporter.report network past r).result = some result) (before after : List Lookup) :
    ∃ m l, Runs reporter network
        ⟨before ++ ⟨r, .ready (Client.begin (reporter.url r))⟩ :: after, past⟩ m
        ⟨before ++ l :: after, past ++ (reporter.report network past r).requests⟩ ∧
      l.result? = some result := by
  obtain ⟨fetched, ended, same⟩ := Option.map_eq_some_iff.mp given
  cases whole : reporter.client.get network past (reporter.url r) with
  | mk final outcome =>
    rw [whole] at ended
    cases ended
    obtain ⟨m, run⟩ := exists_runs_of_run whole before after
    have silent : (Client.begin (reporter.url r)).requests = [] := rfl
    rw [silent, List.append_nil] at run
    refine ⟨m, ⟨r, .ended final fetched⟩, ?_, congrArg some same⟩
    rw [report, whole]
    exact run

/-- A report of one repository after the other is an order. The lookups after one that fails have
not begun. -/
theorem exists_runs_of_reportAll
    (given : (reporter.reportAll network past repositories).result = some result)
    (before : List Lookup) :
    ∃ m lookups, Runs reporter network
        ⟨before ++ (reporter.start repositories).lookups, past⟩ m
        ⟨before ++ lookups, past ++ (reporter.reportAll network past repositories).requests⟩ ∧
      ∀ history, Batch.Gives ⟨lookups, history⟩ result := by
  induction repositories generalizing past result before with
  | nil =>
    cases given
    have nothing : past ++ (reporter.reportAll network past []).requests = past := List.append_nil _
    rw [nothing]
    exact ⟨0, [], .here, fun _ => .complete rfl⟩
  | cons r rest ih =>
    rw [reportAll] at given ⊢
    dsimp only at given ⊢
    cases first : (reporter.report network past r).result with
    | none =>
      rw [first] at given
      cases given
    | some outcome =>
      obtain ⟨m, l, run, here⟩ :=
        exists_runs_of_report first before (reporter.start rest).lookups
      cases outcome with
      | error e =>
        rw [first] at given
        cases given
        exact ⟨m, _, run, fun _ => .failed List.mem_cons_self here⟩
      | ok line =>
        rw [first] at given
        obtain ⟨later, others, same⟩ := Option.map_eq_some_iff.mp given
        obtain ⟨m', lookups, more, gives⟩ := ih others (before ++ [l])
        rw [List.append_assoc, List.append_assoc, List.append_assoc] at more
        refine ⟨m + m', l :: lookups, run.trans more, ?_⟩
        intro history
        rw [← same]
        exact (gives history).cons here

theorem exists_endless_of_reportAll
    (endless : (reporter.reportAll network past repositories).result = none) :
    ∃ front r back lines, repositories = front ++ r :: back ∧
      (reporter.reportAll network past front).result = some (.ok lines) ∧
      (reporter.report network (past ++ (reporter.reportAll network past front).requests) r).result =
        none := by
  induction repositories generalizing past with
  | nil => cases endless
  | cons r rest ih =>
    rw [reportAll] at endless
    dsimp only at endless
    split at endless
    · rename_i first
      refine ⟨[], r, rest, [], rfl, rfl, ?_⟩
      rw [reportAll, List.append_nil]
      exact first
    · cases endless
    · rename_i line first
      obtain ⟨front, r', back, lines, rfl, reported, later⟩ := ih (Option.map_eq_none_iff.mp endless)
      refine ⟨r :: front, r', back, line :: lines, rfl, ?_, ?_⟩
      · rw [reportAll, first]
        dsimp only
        rw [reported]
        rfl
      · rw [reportAll, first]
        dsimp only
        rw [← List.append_assoc]
        exact later

theorem report_ends (bounded : reporter.client.options.maxRedirects.toNat < UInt32.size - 1)
    (network : Network) (past : List Request) (r : Repository) :
    (reporter.report network past r).result ≠ none := by
  obtain ⟨_, _, _, _, _, _, _, _, same⟩ :=
    Client.get_ends reporter.client network past (reporter.url r) bounded
  rw [report, same]
  exact Option.some_ne_none _

end OneByOne

end Reporter

end OperatorKit
