import OperatorKit.Release.Reporter

/-!
Lookups side by side, over one network. One of them at a time goes on, by making its next request or
by taking up the answer to its last one, and which one does is left open. A batch fails with a
lookup that has failed, and is complete when each of them has a line.
-/

namespace OperatorKit

/-- A network as it answers after a history, whoever asks. -/
def Network.after (network : Network) (history : List Request) : Network where
  exchange _ request := network.exchange history request

def Client.Step.state : Client.Step → Client.Fetching
  | next s => s
  | done s _ => s

/-- Where a lookup stands: before a request, before the answer to one is taken up, or at its end. -/
inductive Stage where
  | ready (state : Client.Fetching)
  | waiting (outcome : Client.Step)
  | ended (state : Client.Fetching) (result : Except FetchError Page)

namespace Stage

/-- The requests that have arrived. -/
def requests : Stage → List Request
  | ready s => s.requests
  | waiting outcome => outcome.state.requests
  | ended s _ => s.requests

/-- How a lookup goes on that began at a URL. The network answers a request when it arrives, after
all that it was asked before. -/
def next? (client : Client) (network : Network) (history : List Request) (start : String) :
    Stage → Option Stage
  | ready s => some (waiting (client.step (network.after history) [] start s))
  | waiting (.next s) => some (ready s)
  | waiting (.done s result) => some (ended s result)
  | ended _ _ => none

end Stage

structure Lookup where
  repository : Repository
  stage : Stage

/-- What has come of a lookup in the end. -/
def Lookup.result? (l : Lookup) : Option (Except ReleaseError VersionLine) :=
  match l.stage with
  | .ended _ result =>
    some ((Reporter.tagOf l.repository result).map fun tag => ⟨l.repository, tag⟩)
  | _ => none

structure Batch where
  lookups : List Lookup
  /-- All requests, in the order in which they arrived. -/
  requests : List Request

namespace Batch

/-- What a batch gives as it stands. -/
inductive Gives (b : Batch) : Except ReleaseError (List VersionLine) → Prop where
  | failed {l : Lookup} {e : ReleaseError} :
      l ∈ b.lookups → l.result? = some (.error e) → Gives b (.error e)
  | complete {lines : List VersionLine} :
      b.lookups.map Lookup.result? = lines.map (fun line => some (.ok line)) → Gives b (.ok lines)

end Batch

namespace Reporter

def start (reporter : Reporter) (repositories : List Repository) : Batch :=
  ⟨repositories.map fun r => ⟨r, .ready (Client.begin (reporter.url r))⟩, []⟩

/-- One lookup of a batch goes on, and what it asks for is asked after all the rest. -/
inductive Advances (reporter : Reporter) (network : Network) : Batch → Batch → Prop where
  | lookup {before after : List Lookup} {l : Lookup} {stage : Stage} {history : List Request} :
      l.stage.next? reporter.client network history (reporter.url l.repository) = some stage →
        Advances reporter network ⟨before ++ l :: after, history⟩
          ⟨before ++ { l with stage } :: after,
            history ++ stage.requests.drop l.stage.requests.length⟩

/-- A number of steps, each of any lookup that can go on. -/
inductive Runs (reporter : Reporter) (network : Network) (b : Batch) : Nat → Batch → Prop where
  | here : Runs reporter network b 0 b
  | step {n : Nat} {b' b'' : Batch} :
      Runs reporter network b n b' → Advances reporter network b' b'' →
        Runs reporter network b (n + 1) b''

end Reporter

end OperatorKit
