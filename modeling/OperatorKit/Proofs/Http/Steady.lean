import OperatorKit.Http.Client
import OperatorKit.Http.Script

/-!
Networks that answer a request alike whatever they were asked before. A fetch over one of them does
not depend on the requests of others.
-/

namespace OperatorKit

/-- What the network does with a request depends on no request before it. -/
def Network.Steady (network : Network) : Prop :=
  ∀ past others request, network.exchange past request = network.exchange others request

/-- A script that has one entry at most for a URL answers it alike each time. -/
theorem Script.network_steady {script : List Entry} (once : (script.map Entry.url).Nodup) :
    (Script.network script).Steady := by
  have single (url : String) : script.filter (·.url = url) = [] ∨
      ∃ e, script.filter (·.url = url) = [e] := by
    induction script with
    | nil => exact Or.inl rfl
    | cons e rest ih =>
      obtain ⟨new, others⟩ := List.nodup_cons.mp once
      by_cases here : e.url = url
      · have none : rest.filter (·.url = url) = [] := by
          rw [List.filter_eq_nil_iff]
          intro e' member same
          have again : e'.url = e.url := (of_decide_eq_true same).trans here.symm
          exact new (again ▸ List.mem_map_of_mem member)
        exact Or.inr ⟨e, by rw [List.filter_cons, none, decide_eq_true here, if_pos rfl]⟩
      · rw [List.filter_cons, decide_eq_false here, if_neg Bool.false_ne_true]
        exact ih others
  intro past others request
  simp only [network]
  rcases single request.url with none | ⟨e, one⟩
  · rw [none]
    rfl
  · rw [one]
    have last (asked : Nat) : ([e] : List Entry)[asked]?.or [e].getLast? = some e := by
      cases asked <;> rfl
    rw [last, last]

namespace Client

variable {client : Client} {network other : Network} {past others : List Request} {start : String}
  {s : Fetching}

theorem step_congr (same : ∀ request,
    network.exchange (past ++ s.requests) request = other.exchange (others ++ s.requests) request) :
    client.step network past start s = client.step other others start s := by
  unfold step
  dsimp only
  cases client.outgoing start s.current with
  | error reason => rfl
  | ok out => simp only [same]

theorem step_steady (steady : network.Steady) (past others : List Request) :
    client.step network past start s = client.step network others start s :=
  step_congr fun _ => steady _ _ _

theorem run_steady (steady : network.Steady) (past others : List Request) (n : Nat) :
    client.run network past start n s = client.run network others start n s := by
  induction n generalizing s with
  | zero => rfl
  | succ n ih =>
    rw [run, run, step_steady steady past others]
    cases client.step network others start s with
    | done s result => rfl
    | next s => exact ih

end Client

end OperatorKit
