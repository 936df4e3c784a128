import OperatorKit.Storage.Files

/-!
What a written file leaves behind. The path that was written leads to the same place afterwards, as
no directory on the way to it is touched, and all that is at other places stays.
-/

namespace OperatorKit.Files

variable {files after : Files} {place other start found : List String} {node : Node} {path : String}
  {content : List UInt8}

theorem node?_put_self (free : files.node? place ≠ some .directory) :
    (files.put place node).node? place = some node := by
  unfold node? at free ⊢
  split at free
  · exact absurd rfl free
  · rename_i outside
    rw [put, if_neg outside, List.lookup_cons_self]

theorem node?_put_of_ne (apart : other ≠ place) :
    (files.put place node).node? other = files.node? other := by
  have kept : (files.nodes.filter (·.1 ≠ place)).lookup other = files.nodes.lookup other := by
    induction files.nodes with
    | nil => rfl
    | cons entry rest ih =>
      obtain ⟨key, value⟩ := entry
      by_cases replaced : key = place
      · have missed : (other == key) = false := beq_false_of_ne (replaced ▸ apart)
        rw [List.filter_cons_of_neg (by simpa using replaced), ih, List.lookup_cons, missed]
      · rw [List.filter_cons_of_pos (by simpa using replaced), List.lookup_cons, List.lookup_cons,
          ih]
  unfold node? put
  rw [List.lookup_cons, beq_false_of_ne apart, kept]

/-- A walk passes directories only, so that it does not notice what is put in place of a file. -/
theorem walk_put (free : files.node? place ≠ some .directory) {names : List String}
    (walked : files.walk start names = .ok found) :
    (files.put place node).walk start names = .ok found := by
  induction names generalizing start with
  | nil => exact walked
  | cons name rest ih =>
    unfold walk at walked ⊢
    cases here : files.node? start with
    | none =>
      rw [here] at walked
      cases walked
    | some entry =>
      rw [here] at walked
      cases entry with
      | file _ => cases walked
      | directory =>
        have apart : start ≠ place := fun same => free (same ▸ here)
        rw [node?_put_of_ne apart, here]
        dsimp only at walked ⊢
        by_cases stays : name = "."
        · rw [if_pos stays] at walked ⊢
          exact ih walked
        rw [if_neg stays] at walked ⊢
        by_cases up : name = ".."
        · rw [if_pos up] at walked ⊢
          exact ih walked
        rw [if_neg up] at walked ⊢
        by_cases long : 255 < name.utf8ByteSize
        · rw [if_pos long] at walked
          cases walked
        rw [if_neg long] at walked ⊢
        exact ih walked

theorem place_put (free : files.node? place ≠ some .directory)
    (leads : files.place path = .ok found) : (files.put place node).place path = .ok found := by
  unfold Files.place at leads ⊢
  split at leads
  · cases leads
  rename_i proper
  rw [if_neg proper]
  split at leads
  · cases leads
  rename_i named
  rw [if_neg named]
  split at leads
  · cases leads
  rename_i short
  rw [if_neg short]
  exact walk_put free leads

/-- One file is new or has new content, which is all of it, and everything else is as before. -/
structure Replaced (files : Files) (path : String) (content : List UInt8) (after : Files) :
    Prop where
  holds : after.read path = .ok content
  working : after.working = files.working
  others : ∃ place, files.place path = .ok place ∧
    ∀ other, other ≠ place → after.node? other = files.node? other

theorem write_ok (written : files.write path content = .ok after) :
    files.Replaced path content after := by
  unfold write at written
  cases leads : files.place path with
  | error e =>
    rw [leads] at written
    cases written
  | ok place =>
    rw [leads] at written
    dsimp only at written
    split at written
    · cases written
    · rename_i free
      cases written
      refine ⟨?_, rfl, place, leads, fun other apart => node?_put_of_ne apart⟩
      rw [read, place_put free leads]
      dsimp only
      rw [node?_put_self free]

end OperatorKit.Files
