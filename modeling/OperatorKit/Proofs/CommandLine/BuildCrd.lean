import OperatorKit.Proofs.Crd.Composition
import OperatorKit.Proofs.Crd.Rendering
import OperatorKit.Proofs.Http.Redirects
import OperatorKit.Proofs.Storage.Writing

/-!
Generating the definitions from the command line. A run that does not come to a whole list prints
nothing and leaves the files as they are, and the code it exits with says where it stopped.
-/

namespace OperatorKit

namespace Source

variable {source : Source} {client : Client} {network : Network} {files : Files}

theorem load_error {e : CrdError}
    (failed : (source.load client network files).result = some (.error e)) :
    ∃ reason, e = .sourceUnavailable source.location reason := by
  have named {ε α : Type} {result : Except ε α} {reason : ε → CrdError}
      (failed : result.mapError reason = .error e) : ∃ cause, e = reason cause := by
    cases result with
    | error cause =>
      cases failed
      exact ⟨cause, rfl⟩
    | ok _ => cases failed
  cases source with
  | remote url =>
    obtain ⟨result, _, same⟩ := Option.map_eq_some_iff.mp failed
    obtain ⟨cause, rfl⟩ := named same
    exact ⟨_, rfl⟩
  | file path =>
    obtain ⟨cause, rfl⟩ := named (Option.some.inj failed)
    exact ⟨_, rfl⟩

theorem requests_load (location : String) (client : Client) (network : Network) (files : Files) :
    ((ofLocation location).load client network files).requests =
      if isRemote location then (client.get network [] location).state.requests else [] := by
  unfold ofLocation
  split <;> rfl

theorem load_ends (location : String) (client : Client) (network : Network) (files : Files)
    (bounded : isRemote location = true → client.options.maxRedirects.toNat < UInt32.size - 1) :
    ((ofLocation location).load client network files).result ≠ none := by
  unfold ofLocation
  split
  · rename_i remote
    obtain ⟨_, _, _, _, _, _, _, _, same⟩ :=
      Client.get_ends client network [] location (bounded remote)
    rw [load, same]
    exact Option.some_ne_none _
  · exact Option.some_ne_none _

end Source

theorem Manifest.exitCode_generate {document : Json} {limit : Nat} {e : CrdError}
    (failed : generate document limit = .error e) : (Failure.ofCrd e).exitCode = 4 := by
  obtain ⟨_, _, _, _, _, unbuilt⟩ := generate_error_iff.mp failed
  have named := ResourceKind.specSchema_error (ResourceKind.definition_error_iff.mp unbuilt)
  cases e with
  | shapeMismatch _ _ _ | schema _ _ => rfl
  | sourceUnavailable _ _ | serialization _ => cases named

namespace World

variable {world : World} {loaded : Except CrdError Json} {output : Option String}
  {format : OutputFormat} {maxDepth : Nat} {o : Outcome}

structure Untouched (world : World) (o : Outcome) : Prop where
  silent : o.output = ""
  files : o.files = world.files

def Comes (loaded : Except CrdError Json) (format : OutputFormat) (maxDepth : Nat) (text : String) :
    Prop :=
  ∃ document list, loaded = .ok document ∧ Manifest.generate document maxDepth = .ok list ∧
    Manifest.EndsOnce list format text

/-- How a run ends that has loaded a document or has failed to. -/
inductive Builds (world : World) (loaded : Except CrdError Json) (output : Option String)
    (format : OutputFormat) (maxDepth : Nat) (o : Outcome) : Prop where
  | unloaded {e : CrdError} : loaded = .error e → o.exitCode = 3 → world.Untouched o →
      Builds world loaded output format maxDepth o
  | ungenerated {document : Json} {e : CrdError} : loaded = .ok document →
      Manifest.generate document maxDepth = .error e → o.exitCode = 4 → world.Untouched o →
        Builds world loaded output format maxDepth o
  | printed {text : String} : Comes loaded format maxDepth text → output = none → o.exitCode = 0 →
      o.output = text → o.files = world.files → Builds world loaded output format maxDepth o
  | written {text path : String} : Comes loaded format maxDepth text → output = some path →
      o.exitCode = 0 → o.output = "" → world.files.Replaced path (Utf8.encode text) o.files →
        Builds world loaded output format maxDepth o
  | unwritten {text path : String} {e : FileError} : Comes loaded format maxDepth text →
      output = some path → world.files.write path (Utf8.encode text) = .error e →
      o.exitCode = 1 → world.Untouched o → Builds world loaded output format maxDepth o

theorem builds_deliver {text : String} (comes : Comes loaded format maxDepth text)
    (requests : List Request) (output : Option String) :
    Builds world loaded output format maxDepth (world.deliver requests text output) := by
  cases output with
  | none => exact .printed comes rfl rfl rfl rfl
  | some path =>
    rw [deliver]
    cases written : world.files.write path (Utf8.encode text) with
    | ok files => exact .written comes rfl rfl rfl (Files.write_ok written)
    | error e => exact .unwritten comes rfl written rfl ⟨rfl, rfl⟩

def conclude (world : World) (requests : List Request) (output : Option String)
    (format : OutputFormat) (maxDepth : Nat) (loaded : Except CrdError Json) : Outcome :=
  match loaded.bind fun document => Manifest.generate document maxDepth with
  | .error e => .failed (.ofCrd e) requests world.files
  | .ok list => world.deliver requests (withLineEnd (Manifest.render list format)) output

theorem buildCrd_eq (world : World) (source : String) (output : Option String)
    (format : OutputFormat) (maxDepth : Nat) (limit : UInt32) :
    let loading := (Source.ofLocation source).load ⟨{ maxRedirects := limit }, []⟩ world.network
      world.files
    world.buildCrd source output format maxDepth { maxRedirects := limit } =
      loading.result.map (world.conclude loading.requests output format maxDepth) := by
  have sendable : isHeaderValue "adviser/0.1.0" = true := by decide +kernel
  have built : Client.build { maxRedirects := limit } [] = .ok ⟨{ maxRedirects := limit }, []⟩ :=
    if_pos sendable
  unfold buildCrd
  rw [built]
  rfl

theorem requests_conclude (requests : List Request) (output : Option String)
    (format : OutputFormat) (maxDepth : Nat) (loaded : Except CrdError Json) :
    (world.conclude requests output format maxDepth loaded).requests = requests := by
  unfold conclude
  split
  · rfl
  · unfold deliver
    cases output with
    | none => rfl
    | some path =>
      dsimp only
      split <;> rfl

theorem builds_conclude (requests : List Request) (output : Option String) (format : OutputFormat)
    (maxDepth : Nat)
    (unavailable : ∀ e, loaded = .error e →
      ∃ location reason, e = .sourceUnavailable location reason) :
    Builds world loaded output format maxDepth
      (world.conclude requests output format maxDepth loaded) := by
  unfold conclude
  cases loaded with
  | error e =>
    obtain ⟨_, _, rfl⟩ := unavailable e rfl
    exact .unloaded rfl rfl ⟨rfl, rfl⟩
  | ok document =>
    rw [Except.bind]
    cases generated : Manifest.generate document maxDepth with
    | error e => exact .ungenerated rfl generated (Manifest.exitCode_generate generated) ⟨rfl, rfl⟩
    | ok list =>
      obtain ⟨same, _⟩ := Manifest.generate_ok_iff.mp generated
      have ends := Manifest.endsOnce_withLineEnd list.items format
      rw [← same] at ends
      exact builds_deliver ⟨document, list, rfl, generated, ends⟩ requests output

/-- A run makes the requests of one fetch or, for a file, none. It ends if the fetch does, in one of
five ways: it stops before there is a document or before there is a list, or it prints the list,
writes it, or cannot write it. -/
theorem buildCrd_builds (world : World) (source : String) (output : Option String)
    (format : OutputFormat) (maxDepth : Nat) (limit : UInt32) :
    let client : Client := ⟨{ maxRedirects := limit }, []⟩
    let loading := (Source.ofLocation source).load client world.network world.files
    let run := world.buildCrd source output format maxDepth { maxRedirects := limit }
    (run = none ↔ loading.result = none) ∧
    ((Source.isRemote source = true → limit.toNat < UInt32.size - 1) → run ≠ none) ∧
    ∀ o, run = some o →
      o.requests = (if Source.isRemote source then
        (client.get world.network [] source).state.requests else []) ∧
      ∃ loaded, loading.result = some loaded ∧ Builds world loaded output format maxDepth o := by
  intro client loading run
  have concluded : run =
      loading.result.map (world.conclude loading.requests output format maxDepth) :=
    buildCrd_eq world source output format maxDepth limit
  have ends : run = none ↔ loading.result = none := by
    rw [concluded]
    exact Option.map_eq_none_iff
  refine ⟨ends, fun bounded => ?_, fun o done => ?_⟩
  · rw [Ne, ends]
    exact Source.load_ends source client world.network world.files bounded
  · rw [concluded] at done
    obtain ⟨loaded, loads, rfl⟩ := Option.map_eq_some_iff.mp done
    refine ⟨?_, loaded, loads, builds_conclude _ _ _ _ fun e failed => ?_⟩
    · rw [requests_conclude]
      exact Source.requests_load source client world.network world.files
    · subst failed
      obtain ⟨reason, same⟩ := Source.load_error loads
      exact ⟨_, reason, same⟩

def desk : World :=
  ⟨[], ⟨[], [(["api.json"],
    .file ((smallDocument.chars .line 0).map fun c => UInt8.ofNat c.toNat))]⟩, .unreachable⟩

theorem desk_builds :
    (∃ o, desk.buildCrd "api.json" (some "crds.yaml") .yaml 9 { maxRedirects := 5 } = some o ∧
      o.exitCode = 0 ∧ o.requests = [] ∧ o.output = "" ∧
      ∃ text, desk.files.Replaced "crds.yaml" (Utf8.encode text) o.files) ∧
    ∃ o, desk.buildCrd "http://api.test/" none .json 9 { maxRedirects := 5 } = some o ∧
      o.exitCode = 3 ∧ desk.Untouched o := by
  constructor
  · obtain ⟨_, ends, finishes⟩ := buildCrd_builds desk "api.json" (some "crds.yaml") .yaml 9 5
    have isFile : ¬ Source.isRemote "api.json" = true := by decide +kernel
    obtain ⟨o, done⟩ := Option.ne_none_iff_exists'.mp (ends fun remote => absurd remote isFile)
    obtain ⟨requests, loaded, _, builds⟩ := finishes o done
    rw [if_neg isFile] at requests
    have code : (desk.buildCrd "api.json" (some "crds.yaml") .yaml 9 { maxRedirects := 5 }).map
        Outcome.exitCode = some 0 := by decide +kernel
    rw [done] at code
    cases builds with
    | unloaded _ stops _ | ungenerated _ _ stops _ | unwritten _ _ _ stops _ =>
      cases stops.symm.trans (Option.some.inj code)
    | printed _ toOutput _ _ _ => cases toOutput
    | written _ named succeeds silent replaced =>
      cases named
      exact ⟨o, done, succeeds, requests, silent, _, replaced⟩
  · obtain ⟨_, ends, finishes⟩ := buildCrd_builds desk "http://api.test/" none .json 9 5
    have bounded : (5 : UInt32).toNat < UInt32.size - 1 := by decide
    obtain ⟨o, done⟩ := Option.ne_none_iff_exists'.mp (ends fun _ => bounded)
    obtain ⟨_, loaded, _, builds⟩ := finishes o done
    have code : (desk.buildCrd "http://api.test/" none .json 9 { maxRedirects := 5 }).map
        Outcome.exitCode = some 3 := by decide +kernel
    rw [done] at code
    cases builds with
    | unloaded _ stops untouched => exact ⟨o, done, stops, untouched⟩
    | ungenerated _ _ stops _ | printed _ _ stops _ _ | written _ _ stops _ _
    | unwritten _ _ _ stops _ => cases stops.symm.trans (Option.some.inj code)

end World

end OperatorKit
