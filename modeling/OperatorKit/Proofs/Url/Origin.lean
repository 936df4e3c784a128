import OperatorKit.Proofs.Http.Independence
import OperatorKit.Proofs.Url.Authority

/-!
URLs of one origin are written alike up to their paths, apart from a user that may be named.
-/

namespace OperatorKit

namespace Url

structure IsOrigin (url : Url) : Prop where
  hosted : schemeKind url.scheme = .hosted
  anonymous : ¬ url.HasUserinfo
  path : url.path = .segments [""]
  query : url.query = none
  fragment : url.fragment = none

theorem port_ne {scheme : String} {text rest : List Char} {found : Option Nat}
    (read : port scheme text = .ok (found, rest)) {n : Nat} (own : schemePort? scheme = some n) :
    found ≠ some n := by
  unfold port at read
  split at read
  · simp only at read
    split at read
    · cases read
      unfold port.chosen
      split
      · intro same
        cases same
      · rename_i other
        intro same
        exact other (Or.inr (own.trans same.symm))
    · cases read
  · cases read
    intro same
    cases same

variable {first second : String} {a b : Url}

theorem authority_of_parse (read : parse first = .ok a) (kind : schemeKind a.scheme = .hosted)
    (anonymous : ¬ a.HasUserinfo) :
    ∃ host port, a.authority = some ⟨"", "", some host, port⟩ ∧ port ≠ schemePort? a.scheme := by
  obtain ⟨_, _, _, _, found⟩ := heading_of_parse read kind
  obtain ⟨_, ⟨host, named⟩, ported⟩ := hostAndPort_hosted kind found
  have known : ∃ n, schemePort? a.scheme = some n := by
    unfold schemeKind at kind
    split at kind
    · rename_i known
      exact Option.isSome_iff_exists.mp known
    · split at kind <;> cases kind
  obtain ⟨n, own⟩ := known
  have apart := port_ne ported own
  cases there : a.authority with
  | none =>
    rw [host?, there] at named
    cases named
  | some authority =>
    rw [there] at apart
    rw [host?, there] at named
    have plain : authority.username = "" ∧ authority.password = "" :=
      Decidable.byContradiction fun filled => anonymous ⟨authority, there, filled⟩
    obtain ⟨username, password, host', port⟩ := authority
    obtain ⟨rfl, rfl⟩ := plain
    cases named
    exact ⟨host, port, rfl, own ▸ apart⟩

theorem authority_eq_of_origin (read : parse first = .ok a) (read' : parse second = .ok b)
    (kind : schemeKind a.scheme = .hosted) (plain : ¬ a.HasUserinfo) (plain' : ¬ b.HasUserinfo)
    (same : a.origin = b.origin) :
    ∃ authority, a.authority = some authority ∧ b.authority = some authority := by
  rw [origin, origin, Prod.mk.injEq, Prod.mk.injEq] at same
  obtain ⟨scheme, host, port⟩ := same
  obtain ⟨hostA, portA, there, apart⟩ := authority_of_parse read kind plain
  obtain ⟨hostB, portB, there', apart'⟩ := authority_of_parse read' (scheme ▸ kind) plain'
  rw [host?, host?, there, there'] at host
  rw [port?, port?, there, there', ← scheme] at port
  rw [← scheme] at apart'
  cases host
  have same : portA = portB := by
    cases portA <;> cases portB <;> simp_all
  exact ⟨_, there, same ▸ there'⟩

theorem text_of_authority {authority : Authority} (there : a.authority = some authority) :
    ∃ tail, a.text = a.scheme ++ ":" ++ authority.text ++ (a.path.text ++ tail) := by
  simp only [text, there, String.append_assoc]
  exact ⟨_, rfl⟩

theorem text_of_isOrigin {authority : Authority} (isOrigin : a.IsOrigin)
    (there : a.authority = some authority) :
    a.text = a.scheme ++ ":" ++ authority.text ++ "/" := by
  have path : (UrlPath.segments [""]).text = "/" := by decide
  simp only [text, there, isOrigin.path, isOrigin.query, isOrigin.fragment, path,
    String.append_empty, String.append_assoc]

/-- What stands before the slash of an origin stands at the beginning of every URL of it. -/
theorem begins_of_isOrigin {start : String} (read : parse first = .ok a)
    (read' : parse second = .ok b) (isOrigin : a.IsOrigin) (anonymous : ¬ b.HasUserinfo)
    (same : a.origin = b.origin) (typed : start ++ "/" = a.text) :
    start.toList <+: b.text.toList := by
  obtain ⟨authority, there, there'⟩ :=
    authority_eq_of_origin read read' isOrigin.hosted isOrigin.anonymous anonymous same
  obtain ⟨tail, longer⟩ := text_of_authority there'
  have scheme : a.scheme = b.scheme := congrArg Prod.fst same
  have whole : start = b.scheme ++ ":" ++ authority.text := by
    rw [text_of_isOrigin isOrigin there, scheme] at typed
    have letters := congrArg String.toList typed
    rw [String.toList_append, String.toList_append, List.append_cancel_right_eq] at letters
    exact String.toList_inj.mp letters
  rw [longer, whole]
  exact ⟨(b.path.text ++ tail).toList, String.toList_append.symm⟩

end Url

end OperatorKit
