import OperatorKit.Http.Credentials
import OperatorKit.Proofs.Http.Base64
import OperatorKit.Proofs.Text.Split
import OperatorKit.Proofs.Text.Utf8

/-!
The header of credentials and their text say the same. A token is split at its first colon and written
with that colon again, so the header does not show whether it was split; the text is read back from the
base64 digits, and credentials are made from it as they were before.
-/

namespace OperatorKit.Credentials

variable {v : String} {c : Credentials}

def textOfHeader? (header : String) : Option String := do
  guard ("Basic ".toList.isPrefixOf header.toList)
  Utf8.decode? (← Base64.decode? (header.toList.drop 6))

theorem text_of_ofToken (made : ofToken v = some c) : c.text = v := by
  unfold ofToken at made
  split at made
  · cases made
  · split at made
    · rename_i username password parts
      cases made
      obtain ⟨whole, _⟩ := Text.splitFirst_eq_some_iff.mp parts
      rw [text, ← String.toList_inj]
      simp [whole]
    · cases made
      rfl

theorem ofToken_isSome (filled : v ≠ "") : ∃ c, ofToken v = some c := by
  have present : ¬ v.isEmpty = true := by simpa using filled
  rw [ofToken, if_neg present]
  split
  · exact ⟨_, rfl⟩
  · exact ⟨_, rfl⟩

theorem header_eq_headerOf (same : c.text = v) : c.header = headerOf (Utf8.encode v) := by
  rw [header, same]

theorem textOfHeader?_header (c : Credentials) : textOfHeader? c.header = some c.text := by
  have written : c.header.toList = "Basic ".toList ++ Base64.encode (Utf8.encode c.text) := by
    rw [header, headerOf, String.toList_append]
    exact congrArg _ String.toList_ofList
  have digits : c.header.toList.drop 6 = Base64.encode (Utf8.encode c.text) := by
    rw [written]
    exact List.drop_left' rfl
  have begins : "Basic ".toList.isPrefixOf c.header.toList = true := by
    rw [List.isPrefixOf_iff_prefix, written]
    exact List.prefix_append _ _
  rw [textOfHeader?, digits, begins, Base64.decode?_encode]
  exact Utf8.decode?_encode c.text

theorem header_inj {d : Credentials} : c.header = d.header ↔ c.text = d.text := by
  constructor
  · intro same
    have read := textOfHeader?_header c
    rw [same, textOfHeader?_header] at read
    exact (Option.some.inj read).symm
  · exact fun same => header_eq_headerOf same

/-- A token that is not empty makes credentials. Their header holds the bytes of the token in base64,
as it would for the token unsplit and for every user and password that the token can be split into. The
token is read back from the header and makes the same credentials; another token has another header. -/
theorem header_of_token (filled : v ≠ "") :
    ∃ c, ofToken v = some c ∧
      c.header = "Basic " ++ String.ofList (Base64.encode (Utf8.encode v)) ∧
      (token v).header = c.header ∧
      (∀ username password, v = username ++ ":" ++ password →
        (basic username password).header = c.header) ∧
      textOfHeader? c.header = some v ∧ (textOfHeader? c.header).bind ofToken = some c ∧
      ∀ w d, ofToken w = some d → w ≠ v → d.header ≠ c.header := by
  obtain ⟨c, made⟩ := ofToken_isSome filled
  have same := text_of_ofToken made
  have read : textOfHeader? c.header = some v := (textOfHeader?_header c).trans (congrArg some same)
  refine ⟨c, made, header_eq_headerOf same, header_inj.mpr same.symm, fun username password parts => ?_,
    read, ?_, fun w d other apart equal => ?_⟩
  · exact header_inj.mpr (parts.symm.trans same.symm)
  · rw [read]
    exact made
  · have texts := header_inj.mp equal
    rw [text_of_ofToken other, same] at texts
    exact apart texts

theorem header_of_split_token : "é:pass:word" ≠ "" ∧
    ofToken "é:pass:word" = some (basic "é" "pass:word") ∧
    textOfHeader? (basic "é" "pass:word").header = some "é:pass:word" ∧
    (basic "é:pass" "word").header = (basic "é" "pass:word").header ∧
    (basic "é" "pass:wor").header ≠ (basic "é" "pass:word").header := by
  have filled : "é:pass:word" ≠ "" := by decide
  have made : ofToken "é:pass:word" = some (basic "é" "pass:word") := by decide +kernel
  have other : ofToken "é:pass:wor" = some (basic "é" "pass:wor") := by decide +kernel
  obtain ⟨c, made', _, _, split, read, _, apart⟩ := header_of_token filled
  cases made.symm.trans made'
  exact ⟨filled, made, read, split "é:pass" "word" (by decide), apart _ _ other (by decide)⟩

end OperatorKit.Credentials
