import OperatorKit.Json.Decoder
import OperatorKit.Release.Repository

/-! The latest release of a repository, and the line it is reported in. -/

namespace OperatorKit

structure Release where
  tag : Option String
deriving DecidableEq, Repr

open Json.Decoder in
/-- A release need not have a tag. -/
def Release.decoder : Json.Decoder Release :=
  record {
    title := "struct Release"
    titleWithSize := "struct Release with 1 element"
    fields := [field "tag_name" true (optional string) id fun _ v => some v]
    blank := none
    finish := fun tag => .ok ⟨tag.join⟩ }

structure VersionLine where
  repository : Repository
  tag : Option String
deriving DecidableEq, Repr

/-- An assignment, whose value is empty if there is no tag. -/
def VersionLine.text (line : VersionLine) : String :=
  line.repository.versionVariable ++ "=" ++ line.tag.getD ""

end OperatorKit
