import OperatorKit.Main
import OperatorKit.Proofs.CommandLine.BuildCrd
import OperatorKit.Proofs.CommandLine.QueryVersions
import OperatorKit.Proofs.Crd.Agreement
import OperatorKit.Proofs.Crd.ObjectList
import OperatorKit.Proofs.Crd.Required
import OperatorKit.Proofs.Crd.Seeding
import OperatorKit.Proofs.Crd.Slot
import OperatorKit.Proofs.Http.Additions
import OperatorKit.Proofs.Http.Counter
import OperatorKit.Proofs.Http.Header
import OperatorKit.Proofs.Http.Reach
import OperatorKit.Proofs.Json.Reading
import OperatorKit.Proofs.Release.Credentials
import OperatorKit.Proofs.Release.Lookup
import OperatorKit.Proofs.Release.Variable
import OperatorKit.Proofs.Schema.Inlining
import OperatorKit.Proofs.Schema.KeyOrder
import OperatorKit.Proofs.Schema.Limit
import OperatorKit.Proofs.Schema.Reasons
import OperatorKit.Proofs.Schema.Stack
