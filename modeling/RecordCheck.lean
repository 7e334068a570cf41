import RecordCheck.Builder
import RecordCheck.Validator
import RecordCheck.Value.Equality
import RecordCheck.Value.Store
import RecordCheck.Log.Session
import RecordCheck.Proofs.Pipeline.Meaning
import RecordCheck.Proofs.Builder.Canonical
import RecordCheck.Proofs.Builder.CallOrder
import RecordCheck.Proofs.Builder.Acceptance
import RecordCheck.Proofs.Builder.Greedy
import RecordCheck.Proofs.Validator.FieldResults
import RecordCheck.Proofs.Validator.Records
import RecordCheck.Proofs.Validator.Registration
import RecordCheck.Proofs.Log.ServiceName
import RecordCheck.Proofs.Builder.Fixpoint
import RecordCheck.Proofs.Validator.Trace
import RecordCheck.Proofs.Text.Flat
import RecordCheck.Proofs.Validator.Lines
import RecordCheck.Proofs.Json.Members
import RecordCheck.Proofs.Number.Nearest
import RecordCheck.Proofs.Value.Json
import RecordCheck.Proofs.Number.Order
import RecordCheck.Proofs.Number.Shortest
import RecordCheck.Proofs.Number.Rendering
import RecordCheck.Proofs.Number.DigitLength
import RecordCheck.Proofs.Number.Places
import RecordCheck.Proofs.Number.IntegerDigits
import RecordCheck.Proofs.Value.Equality
import RecordCheck.Proofs.Value.History
import RecordCheck.Proofs.Value.Congruence
import RecordCheck.Proofs.Pipeline.History
import RecordCheck.Proofs.Number.Bounds
import RecordCheck.Proofs.Log.Installation
import RecordCheck.Proofs.Log.Automatic
