import Memberwise.Datum.Body
import Memberwise.Machine.Eval
import Memberwise.Source.Member
import Memberwise.Proofs.Machine.Depth
import Memberwise.Proofs.Equality.Laws
import Memberwise.Proofs.Equality.Consistency
import Memberwise.Proofs.Building.Storage
import Memberwise.Proofs.Engine.History
import Memberwise.Proofs.Readiness.Reports
import Memberwise.Proofs.Engine.Agreement
import Memberwise.Proofs.Machine.Polynomial
import Memberwise.Proofs.Equality.Flattening
import Memberwise.Proofs.Equality.Guard
import Memberwise.Proofs.Evaluation.Unread
import Memberwise.Proofs.Evaluation.Reflexivity
import Memberwise.Proofs.Engine.Independence
import Memberwise.Proofs.Datum.RoundTrip
import Memberwise.Proofs.Building.Effects
import Memberwise.Proofs.Building.Repetition
import Memberwise.Proofs.Readiness.Building
import Memberwise.Proofs.Readiness.Equality
import Memberwise.Proofs.Printing.Text
import Memberwise.Proofs.Readiness.Conventional
import Memberwise.Proofs.Machine.Registration
import Memberwise.Proofs.Model.Primary
import Memberwise.Proofs.Equality.Operands
import Memberwise.Proofs.Engine.Requests
import Memberwise.Proofs.Readiness.Strictness
import Memberwise.Proofs.Engine.Relocation
import Memberwise.Proofs.Body.MemberText
import Memberwise.Proofs.Source.Concatenation
import Memberwise.Proofs.Source.Module
import Memberwise.Proofs.Body.WellFormed
import Memberwise.Proofs.Machine.Hash
import Memberwise.Proofs.Evaluation.Form
