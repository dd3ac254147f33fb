import ErrorCatalog.Outline
import ErrorCatalog.Catalog.Names
import ErrorCatalog.Catalog.Registration
import ErrorCatalog.Catalog.Transform
import ErrorCatalog.Rules.Reader
import ErrorCatalog.Template.Part
import ErrorCatalog.Value.Reader
import ErrorCatalog.ValueParser.Operation
import ErrorCatalog.Proofs.Catalog.Item
import ErrorCatalog.Proofs.Transform.FirstMatch
import ErrorCatalog.Proofs.Catalog.Operation
import ErrorCatalog.Proofs.Case.Compile
import ErrorCatalog.Proofs.Catalog.Built
import ErrorCatalog.Proofs.Catalog.Event
import ErrorCatalog.Proofs.Catalog.WellFormed
import ErrorCatalog.Proofs.Catalog.Journal
import ErrorCatalog.Proofs.Transform.Agreement
import ErrorCatalog.Proofs.Catalog.RegistrationOrder
import ErrorCatalog.Proofs.Catalog.Refusal
import ErrorCatalog.Proofs.Case.Interpretation
import ErrorCatalog.Proofs.Transform.Outcome
import ErrorCatalog.Proofs.Fields
import ErrorCatalog.Proofs.Transform.Flags
import ErrorCatalog.Proofs.Transform.Isolation
import ErrorCatalog.Proofs.Transform.Extension
import ErrorCatalog.Proofs.Transform.Equivalence
import ErrorCatalog.Proofs.Catalog.Loading
import ErrorCatalog.Proofs.Condition.Participants
import ErrorCatalog.Proofs.Pattern.Escape
import ErrorCatalog.Proofs.Condition.Literal
import ErrorCatalog.Proofs.Case.Parameters
import ErrorCatalog.Proofs.Case.References
import ErrorCatalog.Proofs.Case.Failure
import ErrorCatalog.Proofs.ValueParser.Chain
import ErrorCatalog.Proofs.Case.Deferred
import ErrorCatalog.Proofs.Transform.Context
import ErrorCatalog.Proofs.Catalog.Renewal
import ErrorCatalog.Proofs.Case.Acceptance
import ErrorCatalog.Proofs.Transform.Fallback
import ErrorCatalog.Proofs.Transform.Input
