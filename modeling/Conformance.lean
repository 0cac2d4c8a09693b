import Conformance.Config.Node
import Conformance.Config.Reader
import Conformance.Json.Reader
import Conformance.Proofs.Cache.Atomicity
import Conformance.Proofs.Cache.Frame
import Conformance.Proofs.Cache.Revisions
import Conformance.Proofs.Cache.Survival
import Conformance.Proofs.Cache.Transparency
import Conformance.Proofs.Compilation.Limit
import Conformance.Proofs.Compilation.Listing
import Conformance.Proofs.Compilation.Padding
import Conformance.Proofs.Conversion.Distinct
import Conformance.Proofs.Conversion.Idempotence
import Conformance.Proofs.Conversion.Preservation
import Conformance.Proofs.Dialect.Agreement
import Conformance.Proofs.Inlining.Equivalence
import Conformance.Proofs.Json.RoundTrip
import Conformance.Proofs.Number.Clamping
import Conformance.Proofs.Number.Multiples
import Conformance.Proofs.Order.Invariance
import Conformance.Proofs.Registry.Cloning
import Conformance.Proofs.Registry.Coherence
import Conformance.Proofs.Registry.Ownership
import Conformance.Proofs.Relaxation.Leniency
import Conformance.Proofs.Relaxation.Partial
import Conformance.Proofs.Report.Applicability
import Conformance.Proofs.Satisfaction.Document
import Conformance.Proofs.Text.Spelling
import Conformance.Proofs.Value.Coercion
import Conformance.Proofs.Value.Encoding
