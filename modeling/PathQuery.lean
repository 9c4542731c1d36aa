import PathQuery.Main
import PathQuery.Query.Printer
import PathQuery.Value.Comparison
import PathQuery.Proofs.Query.Safety
import PathQuery.Proofs.Canonical.Limits
import PathQuery.Proofs.Node.Location
import PathQuery.Proofs.Number.Scanned
import PathQuery.Proofs.Token.Place
import PathQuery.Proofs.Query.Course
import PathQuery.Proofs.Query.Refusal
import PathQuery.Proofs.Token.Tiling
import PathQuery.Proofs.Node.Path
import PathQuery.Proofs.Node.Inverted
import PathQuery.Proofs.Node.Misread
import PathQuery.Proofs.Node.Relocation
import PathQuery.Proofs.Node.Findable
import PathQuery.Proofs.Query.Composition
import PathQuery.Proofs.Query.Binding
import PathQuery.Proofs.Query.Blame
import PathQuery.Proofs.Canonical.Identity
import PathQuery.Proofs.Query.Calls
import PathQuery.Proofs.Query.Height
import PathQuery.Proofs.Query.Spacing
import PathQuery.Proofs.Query.Rewriting
import PathQuery.Proofs.Value.Equality
import PathQuery.Proofs.Query.Equality
import PathQuery.Proofs.Node.Apart
import PathQuery.Proofs.Cli.Lines
import PathQuery.Proofs.Node.Unambiguous
import PathQuery.Proofs.Query.Multiplicity
import PathQuery.Proofs.Query.Slicing
import PathQuery.Proofs.Text.Decoding
import PathQuery.Proofs.Value.Variation
import PathQuery.Proofs.Function.Characters
import PathQuery.Proofs.Query.Comparing
import PathQuery.Proofs.Query.Order
import PathQuery.Proofs.Query.Indexing
import PathQuery.Proofs.Function.Containers
import PathQuery.Proofs.Value.Conversion
import PathQuery.Proofs.Token.Steps
import PathQuery.Proofs.Token.Balance
