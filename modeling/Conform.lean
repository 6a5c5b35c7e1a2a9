import Conform.Files.Disk
import Conform.Main
import Conform.Number.Parse
import Conform.Proofs.Command.Run
import Conform.Proofs.Descriptor.Expectations
import Conform.Proofs.Entries
import Conform.Proofs.Evaluation.Agreement
import Conform.Proofs.Evaluation.Culprit
import Conform.Proofs.Evaluation.Depth
import Conform.Proofs.Evaluation.EqualValues
import Conform.Proofs.Evaluation.Faults
import Conform.Proofs.Evaluation.FirstFailure
import Conform.Proofs.Evaluation.Judgement
import Conform.Proofs.Evaluation.Limit
import Conform.Proofs.Evaluation.Location
import Conform.Proofs.Evaluation.Meaning
import Conform.Proofs.Evaluation.OpenObjects
import Conform.Proofs.Evaluation.Reentry
import Conform.Proofs.Evaluation.SideBySide
import Conform.Proofs.Evaluation.Spelling
import Conform.Proofs.Evaluation.Steps
import Conform.Proofs.Evaluation.SymbolIdentity
import Conform.Proofs.Evaluation.Transparency
import Conform.Proofs.Files.Expansion
import Conform.Proofs.Fixture.Check
import Conform.Proofs.Json.Documents
import Conform.Proofs.Json.Printed
import Conform.Proofs.Json.Selection
import Conform.Proofs.Narrowing
import Conform.Proofs.Number.Denoted
import Conform.Proofs.Number.Magnitudes
import Conform.Proofs.Number.Rounding
import Conform.Proofs.Number.Shortest
import Conform.Proofs.Number.Text
import Conform.Proofs.Numeral
import Conform.Proofs.Path
import Conform.Proofs.Renaming
import Conform.Proofs.RenderOptions.Decoding
import Conform.Proofs.RenderOptions.Formats
import Conform.Proofs.RenderOptions.Independence
import Conform.Proofs.RenderOptions.Language
import Conform.Proofs.RenderOptions.Layers
import Conform.Proofs.RenderOptions.Merging
import Conform.Proofs.RenderOptions.Options
import Conform.Proofs.RenderOptions.RoundTrip
import Conform.Proofs.Value.Equality
import Conform.Proofs.Value.Lookup
import Conform.Proofs.Value.PartialEquivalence
import Conform.Proofs.Value.Received
import Conform.Proofs.View
import Conform.Value.Equality
