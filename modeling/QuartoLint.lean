import QuartoLint.FileSystem.Tree
import QuartoLint.Main
import QuartoLint.Output.Record
import QuartoLint.Output.Sink
import QuartoLint.Proofs.Document.NormalForm
import QuartoLint.Proofs.Scan.Sections
import QuartoLint.Proofs.Batch.OneFile
import QuartoLint.Proofs.Scan.Composition
import QuartoLint.Proofs.Batch.Interleaving
import QuartoLint.Proofs.Report.Status
import QuartoLint.Proofs.Run.Outcome
import QuartoLint.Proofs.Run.Consulted
import QuartoLint.Proofs.Json.RoundTrip
import QuartoLint.Proofs.Output.Lossless
import QuartoLint.Proofs.Config.Applied
import QuartoLint.Proofs.Output.Delivery
import QuartoLint.Proofs.Document.Layout
import QuartoLint.Proofs.Scan.Containers
import QuartoLint.Proofs.Output.Distinct
import QuartoLint.Proofs.Scan.Shape
import QuartoLint.Proofs.Scan.Insertion
import QuartoLint.Proofs.Document.Continuation
import QuartoLint.Proofs.Scan.Runs
import QuartoLint.Proofs.Report.Severity
import QuartoLint.Proofs.Toml.Keys
import QuartoLint.Proofs.Config.Entries
