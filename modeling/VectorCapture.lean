import VectorCapture.Bytes.Hex
import VectorCapture.Campaign
import VectorCapture.Cli.Demo
import VectorCapture.Cli.Options
import VectorCapture.Cli.Program
import VectorCapture.Cli.Similarity
import VectorCapture.Config
import VectorCapture.Coverage
import VectorCapture.Decimal.Shortest
import VectorCapture.Disk
import VectorCapture.Main
import VectorCapture.Record
import VectorCapture.Run.Context
import VectorCapture.Run.Script
import VectorCapture.Run.Value
import VectorCapture.Settings
import VectorCapture.Source.Basic
import VectorCapture.Source.Chacha
import VectorCapture.Store
import VectorCapture.Target.Program
import VectorCapture.TestVector
import VectorCapture.Text.Blank
import VectorCapture.Text.Lines
import VectorCapture.Text.Printable
import VectorCapture.Text.Quoted
import VectorCapture.Text.Ranges
import VectorCapture.Toml.Cursor
import VectorCapture.Toml.Document
import VectorCapture.Toml.Error
import VectorCapture.Toml.Number
import VectorCapture.Toml.Parse
import VectorCapture.Toml.Strings
import VectorCapture.Toml.Value
import VectorCapture.Proofs.Requests
import VectorCapture.Proofs.VectorText
import VectorCapture.Proofs.StoreRoundTrip
import VectorCapture.Proofs.CaptureReplay
import VectorCapture.Proofs.Accounting
import VectorCapture.Proofs.CampaignPhases
import VectorCapture.Proofs.CoverageLaw
import VectorCapture.Proofs.Acceptance
import VectorCapture.Proofs.VectorGrammar
import VectorCapture.Proofs.StoreFiles
import VectorCapture.Proofs.PersistedRuns
import VectorCapture.Proofs.RequestContract
import VectorCapture.Proofs.Staging
import VectorCapture.Proofs.Listing
import VectorCapture.Proofs.Checkpoint
import VectorCapture.Proofs.TypedValues
