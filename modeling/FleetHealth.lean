import FleetHealth.Backend
import FleetHealth.Check
import FleetHealth.Command.Arguments
import FleetHealth.Command.Files
import FleetHealth.Command.Run
import FleetHealth.Docker.Backend
import FleetHealth.Docker.Inspect
import FleetHealth.Docker.Program
import FleetHealth.Json.Document
import FleetHealth.Json.Number
import FleetHealth.Json.Value
import FleetHealth.Main
import FleetHealth.Number.Binary64
import FleetHealth.Number.Shortest
import FleetHealth.Outcome
import FleetHealth.Pattern.Automaton
import FleetHealth.Pattern.Brackets
import FleetHealth.Pattern.Classes
import FleetHealth.Pattern.Compile
import FleetHealth.Pattern.Fault
import FleetHealth.Pattern.Meaning
import FleetHealth.Pattern.Parse
import FleetHealth.Pattern.Scan
import FleetHealth.Pattern.Search
import FleetHealth.Pattern.Size
import FleetHealth.Pattern.Term
import FleetHealth.Pattern.Written
import FleetHealth.Pool.Moves
import FleetHealth.Pool.Schedule
import FleetHealth.Proofs.Gate
import FleetHealth.Proofs.Health
import FleetHealth.Proofs.Pool.Inventory
import FleetHealth.Proofs.Pool.Order
import FleetHealth.Proofs.Pool.Placements
import FleetHealth.Proofs.Pool.Progress
import FleetHealth.Proofs.Pool.Safety
import FleetHealth.Proofs.Pool.Sound
import FleetHealth.Proofs.Runs
import FleetHealth.Proofs.Signature.Silence
import FleetHealth.Registry
import FleetHealth.Report
import FleetHealth.Settings.Basic
import FleetHealth.Settings.Decode
import FleetHealth.Settings.Load
import FleetHealth.Shape
import FleetHealth.Signature.Cover
import FleetHealth.Signature.Detector
import FleetHealth.Signature.Matcher
import FleetHealth.Text.Basic
import FleetHealth.Text.Blank
import FleetHealth.Text.Duration
import FleetHealth.Text.Lines
import FleetHealth.Text.Quoted
import FleetHealth.Text.Substring
import FleetHealth.Text.Utf8
import FleetHealth.Toml.Document
import FleetHealth.Toml.Position
import FleetHealth.Toml.Scan
import FleetHealth.Toml.Value
import FleetHealth.Unicode.Age
import FleetHealth.Unicode.Category
import FleetHealth.Unicode.CharSet
import FleetHealth.Unicode.Folding
import FleetHealth.Unicode.Property
import FleetHealth.Unicode.Runs
import FleetHealth.Unicode.Script
import FleetHealth.Unicode.ScriptExtension
import FleetHealth.Unicode.Segmentation
import FleetHealth.Verifier
import FleetHealth.Proofs.Pool.Agreement
import FleetHealth.Proofs.Containment
import FleetHealth.Proofs.Independence
import FleetHealth.Proofs.Reordering
import FleetHealth.Proofs.Pattern.Escape
import FleetHealth.Proofs.Text.Replacement
import FleetHealth.Proofs.ContainerName
import FleetHealth.Proofs.Signature.Cover
import FleetHealth.Proofs.Signature.ByLine
import FleetHealth.Proofs.Cutoff
import FleetHealth.Proofs.Evidence
import FleetHealth.Proofs.RunLength
import FleetHealth.Proofs.Command
import FleetHealth.Proofs.Pool.Makespan
import FleetHealth.Proofs.Concurrency
import FleetHealth.Proofs.Trace
import FleetHealth.Proofs.Docker.Streams
import FleetHealth.Proofs.Excerpts
import FleetHealth.Proofs.Settings.Acceptance
import FleetHealth.Proofs.Settings.Defaults
import FleetHealth.Proofs.Settings.Masking
import FleetHealth.Proofs.Signature.Reported
import FleetHealth.Proofs.Signature.Literal
import FleetHealth.Proofs.Signature.Labels
import FleetHealth.Proofs.Report.Log
import FleetHealth.Proofs.Report.Story
import FleetHealth.Proofs.Docker.ContainerId
import FleetHealth.Proofs.Text.Bytes
import FleetHealth.Proofs.Signature.Smallest
import FleetHealth.Proofs.Docker.ExitCode
import FleetHealth.Proofs.Docker.Invocations
