import SchemaScript.Main
import SchemaScript.Draft.Workbench
import SchemaScript.Proofs.Widening.Slots
import SchemaScript.Proofs.Widening.Spread
import SchemaScript.Proofs.Widening.Walks
import SchemaScript.Proofs.Widening.Passes
import SchemaScript.Proofs.Widening.Outcome
import SchemaScript.Proofs.Widening.Settling
import SchemaScript.Proofs.Widening.Frame
import SchemaScript.Proofs.Widening.Replay
import SchemaScript.Proofs.Widening.Arrangement
import SchemaScript.Proofs.Script.Printing
import SchemaScript.Proofs.Script.JoinedColumns
import SchemaScript.Proofs.Script.Statements
import SchemaScript.Proofs.Script.Pruning
import SchemaScript.Proofs.Consistency.Families
import SchemaScript.Proofs.Consistency.SkippedKeys
import SchemaScript.Proofs.Consistency.DroppedIndexes
import SchemaScript.Proofs.Consistency.RepeatedIds
import SchemaScript.Proofs.Json.Sequence
import SchemaScript.Proofs.Json.Scalars
import SchemaScript.Proofs.Json.RoundTrip
import SchemaScript.Proofs.Json.Characters
import SchemaScript.Proofs.Diagram.Members
import SchemaScript.Proofs.Files.Tree
import SchemaScript.Proofs.Text.Blanks
import SchemaScript.Proofs.Diagram.RoundTrip
import SchemaScript.Proofs.Script.ColumnReader
import SchemaScript.Proofs.Script.Reader
import SchemaScript.Proofs.Adaptation.Fences
import SchemaScript.Proofs.Chat.Attempts
import SchemaScript.Proofs.Chat.Turns
import SchemaScript.Proofs.Diagram.Renaming
import SchemaScript.Proofs.Files.Growth
import SchemaScript.Proofs.Settings.Reading
import SchemaScript.Proofs.Logging.SetUp
import SchemaScript.Proofs.Prompt.Filling
import SchemaScript.Proofs.Adaptation.Outcome
import SchemaScript.Proofs.CommandLine.Steps
import SchemaScript.Proofs.CommandLine.Delivery
import SchemaScript.Proofs.CommandLine.Runs
import SchemaScript.Proofs.Adaptation.Stripping
import SchemaScript.Proofs.Number.Doubling
import SchemaScript.Proofs.Chat.Schedule
import SchemaScript.Proofs.Adaptation.Asking
import SchemaScript.Proofs.Prompt.Embedding
import SchemaScript.Proofs.Adaptation.Targets
import SchemaScript.Proofs.Diagram.Contents
import SchemaScript.Proofs.Diagram.Presentation
import SchemaScript.Proofs.Script.Words
import SchemaScript.Proofs.Script.Lines
import SchemaScript.Proofs.Script.Report
import SchemaScript.Proofs.Dialect.Spelling
import SchemaScript.Proofs.Widening.Again
import SchemaScript.Proofs.Json.Digits
import SchemaScript.Proofs.Diagram.Digits
import SchemaScript.Proofs.Draft.Access
import SchemaScript.Proofs.Draft.Convert
import SchemaScript.Proofs.Draft.Script
import SchemaScript.Proofs.Draft.Check
import SchemaScript.Proofs.Draft.Widening
import SchemaScript.Proofs.Draft.Workbench
