import IrChart.Ordered
import IrChart.Text.Basic
import IrChart.Diagnostic
import IrChart.Graph.Basic
import IrChart.Dump.Parse
import IrChart.Coloring
import IrChart.Color.Hex
import IrChart.Graph.Links
import IrChart.Graph.Declared
import IrChart.Layout.Compute
import IrChart.Session
import IrChart.Toml.Statement
import IrChart.Toml.Document
import IrChart.Run
import IrChart.Files.Tree
import IrChart.Program
import IrChart.Main
import IrChart.Proofs.Text.Words
import IrChart.Proofs.Dump.Grammar
import IrChart.Proofs.Dump.Written
import IrChart.Proofs.Dump.Drafts
import IrChart.Proofs.Dump.RoundTrip
import IrChart.Proofs.JitLog.Pairing
import IrChart.Proofs.JitLog.Grammar
import IrChart.Proofs.JitLog.Pass
import IrChart.Proofs.JitLog.Written
import IrChart.Proofs.JitLog.RoundTrip
import IrChart.Proofs.Dump.Detection
import IrChart.Proofs.JitLog.Idempotence
import IrChart.Proofs.JitLog.Telling
import IrChart.Proofs.Coloring
import IrChart.Proofs.Graph.Resolve
import IrChart.Proofs.Graph.Links
import IrChart.Proofs.Graph.Declared
import IrChart.Proofs.Graph.Groups
import IrChart.Proofs.Graph.Search
import IrChart.Proofs.Graph.Depth
import IrChart.Proofs.Layout.Coverage
import IrChart.Proofs.Layout.Layers
import IrChart.Proofs.Chart
import IrChart.Proofs.Dump.Warnings
import IrChart.Proofs.Dump.WarningOrder
import IrChart.Proofs.Dump.Labels
import IrChart.Proofs.Accounting
import IrChart.Proofs.Dump.WordsOnly
import IrChart.Proofs.Dump.FirstDefinition
import IrChart.Proofs.Dump.LineByLine
import IrChart.Proofs.Dump.Routes
import IrChart.Proofs.Files.Laws
import IrChart.Proofs.Run
import IrChart.Proofs.Dump.Refusal
import IrChart.Proofs.Color.Hex
import IrChart.Proofs.Dump.Numeral
import IrChart.Proofs.Layout.Grid
import IrChart.Proofs.Files.Path
import IrChart.Proofs.Settings.Sections
import IrChart.Proofs.Settings.Resolve
