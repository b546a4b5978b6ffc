import CodeGauge.Analysis.Run
import CodeGauge.Command.Run
import CodeGauge.FileTree.Storage
import CodeGauge.History.Codec
import CodeGauge.Json.Reader
import CodeGauge.Log
import CodeGauge.Main
import CodeGauge.Render.Format
import CodeGauge.Report.Assemble
import CodeGauge.Report.RunId
import CodeGauge.Settings.File
import CodeGauge.Workspace.Memory
import CodeGauge.Workspace.Query
import CodeGauge.Yaml.Value
import CodeGauge.Proofs.Source.Grammar
import CodeGauge.Proofs.Source.Division
import CodeGauge.Proofs.Declaration.Bracket
import CodeGauge.Proofs.Declaration.Extraction
import CodeGauge.Proofs.Source.Locality
import CodeGauge.Proofs.Declaration.Truncation
import CodeGauge.Proofs.Declaration.Window
import CodeGauge.Proofs.Declaration.Renaming
import CodeGauge.Proofs.Declaration.Nesting
import CodeGauge.Proofs.Source.Contents
import CodeGauge.Proofs.Source.Line
import CodeGauge.Proofs.Source.LineFeed
import CodeGauge.Proofs.Source.Lexeme
import CodeGauge.Proofs.Number.Whole
import CodeGauge.Proofs.Source.Printing
import CodeGauge.Proofs.Source.Scanner
import CodeGauge.Proofs.Analysis.Schedule
import CodeGauge.Proofs.Analysis.Effect
import CodeGauge.Proofs.Document.Codec
import CodeGauge.Proofs.Report.Codec
import CodeGauge.Proofs.Report.Totals
import CodeGauge.Proofs.Report.Ranking
import CodeGauge.Proofs.FileTree.Resolve
import CodeGauge.Proofs.FileTree.Temporary
import CodeGauge.Proofs.FileTree.Storage
import CodeGauge.Proofs.Analysis.Accounting
import CodeGauge.Proofs.Command.Threshold
import CodeGauge.Proofs.Text.Trim
import CodeGauge.Proofs.History.Ledger
import CodeGauge.Proofs.FileTree.Folders
import CodeGauge.Proofs.FileTree.Database
import CodeGauge.Proofs.FileTree.History
import CodeGauge.Proofs.FileTree.Direct
import CodeGauge.Proofs.FileTree.Confined
import CodeGauge.Proofs.FileTree.WorkFolder
import CodeGauge.Proofs.FileTree.Scan
import CodeGauge.Proofs.FileTree.Rescan
import CodeGauge.Proofs.FileTree.Search
import CodeGauge.Proofs.FileTree.Saving
import CodeGauge.Proofs.Command.Selection
import CodeGauge.Proofs.Declaration.Candidate
import CodeGauge.Proofs.Declaration.Balance
import CodeGauge.Proofs.Measure.CamelCase
import CodeGauge.Proofs.Render.Colour
import CodeGauge.Proofs.Render.Registry
import CodeGauge.Proofs.Source.Progress
