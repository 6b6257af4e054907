import SpecAtlas.Main
import SpecAtlas.Proofs.CommandLine.ConsoleResults
import SpecAtlas.Proofs.Discovery.Scan
import SpecAtlas.Proofs.Result.CapturedText
import SpecAtlas.Proofs.Result.DamagedReport
import SpecAtlas.Proofs.Result.PrintedName
import SpecAtlas.Proofs.Result.FailureSummary
import SpecAtlas.Proofs.Result.Refusal
import SpecAtlas.Proofs.Source.Completeness
import SpecAtlas.Proofs.Source.QuotedFeature
import SpecAtlas.Proofs.Source.Separation
import SpecAtlas.Proofs.Source.BrokenLiteral
import SpecAtlas.Proofs.Source.LiteralTable
import SpecAtlas.Proofs.Source.Lookalike
import SpecAtlas.Proofs.Value.DisplayName
import SpecAtlas.Proofs.Value.OpenQuote
import SpecAtlas.Proofs.Source.Tree
import SpecAtlas.Proofs.Source.Truncation
import SpecAtlas.Proofs.Source.Translation
import SpecAtlas.Proofs.Source.Layout
import SpecAtlas.Proofs.CommandLine.Configuration
import SpecAtlas.Proofs.CommandLine.PrintedCommand
import SpecAtlas.Proofs.Config.DeepMerge
import SpecAtlas.Proofs.Config.Load
import SpecAtlas.Proofs.Discovery.Workspace
import SpecAtlas.Proofs.Source.Lookahead
import SpecAtlas.Proofs.Source.DominantSeparator
import SpecAtlas.Proofs.Source.TrailingComment
import SpecAtlas.Proofs.Build.TestItem
import SpecAtlas.Proofs.Source.EventLog
import SpecAtlas.Proofs.Value.Pieces
import SpecAtlas.Proofs.Source.OnePass
import SpecAtlas.Proofs.Source.ShortNumber
