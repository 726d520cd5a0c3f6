import DartSweep.Main
import DartSweep.Proofs.Command.DryRun
import DartSweep.Proofs.Command.Rerun
import DartSweep.Proofs.Edit.BackToFront
import DartSweep.Proofs.Getter.Append
import DartSweep.Proofs.Getter.Closing
import DartSweep.Proofs.Getter.Signatures
import DartSweep.Proofs.Getter.Margins
import DartSweep.Proofs.Source.Braces
import DartSweep.Proofs.Source.ClassLines
import DartSweep.Proofs.Source.ClosingLine
import DartSweep.Proofs.Source.FaultLines
import DartSweep.Proofs.Source.LateSqueeze
import DartSweep.Proofs.Source.Progress
import DartSweep.Proofs.Source.Refusals
import DartSweep.Proofs.Source.SpanEnds
import DartSweep.Proofs.Source.Stacked
import DartSweep.Proofs.Edit.Validation
import DartSweep.Proofs.Edit.Runs
import DartSweep.Proofs.Source.FinalLineFeed
import DartSweep.Proofs.Source.ImportPasses
import DartSweep.Proofs.Source.BraceCounters
import DartSweep.Proofs.Source.LineCounts
import DartSweep.Proofs.Command.FirstSpelling
import DartSweep.Proofs.Command.ExpandedPaths
