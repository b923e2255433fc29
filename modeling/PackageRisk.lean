import PackageRisk.Main
import PackageRisk.Proofs.Report.Spelling
import PackageRisk.Proofs.ScoreSheet.Reparse
import PackageRisk.Proofs.Report.NestedOrder
import PackageRisk.Proofs.Report.NullCounts
import PackageRisk.Proofs.Report.Rearrangement
import PackageRisk.Proofs.Report.Descendants
import PackageRisk.Proofs.Assessment.Dependence
import PackageRisk.Proofs.Assessment.Again
import PackageRisk.Proofs.Score.Risk
import PackageRisk.Proofs.Report.Alerts
import PackageRisk.Proofs.ScoreSheet.Decoding
import PackageRisk.Proofs.Run.MinimumGrade
import PackageRisk.Proofs.ScoreSheet.KeptOutline
import PackageRisk.Proofs.ScoreSheet.ExplanationTable
import PackageRisk.Proofs.ScoreSheet.Tally
import PackageRisk.Proofs.Report.Precedence
import PackageRisk.Proofs.Score.Itemised
import PackageRisk.Proofs.Score.ExplainedBanner
import PackageRisk.Proofs.Score.ClampedTotal
import PackageRisk.Proofs.ScoreSheet.DependencyTable
import PackageRisk.Proofs.Report.Totals
import PackageRisk.Proofs.Package.Grammar
import PackageRisk.Proofs.Package.Identity
import PackageRisk.Proofs.ScoreSheet.TableRows
import PackageRisk.Proofs.Service.Scheme
import PackageRisk.Proofs.Settings.Precedence
import PackageRisk.Proofs.Report.Sources
import PackageRisk.Proofs.VulnerabilityCounts.Sums
import PackageRisk.Proofs.VulnerabilityCounts.Changes
import PackageRisk.Proofs.Naming
import PackageRisk.Proofs.Run.Source
import PackageRisk.Proofs.OutputFile
