import JavaSurvey.CallGraph.Digraph
import JavaSurvey.Json.Reader
import JavaSurvey.Main
import JavaSurvey.Number.Literal
import JavaSurvey.Proofs.CallGraph.Edges
import JavaSurvey.Proofs.CallGraph.FinishOrder
import JavaSurvey.Proofs.CallGraph.Descent
import JavaSurvey.Proofs.CallGraph.MaxDepth
import JavaSurvey.Proofs.Survey
import JavaSurvey.Proofs.Scan.Outcome
import JavaSurvey.Proofs.Scan.Walk
import JavaSurvey.Proofs.Scan.Failures
import JavaSurvey.Proofs.Ranking
import JavaSurvey.Proofs.CallGraph.Alike
import JavaSurvey.Proofs.CallGraph.CycleFree
import JavaSurvey.Proofs.Totals
import JavaSurvey.Proofs.SheetOrder
import JavaSurvey.Proofs.Scan.Escape
import JavaSurvey.Proofs.Text.Utf8
import JavaSurvey.Proofs.Scan.SingleSource
import JavaSurvey.Proofs.Json.Numeral
import JavaSurvey.Proofs.Json.RoundTrip
import JavaSurvey.Proofs.Report.Export
import JavaSurvey.Proofs.Files.Write
import JavaSurvey.Proofs.CommandLine.Status
import JavaSurvey.Proofs.CallGraph.FirstUse
import JavaSurvey.Proofs.CallGraph.Degrees
import JavaSurvey.Proofs.CallGraph.MostCalled
import JavaSurvey.Proofs.CallGraph.Recursion
import JavaSurvey.Proofs.Facts.Places
import JavaSurvey.Proofs.TopTenth
import JavaSurvey.Proofs.Tree.Nesting
import JavaSurvey.Proofs.Facts.SourceOrder
import JavaSurvey.Proofs.Identity
import JavaSurvey.Proofs.Threshold
import JavaSurvey.Proofs.Tree.Excerpt
import JavaSurvey.Proofs.Report.GraphFields
import JavaSurvey.Proofs.CallGraph.Digraph
import JavaSurvey.Proofs.Report.GraphText
import JavaSurvey.Proofs.CallGraph.History
import JavaSurvey.Proofs.Tree.Traversal
