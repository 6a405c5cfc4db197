import RobotsExclusion.Api
import RobotsExclusion.CommandLine
import RobotsExclusion.Main
import RobotsExclusion.Proofs.Diagnostic
import RobotsExclusion.Proofs.Diagnostic.Span
import RobotsExclusion.Proofs.Document.Encoding
import RobotsExclusion.Proofs.Document.Validity
import RobotsExclusion.Proofs.Text.Blank
import RobotsExclusion.Proofs.Text.LowerCase.Blank
import RobotsExclusion.Proofs.Document.Concatenation
import RobotsExclusion.Proofs.Document.Order
import RobotsExclusion.Proofs.Document.Canonical
import RobotsExclusion.Proofs.Document.Source
import RobotsExclusion.Proofs.Check.Attempt
import RobotsExclusion.Proofs.Document.Attempt
import RobotsExclusion.Proofs.Except
import RobotsExclusion.Proofs.Settings
import RobotsExclusion.Proofs.CommandLine
import RobotsExclusion.Proofs.CommandLine.Reports
import RobotsExclusion.Proofs.CommandLine.Check
import RobotsExclusion.Proofs.Check.Path
import RobotsExclusion.Proofs.Report.Render
import RobotsExclusion.Proofs.Url
import RobotsExclusion.Proofs.Document.Render
import RobotsExclusion.Proofs.Settings.Source
import RobotsExclusion.Proofs.CommandLine.Server
import RobotsExclusion.Proofs.Text.Digit
import RobotsExclusion.Proofs.Url.Authority
import RobotsExclusion.Proofs.Check.Sitemap
import RobotsExclusion.Proofs.Binary64
import RobotsExclusion.Proofs.Binary64.Round
import RobotsExclusion.Proofs.Numeral.Longest
import RobotsExclusion.Proofs.Numeral.End
import RobotsExclusion.Proofs.Numeral.Value
import RobotsExclusion.Proofs.Check.Delay
import RobotsExclusion.Proofs.Check.CrawlDelay
import RobotsExclusion.Proofs.Utf8.Length
import RobotsExclusion.Proofs.Document.Size
import RobotsExclusion.Proofs.Document.Lines
import RobotsExclusion.Proofs.Document.Message
import RobotsExclusion.Proofs.Settings.Override
import RobotsExclusion.Proofs.Json.Grammar
import RobotsExclusion.Proofs.Json.Unambiguity
import RobotsExclusion.Proofs.Json.Print
import RobotsExclusion.Proofs.CommandLine.Json
