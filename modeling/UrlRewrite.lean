import UrlRewrite.Main
import UrlRewrite.Run.Control
import UrlRewrite.Proofs.Run.History
import UrlRewrite.Proofs.Run.Order
import UrlRewrite.Proofs.Run.Bound
import UrlRewrite.Proofs.Bindings.Groups
import UrlRewrite.Proofs.Rule.Tests
import UrlRewrite.Proofs.Run.Groups
import UrlRewrite.Proofs.Run.Verdict
import UrlRewrite.Proofs.Flag.Order
import UrlRewrite.Proofs.Chain.Groups
import UrlRewrite.Proofs.Config.Selection
import UrlRewrite.Proofs.Text.Keyword
import UrlRewrite.Proofs.Config.Descent
import UrlRewrite.Proofs.Config.Progress
import UrlRewrite.Proofs.Config.Layout
import UrlRewrite.Proofs.Config.Written
import UrlRewrite.Proofs.Config.RoundTrip
import UrlRewrite.Proofs.Text.Percent
import UrlRewrite.Proofs.Bindings.Seed
import UrlRewrite.Proofs.Run.Uri
import UrlRewrite.Proofs.Run.Redirect
import UrlRewrite.Proofs.Config.Foreign
import UrlRewrite.Proofs.Template.Written
import UrlRewrite.Proofs.Run.Raise
import UrlRewrite.Proofs.Config.Position
import UrlRewrite.Proofs.Site.Separation
import UrlRewrite.Proofs.Config.Resolved
import UrlRewrite.Proofs.Site.Resolved
import UrlRewrite.Proofs.Template.Fill
import UrlRewrite.Proofs.Run.Renderings
import UrlRewrite.Proofs.Site.ServerName
import UrlRewrite.Proofs.Rule.Frame
import UrlRewrite.Proofs.Source.Include
import UrlRewrite.Proofs.Request.Written
import UrlRewrite.Proofs.CommandLine.Verdict
import UrlRewrite.Proofs.Chain.Nesting
import UrlRewrite.Proofs.Run.Query
import UrlRewrite.Proofs.Template.Delimiters
import UrlRewrite.Proofs.Rule.Captured
import UrlRewrite.Proofs.Template.Errors
import UrlRewrite.Proofs.Text.FirstLine
import UrlRewrite.Proofs.Config.Readings
import UrlRewrite.Proofs.Config.FirstLine
import UrlRewrite.Proofs.Config.Port
import UrlRewrite.Proofs.Config.HostName
import UrlRewrite.Proofs.Flag.Merge
import UrlRewrite.Proofs.Flag.Unambiguous
import UrlRewrite.Proofs.Text.Decimal
import UrlRewrite.Proofs.Pattern.Written
import UrlRewrite.Proofs.Source.Continuation
import UrlRewrite.Proofs.Config.Built
import UrlRewrite.Proofs.Flag.Number
import UrlRewrite.Proofs.Run.MachineWord
import UrlRewrite.Proofs.Source.Passes
import UrlRewrite.Proofs.Run.Guards
