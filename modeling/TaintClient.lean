import TaintClient.Main
import TaintClient.Mode.Decode
import TaintClient.Response.Encode
import TaintClient.Proofs.Panel.Effect
import TaintClient.Proofs.Panel.Label
import TaintClient.Proofs.Panel.Counter
import TaintClient.Proofs.Steps
import TaintClient.Proofs.Session.Place
import TaintClient.Proofs.Session.Traffic
import TaintClient.Proofs.Session.Supersession
import TaintClient.Proofs.Session.Interleaving
import TaintClient.Proofs.Session.Waiting
import TaintClient.Proofs.Session.LabelCount
import TaintClient.Proofs.Session.Window
import TaintClient.Proofs.Session.Erasure
import TaintClient.Proofs.Session.Region
import TaintClient.Proofs.Json.Reads
import TaintClient.Proofs.Json.Spelling
import TaintClient.Proofs.Json.Integer
import TaintClient.Proofs.Response.RoundTrip
import TaintClient.Proofs.Http.Trail
import TaintClient.Proofs.Exchange.Result
import TaintClient.Proofs.Run.Report
import TaintClient.Proofs.Json.Grammar
import TaintClient.Proofs.Json.Scalar
import TaintClient.Proofs.Json.Skipping
import TaintClient.Proofs.Json.Kind
import TaintClient.Proofs.Response.Accepted
import TaintClient.Proofs.Response.Refused
import TaintClient.Proofs.Markup.Tag
import TaintClient.Proofs.Report.Escape
import TaintClient.Proofs.Report.Header
import TaintClient.Proofs.Session.Journal
import TaintClient.Proofs.Session.Reordering
import TaintClient.Proofs.Session.Form
import TaintClient.Proofs.Text.Lines
import TaintClient.Proofs.Report.PlainText
import TaintClient.Proofs.Json.Rewriting
import TaintClient.Proofs.Response.Restated
import TaintClient.Proofs.Except
import TaintClient.Proofs.Text.OneLine
import TaintClient.Proofs.Url.Printable
import TaintClient.Proofs.Json.Wording
import TaintClient.Proofs.Response.Wording
import TaintClient.Proofs.Http.Wording
import TaintClient.Proofs.Exchange.Wording
import TaintClient.Proofs.Session.Wording
import TaintClient.Proofs.Log.Line
import TaintClient.Proofs.Report.Breaks
import TaintClient.Proofs.Report.Unambiguous
import TaintClient.Proofs.Report.Style
import TaintClient.Proofs.Report.Extraction
import TaintClient.Proofs.Exchange.Warning
import TaintClient.Proofs.Text.Octets
import TaintClient.Proofs.Environment.Loading
import TaintClient.Proofs.Environment.Whole
import TaintClient.Proofs.CommandLine.Argument
import TaintClient.Proofs.CommandLine.Setting
import TaintClient.Proofs.CommandLine.Accepted
import TaintClient.Proofs.CommandLine.Request
import TaintClient.Proofs.CommandLine.RoundTrip
import TaintClient.Proofs.Environment.Endpoint
import TaintClient.Proofs.Log.Precedence
import TaintClient.Proofs.Domain.Punycode
import TaintClient.Proofs.Domain.Name
import TaintClient.Proofs.Text.Digits
import TaintClient.Proofs.Text.Parts
import TaintClient.Proofs.Url.Address
import TaintClient.Proofs.Url.Percent
import TaintClient.Proofs.Url.Host
import TaintClient.Proofs.Url.Authority
import TaintClient.Proofs.Url.Endpoint
