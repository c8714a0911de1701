import BlockMail.Block.Entry
import BlockMail.Block.Payload
import BlockMail.Block.Reading
import BlockMail.Branding
import BlockMail.CommandLine.Command
import BlockMail.CommandLine.Run
import BlockMail.CommandLine.Switch
import BlockMail.CommandLine.Workspace
import BlockMail.Context
import BlockMail.Dict
import BlockMail.Document
import BlockMail.DomainName.Ascii
import BlockMail.DomainName.Direction
import BlockMail.DomainName.DirectionTable
import BlockMail.DomainName.Joining
import BlockMail.DomainName.JoiningTable
import BlockMail.DomainName.Mapping
import BlockMail.DomainName.MappingTable
import BlockMail.DomainName.Punycode
import BlockMail.Error
import BlockMail.Guard.Decision
import BlockMail.Guard.Simulation
import BlockMail.Guard.State
import BlockMail.Html.Node
import BlockMail.Http.Exchange
import BlockMail.Http.Host
import BlockMail.Http.Percent
import BlockMail.Http.Url
import BlockMail.Json.Numeral
import BlockMail.Json.Printer
import BlockMail.Json.Record
import BlockMail.Json.Source
import BlockMail.Json.Token
import BlockMail.Json.Tree
import BlockMail.Json.Value
import BlockMail.Mail.Address
import BlockMail.Mail.DryRun
import BlockMail.Mail.Mailer
import BlockMail.Mail.Outbox
import BlockMail.Mail.Outgoing
import BlockMail.Mail.Resend
import BlockMail.Log
import BlockMail.Main
import BlockMail.Net.IpAddress
import BlockMail.Placeholder
import BlockMail.Proofs.Block.Acceptance
import BlockMail.Proofs.Block.Contribution
import BlockMail.Proofs.Block.Decoding
import BlockMail.Proofs.Block.Leniency
import BlockMail.Proofs.Block.Notice
import BlockMail.Proofs.Document.BlockList
import BlockMail.Proofs.Document.Leniency
import BlockMail.Proofs.Document.Notices
import BlockMail.Proofs.Document.RoundTrip
import BlockMail.Proofs.Document.Spelling
import BlockMail.Proofs.Guard.Abandonment
import BlockMail.Proofs.Guard.Barrier
import BlockMail.Proofs.Guard.Beside
import BlockMail.Proofs.Guard.Cancellation
import BlockMail.Proofs.Guard.History
import BlockMail.Proofs.Guard.Isolation
import BlockMail.Proofs.Guard.Provenance
import BlockMail.Proofs.Guard.Run
import BlockMail.Proofs.Guard.Scripted
import BlockMail.Proofs.Guard.SingleFlight
import BlockMail.Proofs.Guard.Transition
import BlockMail.Proofs.Html.Nesting
import BlockMail.Proofs.Html.Reading
import BlockMail.Proofs.Json.Denotation
import BlockMail.Proofs.Json.Edits
import BlockMail.Proofs.Json.Printing
import BlockMail.Proofs.Json.Schema
import BlockMail.Proofs.Json.Spelling
import BlockMail.Proofs.Json.Splice
import BlockMail.Proofs.Json.Written
import BlockMail.Proofs.Mail.BlankBranding
import BlockMail.Proofs.Mail.Consistency
import BlockMail.Proofs.Mail.Delivery
import BlockMail.Proofs.Mail.Observation
import BlockMail.Proofs.Placeholder.Cut
import BlockMail.Proofs.Placeholder.Presence
import BlockMail.Proofs.Render.Agreement
import BlockMail.Proofs.Render.Body
import BlockMail.Proofs.Render.Dependence
import BlockMail.Proofs.Render.FooterIdentity
import BlockMail.Proofs.Render.Influence
import BlockMail.Proofs.Render.Markup
import BlockMail.Proofs.Render.Nesting
import BlockMail.Proofs.Render.Order
import BlockMail.Proofs.Render.PlainValues
import BlockMail.Proofs.Render.Presence
import BlockMail.Proofs.Render.Settled
import BlockMail.Proofs.Render.Shown
import BlockMail.Proofs.Text.Lines
import BlockMail.Render.Html
import BlockMail.Render.Message
import BlockMail.Render.Options
import BlockMail.Render.Page
import BlockMail.Render.PlainText
import BlockMail.Render.Stylesheet
import BlockMail.Render.Values
import BlockMail.Settings.Environment
import BlockMail.Settings.Mail
import BlockMail.Text.Base64
import BlockMail.Text.Blank
import BlockMail.Text.CaseTable
import BlockMail.Text.Casing
import BlockMail.Text.CodeMap
import BlockMail.Text.CodeRanges
import BlockMail.Text.Lines
import BlockMail.Text.Normal
import BlockMail.Text.NormalTable
import BlockMail.Text.Pieces
import BlockMail.Proofs.Placeholder.Blankness
import BlockMail.Proofs.Placeholder.Concatenation
import BlockMail.Proofs.Mail.Subject
import BlockMail.Proofs.Render.LineByLine
import BlockMail.Proofs.Render.SessionRows
import BlockMail.Proofs.Render.Channels
import BlockMail.Proofs.Settings.Numbers
import BlockMail.Proofs.CommandLine.Deeds
import BlockMail.Proofs.CommandLine.Sending
