import ShopQuery.Calendar.Date
import ShopQuery.Calendar.DateText
import ShopQuery.Calendar.Weekdays
import ShopQuery.CommandLine.Invocation
import ShopQuery.CommandLine.Token
import ShopQuery.Connection.Address
import ShopQuery.Connection.Fault
import ShopQuery.Connection.Host
import ShopQuery.Connection.Ipv4
import ShopQuery.Connection.Ipv6
import ShopQuery.Connection.Settings
import ShopQuery.Connection.Url
import ShopQuery.Document.Basic
import ShopQuery.Document.Decode
import ShopQuery.DomainName.Basic
import ShopQuery.DomainName.Folding
import ShopQuery.DomainName.Punycode
import ShopQuery.Error
import ShopQuery.Files.Documents
import ShopQuery.Files.Path
import ShopQuery.Files.Tree
import ShopQuery.Json.Basic
import ShopQuery.Json.Fault
import ShopQuery.Json.Numeral
import ShopQuery.Json.Printer
import ShopQuery.Json.Reader
import ShopQuery.Main
import ShopQuery.Number.Bigint
import ShopQuery.Number.Binary64
import ShopQuery.Number.Digits
import ShopQuery.Number.Power
import ShopQuery.Number.Shortest
import ShopQuery.Pattern.Basic
import ShopQuery.Pattern.Reader
import ShopQuery.Pattern.Support
import ShopQuery.Proofs.Calendar.DateText
import ShopQuery.Proofs.Calendar.DayNumber
import ShopQuery.Proofs.Calendar.Walk
import ShopQuery.Proofs.Calendar.Weekdays
import ShopQuery.Proofs.CommandLine.Passwords
import ShopQuery.Proofs.CommandLine.Placement
import ShopQuery.Proofs.Connection.Address
import ShopQuery.Proofs.Connection.Passwords
import ShopQuery.Proofs.Connection.UserInfo
import ShopQuery.Proofs.Document.RoundTrip
import ShopQuery.Proofs.Document.SingleLine
import ShopQuery.Proofs.Files.Shape
import ShopQuery.Proofs.Files.Tree
import ShopQuery.Proofs.FirstFailure
import ShopQuery.Proofs.Json.Controls
import ShopQuery.Proofs.Json.Layout
import ShopQuery.Proofs.Json.Literal
import ShopQuery.Proofs.Json.Members
import ShopQuery.Proofs.Json.Numeral
import ShopQuery.Proofs.Json.Place
import ShopQuery.Proofs.Json.Range
import ShopQuery.Proofs.Json.Reordered
import ShopQuery.Proofs.Json.RoundTrip
import ShopQuery.Proofs.Json.Strings
import ShopQuery.Proofs.Json.Values
import ShopQuery.Proofs.Number.CheckedSum
import ShopQuery.Proofs.Number.Digits
import ShopQuery.Proofs.Number.Rounding
import ShopQuery.Proofs.Query.Cells
import ShopQuery.Proofs.Query.Replies
import ShopQuery.Proofs.Query.Signature
import ShopQuery.Proofs.Report.Concatenation
import ShopQuery.Proofs.Report.Documents
import ShopQuery.Proofs.Report.Outcomes
import ShopQuery.Proofs.Report.Restated
import ShopQuery.Proofs.Report.Rows
import ShopQuery.Proofs.Report.Search
import ShopQuery.Proofs.Report.Simulation
import ShopQuery.Proofs.Report.StatReplies
import ShopQuery.Proofs.Report.Statistics
import ShopQuery.Proofs.Report.Values
import ShopQuery.Proofs.Request.Numerals
import ShopQuery.Proofs.Request.Outcomes
import ShopQuery.Proofs.Request.Period
import ShopQuery.Proofs.Request.Plan
import ShopQuery.Proofs.Request.Relisting
import ShopQuery.Proofs.Request.Restated
import ShopQuery.Proofs.Run.Passwords
import ShopQuery.Proofs.Run.Replay
import ShopQuery.Proofs.Run.Stages
import ShopQuery.Proofs.SameOutcome
import ShopQuery.Proofs.Server.Complaints
import ShopQuery.Proofs.Server.Messages
import ShopQuery.Proofs.Server.Passwords
import ShopQuery.Proofs.Server.Reactions
import ShopQuery.Proofs.Settings.EnvFile
import ShopQuery.Proofs.Settings.Layers
import ShopQuery.Proofs.Settings.Passwords
import ShopQuery.Proofs.Settings.Resolution
import ShopQuery.Proofs.Shop.Execute
import ShopQuery.Proofs.Shop.Groups
import ShopQuery.Proofs.Shop.Listing
import ShopQuery.Proofs.Shop.Order
import ShopQuery.Proofs.Shop.Parameters
import ShopQuery.Proofs.Shop.Ranking
import ShopQuery.Proofs.Shop.RowByRow
import ShopQuery.Proofs.Shop.Spending
import ShopQuery.Proofs.Shop.StorageOrder
import ShopQuery.Proofs.Shop.Totals
import ShopQuery.Proofs.Sql.BadCustomers
import ShopQuery.Proofs.Sql.Select
import ShopQuery.Proofs.Text.Percent
import ShopQuery.Proofs.Text.Search
import ShopQuery.Proofs.Text.Utf8
import ShopQuery.Query.Database
import ShopQuery.Query.Fault
import ShopQuery.Query.Result
import ShopQuery.Query.Statement
import ShopQuery.Report
import ShopQuery.Request.Criteria
import ShopQuery.Request.Period
import ShopQuery.Request.Plan
import ShopQuery.Run
import ShopQuery.Server.Link
import ShopQuery.Server.Login
import ShopQuery.Server.Script
import ShopQuery.Server.Session
import ShopQuery.Server.Wire
import ShopQuery.Settings.Config
import ShopQuery.Settings.EnvFile
import ShopQuery.Settings.Environment
import ShopQuery.Settings.LogFilter
import ShopQuery.Shop.Evaluate
import ShopQuery.Shop.Tables
import ShopQuery.Text.Blank
import ShopQuery.Text.Direction
import ShopQuery.Text.Joining
import ShopQuery.Text.Mark
import ShopQuery.Text.NormalForm
import ShopQuery.Text.Octets
import ShopQuery.Text.Percent
import ShopQuery.Text.Quoted
import ShopQuery.Text.Ranges
import ShopQuery.Text.Search
import ShopQuery.Text.Utf8
import ShopQuery.Text.Visible
import ShopQuery.Text.Word
import ShopQuery.Toml.Diagnostic
import ShopQuery.Toml.Lexeme
import ShopQuery.Toml.Reader
