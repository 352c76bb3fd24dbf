import Flowline.Proofs.Run.Alike
import Flowline.Proofs.Run.Log
import Flowline.Proofs.Event.Frame
import Flowline.Proofs.Run.Notices
import Flowline.Proofs.Run.Pipe
import Flowline.Proofs.Run.Route
import Flowline.Service.Execution
import Flowline.Service.Settings
import Flowline.Sql.Step
import Flowline.Proofs.Run.Streaming
import Flowline.Proofs.Run.Stream
import Flowline.Proofs.Act.Keeps
import Flowline.Proofs.Run.Keeps
import Flowline.Proofs.Sql.Keeps
import Flowline.Proofs.Sql.Log
import Flowline.Proofs.Sql.Statement
import Flowline.Proofs.Sql.Comment
import Flowline.Proofs.Sql.Query
import Flowline.Proofs.Text.Case
import Flowline.Proofs.Service.ReadOnly
import Flowline.Proofs.Run.Visit
import Flowline.Proofs.Run.Input
import Flowline.Proofs.Run.Result
import Flowline.Proofs.Run.Cut
import Flowline.Proofs.Act.Adds
import Flowline.Proofs.Sql.Ledger
import Flowline.Proofs.Sql.Transaction
import Flowline.Proofs.Run.Budget
import Flowline.Proofs.Run.Task
import Flowline.Proofs.Run.Rounds
import Flowline.Proofs.Decimal.Range
import Flowline.Proofs.Graph.Load
import Flowline.Proofs.Graph.Kind
import Flowline.Proofs.Json.Number
import Flowline.Proofs.Json.Reader
import Flowline.Proofs.Json.Writer
import Flowline.Proofs.Event.Reader
import Flowline.Proofs.Service.Plain
import Flowline.Proofs.Run.Plain
import Flowline.Proofs.Service.Answer
import Flowline.Proofs.Run.Calls
import Flowline.Proofs.Run.Close
import Flowline.Proofs.Run.Order
import Flowline.Proofs.Act.Indistinct
import Flowline.Proofs.Run.Indistinct
import Flowline.Proofs.Service.Indistinct
import Flowline.Proofs.Act.Traced
import Flowline.Proofs.Sql.Lifecycle
import Flowline.Proofs.Sql.Verdict
import Flowline.Proofs.Condition.Spelling
import Flowline.Proofs.Run.Start
import Flowline.Proofs.Run.View
import Flowline.Proofs.Condition.Token
import Flowline.Proofs.Condition.Parser
import Flowline.Proofs.Template
import Flowline.Proofs.Run.Comparison
import Flowline.Proofs.Template.Layout
import Flowline.Proofs.Condition.Literal
import Flowline.Proofs.Condition.Spacing
import Flowline.Proofs.Condition.Alternative
import Flowline.Proofs.Condition.Kind
import Flowline.Proofs.Condition.Origin
import Flowline.Proofs.Condition.Range
import Flowline.Proofs.Condition.Outside
import Flowline.Proofs.Choice.Evaluation
import Flowline.Proofs.Chat.Endpoint
import Flowline.Proofs.Web.Location
import Flowline.Proofs.Chat.Normal
import Flowline.Proofs.Chat.Azure
import Flowline.Proofs.Sql.Table
import Flowline.Proofs.Act.Done
import Flowline.Proofs.Sql.Answer
import Flowline.Proofs.Template.Inline
import Flowline.Proofs.Web.Header
import Flowline.Proofs.Graph.Table
import Flowline.Proofs.Sql.Failure
import Flowline.Proofs.Text.Utf16
import Flowline.Proofs.Sql.Credential
import Flowline.Proofs.Sql.Bare
import Flowline.Proofs.Chat.Stream
