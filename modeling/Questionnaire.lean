import Questionnaire.Command.Arguments
import Questionnaire.Command.Files
import Questionnaire.Command.Run
import Questionnaire.Document.Page
import Questionnaire.Document.Piece
import Questionnaire.Document.Script
import Questionnaire.Document.Step
import Questionnaire.Document.Style
import Questionnaire.Double.Nearest
import Questionnaire.Double.Shortest
import Questionnaire.Entry.Email
import Questionnaire.Entry.Phone
import Questionnaire.Entry.Validator
import Questionnaire.Form.Audit
import Questionnaire.Form.Basic
import Questionnaire.Form.Criteria
import Questionnaire.Form.Kind
import Questionnaire.Form.Question
import Questionnaire.Form.Schema
import Questionnaire.Form.Starter
import Questionnaire.Form.Wire
import Questionnaire.Json.Bracket
import Questionnaire.Json.Fault
import Questionnaire.Json.Format
import Questionnaire.Json.Parse
import Questionnaire.Json.Print
import Questionnaire.Json.Reader
import Questionnaire.Json.Value
import Questionnaire.Main
import Questionnaire.Plan.Basic
import Questionnaire.Plan.Wire
import Questionnaire.Qualification
import Questionnaire.Session.Basic
import Questionnaire.Session.Walk
import Questionnaire.Submission.Basic
import Questionnaire.Submission.Instant
import Questionnaire.Submission.Url
import Questionnaire.Table
import Questionnaire.Text.Blank
import Questionnaire.Text.LowerCase
import Questionnaire.Text.Quoted
import Questionnaire.Text.Slug
import Questionnaire.Text.Split
import Questionnaire.Text.Unseen
import Questionnaire.Proofs.Command.Path
import Questionnaire.Proofs.Command.Tree
import Questionnaire.Proofs.Command.Writes
import Questionnaire.Proofs.Document.Agreement
import Questionnaire.Proofs.Document.Attribute
import Questionnaire.Proofs.Document.Block
import Questionnaire.Proofs.Document.Carried
import Questionnaire.Proofs.Document.Color
import Questionnaire.Proofs.Document.Controls
import Questionnaire.Proofs.Document.Counting
import Questionnaire.Proofs.Document.Indent
import Questionnaire.Proofs.Document.Landmark
import Questionnaire.Proofs.Document.Markup
import Questionnaire.Proofs.Document.Naming
import Questionnaire.Proofs.Document.Page
import Questionnaire.Proofs.Document.Quiet
import Questionnaire.Proofs.Document.Search
import Questionnaire.Proofs.Document.StepText
import Questionnaire.Proofs.Double.Nearest
import Questionnaire.Proofs.Double.Rounding
import Questionnaire.Proofs.Entry.Email
import Questionnaire.Proofs.Entry.Stored
import Questionnaire.Proofs.Entry.Typing
import Questionnaire.Proofs.Form.Audit
import Questionnaire.Proofs.Form.Blame
import Questionnaire.Proofs.Form.Kind
import Questionnaire.Proofs.Form.Known
import Questionnaire.Proofs.Form.Starter
import Questionnaire.Proofs.Form.UnknownKind
import Questionnaire.Proofs.Form.Variant
import Questionnaire.Proofs.Form.Wire
import Questionnaire.Proofs.Json.Alike
import Questionnaire.Proofs.Json.Bracket
import Questionnaire.Proofs.Json.CarryOver
import Questionnaire.Proofs.Json.Converted
import Questionnaire.Proofs.Json.Embedded
import Questionnaire.Proofs.Json.Lawful
import Questionnaire.Proofs.Json.Layout
import Questionnaire.Proofs.Json.Ordered
import Questionnaire.Proofs.Json.Parsed
import Questionnaire.Proofs.Json.ReadBack
import Questionnaire.Proofs.Json.Token
import Questionnaire.Proofs.Json.Told
import Questionnaire.Proofs.Json.Variant
import Questionnaire.Proofs.Json.Written
import Questionnaire.Proofs.Plan.Order
import Questionnaire.Proofs.Plan.Wire
import Questionnaire.Proofs.Qualification.Amount
import Questionnaire.Proofs.Qualification.Blank
import Questionnaire.Proofs.Qualification.Reading
import Questionnaire.Proofs.Qualification.Token
import Questionnaire.Proofs.Results
import Questionnaire.Proofs.Session.Acceptance
import Questionnaire.Proofs.Session.Answering
import Questionnaire.Proofs.Session.Completion
import Questionnaire.Proofs.Session.Dangling
import Questionnaire.Proofs.Session.Delay
import Questionnaire.Proofs.Session.Delivery
import Questionnaire.Proofs.Session.Field
import Questionnaire.Proofs.Session.Lock
import Questionnaire.Proofs.Session.Navigation
import Questionnaire.Proofs.Session.Path
import Questionnaire.Proofs.Session.Place
import Questionnaire.Proofs.Session.Refusal
import Questionnaire.Proofs.Session.Required
import Questionnaire.Proofs.Session.Run
import Questionnaire.Proofs.Session.Step
import Questionnaire.Proofs.Session.Store
import Questionnaire.Proofs.Session.Verdict
import Questionnaire.Proofs.Session.Walk
import Questionnaire.Proofs.Submission.Payload
import Questionnaire.Proofs.Submission.Url
import Questionnaire.Proofs.Text.Bytes
import Questionnaire.Proofs.Text.LowerCase
import Questionnaire.Proofs.Text.Pattern
import Questionnaire.Proofs.Text.Slug
import Questionnaire.Proofs.Text.SlugOfName
import Questionnaire.Proofs.Text.Split
