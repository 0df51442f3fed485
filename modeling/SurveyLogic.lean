import SurveyLogic.Engine.Document
import SurveyLogic.Expr.Canonical
import SurveyLogic.Json.Reader
import SurveyLogic.Survey.Document
import SurveyLogic.Syntax.References
import SurveyLogic.Validation.Defaults
import SurveyLogic.Validation.Report
import SurveyLogic.Proofs.Syntax.Reading
import SurveyLogic.Proofs.Syntax.Rendering
import SurveyLogic.Proofs.Syntax.Grammar
import SurveyLogic.Proofs.Syntax.Depth
import SurveyLogic.Proofs.Syntax.Offence
import SurveyLogic.Proofs.Engine.Transparency
import SurveyLogic.Proofs.Engine.Silence
import SurveyLogic.Proofs.Session.NextStep
import SurveyLogic.Proofs.Evaluation.Coincidence
import SurveyLogic.Proofs.Engine.Outcome
import SurveyLogic.Proofs.Evaluation.Fault
import SurveyLogic.Proofs.Text.Lower
import SurveyLogic.Proofs.Engine.Check
import SurveyLogic.Proofs.Session.Query
import SurveyLogic.Proofs.Session.Shown
import SurveyLogic.Proofs.Session.Derived
import SurveyLogic.Proofs.Session.History
import SurveyLogic.Proofs.Session.Equations
import SurveyLogic.Proofs.Cache.Queue
import SurveyLogic.Proofs.Validation.Pages
import SurveyLogic.Proofs.Syntax.Sketch
import SurveyLogic.Proofs.Token.Boundary
import SurveyLogic.Proofs.Engine.Padding
import SurveyLogic.Proofs.Token.Written
import SurveyLogic.Proofs.Number.Digits
import SurveyLogic.Proofs.Number.Shortest
import SurveyLogic.Proofs.Number.Text
import SurveyLogic.Proofs.Json.Text
import SurveyLogic.Proofs.Expr.Canonical
import SurveyLogic.Proofs.Value.RoundTrip
import SurveyLogic.Proofs.Survey.RoundTrip
import SurveyLogic.Proofs.Number.Comparison
import SurveyLogic.Proofs.Number.Parts
import SurveyLogic.Proofs.Number.Reading
import SurveyLogic.Proofs.Value.Order
import SurveyLogic.Proofs.Evaluation.Trace
import SurveyLogic.Proofs.Token.Word
import SurveyLogic.Proofs.Syntax.Callees
import SurveyLogic.Proofs.Syntax.Embedding
import SurveyLogic.Proofs.Token.Separation
import SurveyLogic.Proofs.Engine.Calling
import SurveyLogic.Proofs.Syntax.Limit
import SurveyLogic.Proofs.Syntax.Subtraction
import SurveyLogic.Proofs.Syntax.References
import SurveyLogic.Proofs.Engine.Isolation
import SurveyLogic.Proofs.Cache.Residency
import SurveyLogic.Proofs.Evaluation.Path
import SurveyLogic.Proofs.Validation.Question
import SurveyLogic.Proofs.Validation.Walks
import SurveyLogic.Proofs.Text.Search
import SurveyLogic.Proofs.Library.Computed
import SurveyLogic.Proofs.Library.Lists
import SurveyLogic.Proofs.Number.Whole
import SurveyLogic.Proofs.Library.Positions
import SurveyLogic.Proofs.Calendar.Difference
import SurveyLogic.Proofs.Library.Dates
import SurveyLogic.Proofs.Number.Order
import SurveyLogic.Proofs.Library.Aggregates
import SurveyLogic.Proofs.Pattern.Search
import SurveyLogic.Proofs.Pattern.Run
import SurveyLogic.Proofs.Validation.Email
import SurveyLogic.Proofs.Token.Position
import SurveyLogic.Proofs.Syntax.Position
