import QueryGate.Bracket.Render
import QueryGate.Config
import QueryGate.Gate.Basic
import QueryGate.Operation.Standard
import QueryGate.Params.QueryString
import QueryGate.Params.Structured
import QueryGate.Settings.Schema
import QueryGate.Table.Describe
import QueryGate.Proofs.Gate.Pass
import QueryGate.Proofs.Gate.Journal
import QueryGate.Proofs.Gate.Budget
import QueryGate.Proofs.Operation.Name
import QueryGate.Proofs.Rule.Check
import QueryGate.Proofs.Gate.Safety
import QueryGate.Proofs.Gate.Outcome
import QueryGate.Proofs.Binary64.Literal
import QueryGate.Proofs.Binary64.Rounding
import QueryGate.Proofs.Binary64.RoundTrip
import QueryGate.Proofs.Number
import QueryGate.Proofs.Bracket.RoundTrip
import QueryGate.Proofs.Bracket.Grammar
import QueryGate.Proofs.OrderedMap
import QueryGate.Proofs.Table.Request
import QueryGate.Proofs.Gate.Frame
import QueryGate.Proofs.Table.Steps
import QueryGate.Proofs.Gate.Declared
import QueryGate.Proofs.Table.Restricted
import QueryGate.Proofs.Gate.Skipped
import QueryGate.Proofs.PageInfo
import QueryGate.Proofs.Table.Page
import QueryGate.Proofs.Table.Confined
import QueryGate.Proofs.Settings
import QueryGate.Proofs.Table.Paging
import QueryGate.Proofs.Table.Repeat
import QueryGate.Proofs.Table.Interleave
import QueryGate.Proofs.Params.QueryString
import QueryGate.Proofs.Table.Narrowing
import QueryGate.Proofs.Table.Precedence
import QueryGate.Proofs.Bracket.Inferred
import QueryGate.Proofs.Rule.Schema
import QueryGate.Proofs.Binary64.Monotone
import QueryGate.Proofs.Binary64.Nearest
import QueryGate.Proofs.Table.Worded
import QueryGate.Proofs.Rule.Failure
import QueryGate.Proofs.Number.Order
import QueryGate.Proofs.Number.Verdict
import QueryGate.Proofs.Text.Lowercase
import QueryGate.Proofs.Table.Like
import QueryGate.Proofs.PageInfo.Tiling
import QueryGate.Proofs.Table.Reachable
import QueryGate.Proofs.Binary64.Grammar
import QueryGate.Proofs.Number.Spelled
import QueryGate.Proofs.Params.Undecodable
import QueryGate.Proofs.Table.Trichotomy
import QueryGate.Proofs.Config
import QueryGate.Proofs.Params.Entries
