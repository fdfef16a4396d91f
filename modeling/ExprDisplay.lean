import ExprDisplay.Expr.Equality
import ExprDisplay.Json.Reader
import ExprDisplay.Main
import ExprDisplay.Node.Walk
import ExprDisplay.Proofs.Node.Limit
import ExprDisplay.Proofs.Node.Standing
import ExprDisplay.Proofs.Node.Refinement
import ExprDisplay.Proofs.Text.Template
import ExprDisplay.Proofs.Expr.Cut
import ExprDisplay.Proofs.Expr.LastLevel
import ExprDisplay.Proofs.Node.DepthBound
import ExprDisplay.Proofs.Node.LiteralText
import ExprDisplay.Proofs.Value.NestedLiteral
import ExprDisplay.Proofs.Ty.Skeleton
import ExprDisplay.Proofs.Node.LineFormats
import ExprDisplay.Proofs.Node.JsonRoundTrip
import ExprDisplay.Proofs.Node.Tags
import ExprDisplay.Proofs.Node.Context
import ExprDisplay.Proofs.Expr.Everywhere
import ExprDisplay.Proofs.Node.Unseen
import ExprDisplay.Proofs.Node.Preorder
import ExprDisplay.Proofs.Decimal.Numeral
import ExprDisplay.Proofs.Expr.Mentions
import ExprDisplay.Proofs.Node.LinePerNode
import ExprDisplay.Proofs.Format.Registration
import ExprDisplay.Proofs.Value.Faultless
import ExprDisplay.Proofs.Expr.Counter
import ExprDisplay.Proofs.Grid.Validation
import ExprDisplay.Proofs.Value.Precision
import ExprDisplay.Proofs.Grid.Readable
import ExprDisplay.Proofs.Value.ReadableArray
import ExprDisplay.Proofs.Text.Balanced
import ExprDisplay.Proofs.Value.Balanced
import ExprDisplay.Proofs.Expr.Balanced
import ExprDisplay.Proofs.Node.Guides
import ExprDisplay.Proofs.Node.Connectors
import ExprDisplay.Proofs.Ty.LevelOrder
import ExprDisplay.Proofs.Ty.WellFormed
import ExprDisplay.Proofs.Node.Visits
import ExprDisplay.Proofs.Expr.Invocation
