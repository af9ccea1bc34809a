import CelTree.Literal.Basic
import CelTree.Render.Literal
import CelTree.Render.Normalized
import CelTree.Expr.Ids
import CelTree.Expr.Equality
import CelTree.IdMap
import CelTree.Options
import CelTree.SourceInfo
import CelTree.Builder.Operation
import CelTree.Plan.Force
import CelTree.Session.Run
import CelTree.Render.Writer
import CelTree.Json.Reader
import CelTree.Json.Codec
import CelTree.Proofs.Plan.Stepwise
import CelTree.Proofs.Plan.Unexpand
import CelTree.Proofs.Session.Conservation
import CelTree.Proofs.Session.Records
import CelTree.Proofs.Evaluation.Basic
import CelTree.Proofs.Evaluation.MacroMeaning
import CelTree.Proofs.Builder.Positions
import CelTree.Proofs.Session.Positions
import CelTree.Proofs.Builder.Explanation
import CelTree.Proofs.Session.Explanation
import CelTree.Proofs.Render.Quoted
import CelTree.Proofs.Double.ReadBack
import CelTree.Proofs.Double.Characters
import CelTree.Proofs.Render.Layout
import CelTree.Proofs.Expr.WellNamed
import CelTree.Proofs.Render.Reading
import CelTree.Proofs.Render.Words
import CelTree.Proofs.Render.Injective
import CelTree.Proofs.Builder.Unrecorded
import CelTree.Proofs.Session.Unrecorded
import CelTree.Proofs.Evaluation.Hygiene
import CelTree.Proofs.Render.QuotedBody
import CelTree.Proofs.Render.ReadBack
import CelTree.Proofs.Expr.Elements
import CelTree.Proofs.Render.Adornments
import CelTree.Proofs.Render.Normalized
import CelTree.Proofs.Render.Renormalized
import CelTree.Proofs.Render.Characters
import CelTree.Proofs.Render.Compositional
import CelTree.Proofs.Builder.Translation
import CelTree.Proofs.Plan.Translation
import CelTree.Proofs.Expr.HeapOrder
import CelTree.Proofs.Session.HeapOrder
import CelTree.Proofs.Literal.Integer
import CelTree.Proofs.Plan.Closure
import CelTree.Proofs.Session.WithoutMacros
import CelTree.Proofs.Json.RoundTrip
import CelTree.Proofs.Builder.Recognition
import CelTree.Proofs.Plan.Refusal
import CelTree.Proofs.Literal.Fragment
import CelTree.Proofs.Plan.Numbering
import CelTree.Proofs.Render.QuotedCharacters
import CelTree.Proofs.Builder.Totality
import CelTree.Proofs.Render.Balanced
import CelTree.Proofs.Render.OneLine
