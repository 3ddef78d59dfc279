import RoutePattern.Diagnostics
import RoutePattern.Main
import RoutePattern.Number.Reading
import RoutePattern.Proofs.Expr.Running
import RoutePattern.Proofs.Expr.Segment
import RoutePattern.Proofs.Expr.Set
import RoutePattern.Proofs.Expr.Move
import RoutePattern.Proofs.Expr.Nesting
import RoutePattern.Proofs.Expr.Stretch
import RoutePattern.Proofs.Pattern.Source
import RoutePattern.Proofs.Pattern.Groups
import RoutePattern.Proofs.Expr.Place
import RoutePattern.Proofs.Expr.Passage
import RoutePattern.Proofs.Expr.Following
import RoutePattern.Proofs.Expr.Demand
import RoutePattern.Proofs.Pattern.Readable
import RoutePattern.Proofs.Expr.Searching
import RoutePattern.Proofs.Pattern.Division
import RoutePattern.Proofs.Pattern.Params
import RoutePattern.Proofs.Pattern.Rebuild
import RoutePattern.Proofs.Expr.Regular
import RoutePattern.Proofs.Expr.Finding
import RoutePattern.Proofs.Text.Case
import RoutePattern.Proofs.Text.CaseSets
import RoutePattern.Proofs.Expr.Opening
import RoutePattern.Proofs.Expr.Plain
import RoutePattern.Proofs.Pattern.Spelling
import RoutePattern.Proofs.Pattern.Written
import RoutePattern.Proofs.Pattern.Delimiters
import RoutePattern.Proofs.Pattern.Segments
import RoutePattern.Proofs.Pattern.Returned
import RoutePattern.Proofs.Pattern.Encoded
import RoutePattern.Proofs.Lexeme.Balanced
import RoutePattern.Proofs.Lexeme.Rendering
import RoutePattern.Proofs.Part.Stepping
import RoutePattern.Proofs.Part.Sentence
import RoutePattern.Proofs.Part.Verdict
import RoutePattern.Proofs.Part.Conserved
import RoutePattern.Proofs.Part.Normal
import RoutePattern.Proofs.Pattern.FirstMatch
import RoutePattern.Proofs.Pattern.Parse
import RoutePattern.Proofs.Pattern.Repetitions
import RoutePattern.Proofs.Expr.Embedding
import RoutePattern.Proofs.Expr.Containment
import RoutePattern.Proofs.Pattern.Accepted
import RoutePattern.Proofs.Expr.Easing
import RoutePattern.Proofs.Pattern.Boundary
import RoutePattern.Proofs.Pattern.Trailing
import RoutePattern.Proofs.Pattern.Grouping
import RoutePattern.Proofs.Pattern.Relaxed
import RoutePattern.Proofs.Pattern.Captured
import RoutePattern.Proofs.Pattern.Standard
import RoutePattern.Proofs.Expr.Named
import RoutePattern.Proofs.Pattern.Inline
import RoutePattern.Proofs.Expr.Caseless
import RoutePattern.Proofs.Expr.CaselessReader
import RoutePattern.Proofs.Table.Checked
import RoutePattern.Proofs.Part.Default
import RoutePattern.Proofs.Pattern.Outputs
import RoutePattern.Proofs.Pattern.Satisfied
import RoutePattern.Proofs.Expr.Everywhere
import RoutePattern.Proofs.Expr.Widening
import RoutePattern.Proofs.Pattern.Literal
import RoutePattern.Proofs.Pattern.Insensitive
import RoutePattern.Proofs.Pattern.Continued
import RoutePattern.Proofs.Pattern.Sink
import RoutePattern.Proofs.Expr.Vacancy
import RoutePattern.Proofs.Pattern.Union
import RoutePattern.Proofs.Pattern.Extracted
import RoutePattern.Proofs.Command.Building
import RoutePattern.Proofs.Command.Answers
import RoutePattern.Proofs.Table.Ranges
import RoutePattern.Proofs.Lexeme.Joined
import RoutePattern.Proofs.Lexeme.Defect
import RoutePattern.Proofs.Lexeme.Rerun
import RoutePattern.Proofs.Part.Settling
import RoutePattern.Proofs.Part.Noted
import RoutePattern.Proofs.Table.Caret
