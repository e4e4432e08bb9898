import Topiary.Text.Blank
import Topiary.Text.Quoted
import Topiary.Json.Reader
import Topiary.Selector.Equation
import Topiary.Selector.Sequence
import Topiary.Tree.Document
import Topiary.Query.Match
import Topiary.Markup.Render
import Topiary.Number.Duration
import Topiary.Synthesis.Materialize
import Topiary.Synthesis.Settings
import Topiary.Synthesis.Engine
import Topiary.Markup.Token
import Topiary.Markup.Builder
import Topiary.Markup.Parse
import Topiary.Sheet.Read
import Topiary.Main
import Topiary.Proofs.Synthesis.Lists
import Topiary.Proofs.Synthesis.Siblings
import Topiary.Proofs.Synthesis.Settlement
import Topiary.Proofs.Synthesis.Confluence
import Topiary.Proofs.Synthesis.Failures
import Topiary.Proofs.Query.Meaning
import Topiary.Proofs.Tree.Consistency
import Topiary.Proofs.Tree.Traversal
import Topiary.Proofs.Selector.Grouping
import Topiary.Proofs.Synthesis.Accounts
import Topiary.Proofs.Synthesis.Persistence
import Topiary.Proofs.Synthesis.Batches
import Topiary.Proofs.Synthesis.Marks
import Topiary.Proofs.Sheet.Cycles
import Topiary.Proofs.Synthesis.Skips
import Topiary.Proofs.Synthesis.Refusals
import Topiary.Proofs.Synthesis.Contents
import Topiary.Proofs.Synthesis.FanOut
import Topiary.Proofs.Synthesis.Margins
import Topiary.Proofs.Selector.Reassembly
import Topiary.Proofs.Query.RoundTrip
import Topiary.Proofs.Query.Positions
import Topiary.Proofs.Query.Complement
import Topiary.Proofs.Query.Spacing
import Topiary.Proofs.Synthesis.Models
import Topiary.Proofs.Tree.Duplication
import Topiary.Proofs.Tree.Texts
import Topiary.Proofs.Markup.Layout
import Topiary.Proofs.Markup.Unambiguous
import Topiary.Proofs.Markup.Graft
import Topiary.Proofs.Synthesis.Decoding
import Topiary.Proofs.Query.Combinators
import Topiary.Proofs.Selector.Priority
import Topiary.Proofs.Selector.Captures
import Topiary.Proofs.Query.Shape
import Topiary.Proofs.Tree.Classes
