import StyleInline.Program.Main
import StyleInline.Proofs.ElementTree.Navigation
import StyleInline.Proofs.Selector.Chain
import StyleInline.Proofs.Declaration.RoundTrip
import StyleInline.Proofs.Document.Attribute
import StyleInline.Proofs.Stylesheet.Ranking
import StyleInline.Proofs.Styling.Cascade
import StyleInline.Proofs.Outcome
import StyleInline.Proofs.Selector.AttributeTest
import StyleInline.Proofs.Selector.Reading
import StyleInline.Proofs.Selector.Specificity
import StyleInline.Proofs.Declaration.Longhand
import StyleInline.Proofs.Stylesheet.Outline
import StyleInline.Proofs.Stylesheet.Reparse
import StyleInline.Proofs.Styling.Idempotent
import StyleInline.Proofs.Stylesheet.Gathering
import StyleInline.Proofs.Stylesheet.BlockComment
import StyleInline.Proofs.Stylesheet.Concatenation
import StyleInline.Proofs.Document.Printing
import StyleInline.Proofs.Filter.Sharing
import StyleInline.Proofs.Styling.Frame
import StyleInline.Proofs.Stylesheet.Exchange
import StyleInline.Proofs.Stylesheet.SourceOrder
import StyleInline.Proofs.Styling.Skeleton
import StyleInline.Proofs.Stylesheet.MemoHistory
import StyleInline.Proofs.Styling.Pass
import StyleInline.Proofs.Declaration.Expansion
import StyleInline.Proofs.Stylesheet.DeclarationShape
import StyleInline.Proofs.Selector.QuotedValue
import StyleInline.Proofs.Selector.Group
import StyleInline.Proofs.Styling.Dropped
import StyleInline.Proofs.Declaration.Expanded
import StyleInline.Proofs.Declaration.Built
import StyleInline.Proofs.Forest.Operations
import StyleInline.Proofs.Document.Grafting
import StyleInline.Proofs.Document.Traversal
import StyleInline.Proofs.Document.Storing
import StyleInline.Proofs.Stylesheet.SingleBranch
import StyleInline.Proofs.Document.Escape
import StyleInline.Proofs.Declaration.FontByPosition
