import FlatStyle.Cursor
import FlatStyle.Main
import FlatStyle.Proofs.Declaration.Vocabulary
import FlatStyle.Proofs.Resolution.Inline
import FlatStyle.Proofs.Resolution.Latest
import FlatStyle.Proofs.Resolution.Styles
import FlatStyle.Proofs.Stylesheet.Discovery
import FlatStyle.Proofs.Stylesheet.Printing
import FlatStyle.Proofs.Declaration.Groups
import FlatStyle.Proofs.Declaration.Order
import FlatStyle.Proofs.Text.Folding
import FlatStyle.Proofs.Stylesheet.Folding
import FlatStyle.Proofs.Declaration.Folding
import FlatStyle.Proofs.Resolution.Folding
import FlatStyle.Proofs.Grammar.Reread
import FlatStyle.Proofs.Declaration.NormalForm
import FlatStyle.Proofs.Resolution.Surroundings
import FlatStyle.Proofs.Session.History
import FlatStyle.Proofs.Session.Rules
import FlatStyle.Proofs.Session.Warnings
import FlatStyle.Proofs.Resolution.Capitals
import FlatStyle.Proofs.Document.Edits
import FlatStyle.Proofs.Report.Printing
import FlatStyle.Proofs.Grammar.Keyword
import FlatStyle.Proofs.Property.Consumption
import FlatStyle.Proofs.Property.FontShorthand
import FlatStyle.Proofs.Property.Border
import FlatStyle.Proofs.Property.ListStyle
import FlatStyle.Proofs.Property.FamilyList
import FlatStyle.Proofs.Stylesheet.Scanning
import FlatStyle.Proofs.Declaration.Unread
import FlatStyle.Proofs.Property.Decoration
import FlatStyle.Proofs.Grammar.Spacing
import FlatStyle.Proofs.Declaration.Spacing
import FlatStyle.Proofs.Stylesheet.Seam
import FlatStyle.Proofs.Stylesheet.ShortBlock
import FlatStyle.Proofs.Stylesheet.Offsets
import FlatStyle.Proofs.Selector.Word
import FlatStyle.Proofs.Resolution.Unspelled
import FlatStyle.Proofs.Cursor.Offsets
import FlatStyle.Proofs.Declaration.Joining
import FlatStyle.Proofs.Grammar.TableOrder
import FlatStyle.Proofs.Cursor.Reached
import FlatStyle.Proofs.Cursor.Amount
import FlatStyle.Proofs.Property.Rounds
import FlatStyle.Proofs.Grammar.Loop
