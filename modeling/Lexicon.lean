import Lexicon.Command.Arguments
import Lexicon.Command.File
import Lexicon.Command.Folder
import Lexicon.Command.Run
import Lexicon.Crash
import Lexicon.Diagnostic
import Lexicon.Event
import Lexicon.Failure
import Lexicon.Main
import Lexicon.Pattern.Basic
import Lexicon.Pattern.CharSet
import Lexicon.Pattern.Footprint
import Lexicon.Pattern.Match
import Lexicon.Pattern.Piece
import Lexicon.Pattern.Plan
import Lexicon.Pattern.PropertyName
import Lexicon.Pattern.Reading
import Lexicon.Pattern.Reading.Bracket
import Lexicon.Pattern.Reading.Counting
import Lexicon.Pattern.Reading.Escape
import Lexicon.Pattern.Reading.Fault
import Lexicon.Pattern.Reading.Flags
import Lexicon.Pattern.Reading.GroupHead
import Lexicon.Pattern.Thread
import Lexicon.Proofs.Lexeme.Competition
import Lexicon.Proofs.Lexeme.Extent
import Lexicon.Proofs.Lexeme.Longest
import Lexicon.Proofs.Lexeme.Segment
import Lexicon.Proofs.Lexeme.Shape
import Lexicon.Proofs.Lexeme.Table
import Lexicon.Proofs.Pattern.Alternatives
import Lexicon.Proofs.Pattern.Description
import Lexicon.Proofs.Pattern.Greedy
import Lexicon.Proofs.Pattern.Preference
import Lexicon.Proofs.Pattern.Sequence
import Lexicon.Proofs.Scan.Cut
import Lexicon.Proofs.Scan.Lossless
import Lexicon.Proofs.Scan.Matches
import Lexicon.Proofs.Scan.Munch
import Lexicon.Proofs.Scan.Segments
import Lexicon.Proofs.Source.Newlines
import Lexicon.Proofs.Source.Tracking
import Lexicon.Scan
import Lexicon.Source.Line
import Lexicon.Source.LineTracker
import Lexicon.Text.Alphabetic
import Lexicon.Text.Blank
import Lexicon.Text.ByteSequence
import Lexicon.Text.Category
import Lexicon.Text.CodeRanges
import Lexicon.Text.CodeTable
import Lexicon.Text.Fold
import Lexicon.Text.Hidden
import Lexicon.Text.Numeric
import Lexicon.Text.Property
import Lexicon.Text.Quoted
import Lexicon.Text.Script
import Lexicon.Text.Trait
import Lexicon.Text.Width
import Lexicon.Text.Word
import Lexicon.Token.Basic
import Lexicon.Token.Kind
import Lexicon.Vocabulary.Basic
import Lexicon.Vocabulary.Standard
import Lexicon.Proofs.Lexeme.Neighbours
import Lexicon.Proofs.Scan.Spacing
import Lexicon.Proofs.Scan.Concatenation
import Lexicon.Proofs.Pattern.Names
import Lexicon.Proofs.Reading.Inside
import Lexicon.Proofs.Reading.Group
import Lexicon.Proofs.Vocabulary.Combined
import Lexicon.Proofs.Vocabulary.Declared
import Lexicon.Proofs.Vocabulary.Classified
import Lexicon.Proofs.Command.Outcome
import Lexicon.Proofs.Diagnostic.Caret
import Lexicon.Proofs.Scan.Priority
import Lexicon.Proofs.Lexeme.Literal
import Lexicon.Proofs.Scan.Literals
import Lexicon.Proofs.Scan.Acceptance
import Lexicon.Proofs.Command.Listing
import Lexicon.Proofs.Diagnostic.Rendering
import Lexicon.Proofs.Pattern.Moves
import Lexicon.Proofs.Pattern.Soundness
import Lexicon.Proofs.Pattern.Completeness
import Lexicon.Proofs.Reading.Anchored
import Lexicon.Proofs.Vocabulary.Verdict
import Lexicon.Proofs.Vocabulary.Recognised
