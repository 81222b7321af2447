import StructSchema.Unicode.Letter
import StructSchema.Unicode.Number
import StructSchema.Unicode.WhiteSpace
import StructSchema.Unicode.Case
import StructSchema.Unicode.Visible
import StructSchema.Text.Position
import StructSchema.Text.Trim
import StructSchema.Text.Quoted
import StructSchema.Text.Visible
import StructSchema.Text.SnakeCase
import StructSchema.Error
import StructSchema.Token.Lexeme
import StructSchema.Token.Lexer
import StructSchema.Token.Lexeme.Grammar
import StructSchema.Text.Cursor
import StructSchema.Token.Stream
import StructSchema.Schema.Parser
import StructSchema.Conversion
import StructSchema.CommandLine.Machine
import StructSchema.CommandLine.Run
import StructSchema.Main
import StructSchema.Proofs.Text.Trimming
import StructSchema.Proofs.Text.Lines
import StructSchema.Proofs.Text.SnakeCasing
import StructSchema.Proofs.Unicode.CaseTables
import StructSchema.Proofs.Text.WordBreaks
import StructSchema.Proofs.Text.Searching
import StructSchema.Proofs.Text.ByteOffsets
import StructSchema.Proofs.Text.Moving
import StructSchema.Proofs.Token.Splitting
import StructSchema.Proofs.Token.Placing
import StructSchema.Proofs.Token.Spans
import StructSchema.Proofs.Schema.SourceTypes
import StructSchema.Proofs.Schema.Grammar
import StructSchema.Proofs.Schema.Parsing
import StructSchema.Proofs.Schema.Lines
import StructSchema.Proofs.Schema.WellFormed
import StructSchema.Proofs.Schema.Source
import StructSchema.Proofs.Render.Retagging
import StructSchema.Proofs.Render.TagEntries
import StructSchema.Proofs.Render.Normalizing
import StructSchema.Proofs.Render.Outlines
import StructSchema.Proofs.Schema.Concatenation
import StructSchema.Proofs.Json.Grammar
import StructSchema.Proofs.Json.Printing
import StructSchema.Proofs.Schema.Rejection
import StructSchema.Proofs.CommandLine.Options
import StructSchema.Proofs.CommandLine.FileSystem
import StructSchema.Proofs.CommandLine.Runs
import StructSchema.Proofs.Render.Description
import StructSchema.Proofs.Render.SpacedTags
import StructSchema.Proofs.Render.TagRuns
import StructSchema.Proofs.Render.Tagging
import StructSchema.Proofs.Render.MessageNames
import StructSchema.Proofs.Token.WholeLines
import StructSchema.Proofs.Token.Refusal
import StructSchema.Proofs.Token.Scanning
import StructSchema.Proofs.Token.Spacing
import StructSchema.Proofs.Token.Layout
import StructSchema.Proofs.Token.Delivery
import StructSchema.Proofs.Schema.Trivia
import StructSchema.Proofs.Schema.Reading
import StructSchema.Proofs.Schema.LineEndings
import StructSchema.Proofs.Schema.BlankLines
import StructSchema.Proofs.Schema.Respelling
