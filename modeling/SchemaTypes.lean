import SchemaTypes.Extension.Index
import SchemaTypes.Schema
import SchemaTypes.Json.Document
import SchemaTypes.Json.Skip
import SchemaTypes.Json.Literal
import SchemaTypes.Json.Numeral
import SchemaTypes.Json.Reader
import SchemaTypes.Json.Compact
import SchemaTypes.Text.CamelCase
import SchemaTypes.Table
import SchemaTypes.Text.Blank
import SchemaTypes.Text.Alphanumeric
import SchemaTypes.Text.LetterCase
import SchemaTypes.Text.Visible
import SchemaTypes.Declaration.Basic
import SchemaTypes.Declaration.Collect
import SchemaTypes.Declaration.Order
import SchemaTypes.Failure
import SchemaTypes.Generation.Basic
import SchemaTypes.CommandLine.Arguments
import SchemaTypes.CommandLine.Run
import SchemaTypes.Main
import SchemaTypes.Session
import SchemaTypes.Files.Tree
import SchemaTypes.Proofs.Files.Tree
import SchemaTypes.Proofs.Files.Output
import SchemaTypes.Proofs.Scan.Plain
import SchemaTypes.Proofs.Scan.Header
import SchemaTypes.Proofs.Scan.Reading
import SchemaTypes.Proofs.Scan.State
import SchemaTypes.Proofs.Scan.Refinement
import SchemaTypes.Proofs.Scan.Passage
import SchemaTypes.Proofs.Scan.Neutral
import SchemaTypes.Proofs.Scan.Balanced
import SchemaTypes.Proofs.Scan.Literal
import SchemaTypes.Proofs.Scan.Comment
import SchemaTypes.Proofs.Scan.Yield
import SchemaTypes.Proofs.Text.Names
import SchemaTypes.Proofs.Text.Trim
import SchemaTypes.Proofs.Table
import SchemaTypes.Proofs.Declaration.Resolve
import SchemaTypes.Proofs.Declaration.Order
import SchemaTypes.Proofs.Declaration.Sites
import SchemaTypes.Proofs.Declaration.Sound
import SchemaTypes.Proofs.Extension.Spans
import SchemaTypes.Proofs.Extension.Pieces
import SchemaTypes.Proofs.Generation.Block
import SchemaTypes.Proofs.Generation.Output
import SchemaTypes.Proofs.Generation.WellBracketed
import SchemaTypes.Proofs.Generation.Layout
import SchemaTypes.Proofs.Generation.Retention
import SchemaTypes.Proofs.Generation.Distinct
import SchemaTypes.Proofs.Declaration.Listing
import SchemaTypes.Proofs.Declaration.Precedence
import SchemaTypes.Proofs.Session
import SchemaTypes.Proofs.Declaration.Closed
import SchemaTypes.Proofs.Declaration.Members
import SchemaTypes.Proofs.Declaration.Origins
import SchemaTypes.Proofs.Declaration.Expression
import SchemaTypes.Proofs.Generation.References
import SchemaTypes.Proofs.Generation.Outcome
import SchemaTypes.Proofs.Generation.Lines
import SchemaTypes.Proofs.Text.Lines
import SchemaTypes.Proofs.Json.Characters
import SchemaTypes.Proofs.Generation.Module
import SchemaTypes.Proofs.Scan.Bytes
import SchemaTypes.Proofs.Extension.Cut
import SchemaTypes.Proofs.Extension.Imports
import SchemaTypes.Proofs.Extension.Extensible
import SchemaTypes.Proofs.Json.Outcome
import SchemaTypes.Proofs.Json.Reading
import SchemaTypes.Proofs.Generation.Independence
import SchemaTypes.Proofs.Generation.Initializers
import SchemaTypes.Proofs.Generation.Lists
import SchemaTypes.Proofs.Generation.Parts
import SchemaTypes.Proofs.Generation.Styles
import SchemaTypes.Proofs.Generation.ReadOnly
import SchemaTypes.Proofs.Generation.Bases
import SchemaTypes.Proofs.Generation.Description
import SchemaTypes.Proofs.CommandLine.Layers
import SchemaTypes.Proofs.Text.Digits
import SchemaTypes.Proofs.Generation.Digits
import SchemaTypes.Proofs.Json.Quoting
import SchemaTypes.Proofs.Generation.PropertyNames
