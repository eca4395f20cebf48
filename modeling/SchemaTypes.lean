import SchemaTypes.ArrayLiteral
import SchemaTypes.CommandLine
import SchemaTypes.CommandLine.Argument
import SchemaTypes.CommandLine.Flag
import SchemaTypes.CommandLine.Help
import SchemaTypes.Date
import SchemaTypes.Declaration
import SchemaTypes.Declaration.Build
import SchemaTypes.Declaration.Collision
import SchemaTypes.Settings.Source
import SchemaTypes.Introspection.Query
import SchemaTypes.FileSystem
import SchemaTypes.FileSystem.Path
import SchemaTypes.Generation
import SchemaTypes.Introspection
import SchemaTypes.Introspection.Error
import SchemaTypes.Log
import SchemaTypes.Main
import SchemaTypes.Number.Binary64
import SchemaTypes.Number.Numeral
import SchemaTypes.Run
import SchemaTypes.Schema
import SchemaTypes.Session
import SchemaTypes.Settings
import SchemaTypes.Text.Base64
import SchemaTypes.Text.Character
import SchemaTypes.Text.Display
import SchemaTypes.Text.Line
import SchemaTypes.Text.LowerCase
import SchemaTypes.Text.Printable
import SchemaTypes.Text.Utf8
import SchemaTypes.Text.Utf8.Chunk
import SchemaTypes.Text.Wrap
import SchemaTypes.TypeMap
import SchemaTypes.TypeScript.Render
import SchemaTypes.Validation
import SchemaTypes.Validation.Assignment
import SchemaTypes.Validation.DeclarationRecords
import SchemaTypes.Validation.SchemaRecords
import SchemaTypes.Value
import SchemaTypes.Yaml.Cursor
import SchemaTypes.Yaml.Object
import SchemaTypes.Yaml.Fault
import SchemaTypes.Yaml.Graph
import SchemaTypes.Yaml.Graph.Grammar
import SchemaTypes.Yaml.Graph.Merge
import SchemaTypes.Yaml.Property
import SchemaTypes.Yaml.Scalar
import SchemaTypes.Yaml.ScalarText.Block
import SchemaTypes.Yaml.ScalarText.Plain
import SchemaTypes.Yaml.ScalarText.Quoted
import SchemaTypes.Yaml.Source
import SchemaTypes.Yaml.Tag
import SchemaTypes.Yaml.Token
import SchemaTypes.Yaml.Token.Stream
import SchemaTypes.Proofs.Text.SelfDelimiting
import SchemaTypes.Proofs.TypeScript.LiteralReader
import SchemaTypes.Proofs.TypeScript.Key
import SchemaTypes.Proofs.TypeScript.Declarations
import SchemaTypes.Proofs.Generation.Outline
import SchemaTypes.Proofs.ArrayLiteral.Written
import SchemaTypes.Proofs.Introspection.EnumLabels
import SchemaTypes.Proofs.Session.Leak
import SchemaTypes.Proofs.FileSystem.Contents
import SchemaTypes.Proofs.Generation.Delivery
import SchemaTypes.Proofs.Run.Work
import SchemaTypes.Proofs.Run.Messages
import SchemaTypes.Proofs.Run.Failing
import SchemaTypes.Proofs.Run.Outcome
import SchemaTypes.Proofs.FileSystem.Again
import SchemaTypes.Proofs.Session.Use
import SchemaTypes.Proofs.Text.Utf8
import SchemaTypes.Proofs.Generation.Effects
import SchemaTypes.Proofs.Introspection.Catalogue
import SchemaTypes.Proofs.Introspection.Unusable
import SchemaTypes.Proofs.Introspection.Failures
import SchemaTypes.Proofs.Declaration.Collision
import SchemaTypes.Proofs.Declaration.Content
import SchemaTypes.Proofs.TypeScript.CommentEnd
import SchemaTypes.Proofs.TypeScript.Token
import SchemaTypes.Proofs.TypeScript.Reads
import SchemaTypes.Proofs.Declaration.TypeForm
import SchemaTypes.Proofs.TypeScript.FileTokens
import SchemaTypes.Proofs.Declaration.PrintableNames
import SchemaTypes.Proofs.Declaration.References
import SchemaTypes.Proofs.CommandLine.Given
import SchemaTypes.Proofs.Settings.Choice
import SchemaTypes.Proofs.Run.Sourced
import SchemaTypes.Proofs.Text.Replace
import SchemaTypes.Proofs.TypeScript.WrittenLiterals
import SchemaTypes.Proofs.TypeScript.MemberNames
import SchemaTypes.Proofs.Declaration.CollisionReport
import SchemaTypes.Proofs.Text.LinesOf
import SchemaTypes.Proofs.TypeScript.Documentation
import SchemaTypes.Proofs.Declaration.Place
import SchemaTypes.Proofs.Declaration.UnmappedTypes
import SchemaTypes.Proofs.Declaration.Rearranged
import SchemaTypes.Proofs.TypeScript.Paragraphs
import SchemaTypes.Proofs.Declaration.Locality
import SchemaTypes.Proofs.TypeScript.Spacing
import SchemaTypes.Proofs.FileSystem.ReadBack
import SchemaTypes.Proofs.Generation.LineEnds
import SchemaTypes.Proofs.ArrayLiteral.Separators
import SchemaTypes.Proofs.Settings.Accepted
import SchemaTypes.Proofs.Validation.Projection
import SchemaTypes.Proofs.Validation.Assignment
import SchemaTypes.Proofs.Settings.Failures
