import RpcBindings.Checkout
import RpcBindings.Command
import RpcBindings.Command.Overload
import RpcBindings.Command.Registration
import RpcBindings.CommandLine
import RpcBindings.CommandLine.Run
import RpcBindings.Config
import RpcBindings.Config.Check
import RpcBindings.Config.Load
import RpcBindings.Config.OfYaml
import RpcBindings.Config.Schema
import RpcBindings.Digest
import RpcBindings.Error
import RpcBindings.FileSystem
import RpcBindings.Files
import RpcBindings.Generation
import RpcBindings.Imports
import RpcBindings.Json
import RpcBindings.Main
import RpcBindings.Model
import RpcBindings.Package
import RpcBindings.Path
import RpcBindings.Record
import RpcBindings.Record.OfSource
import RpcBindings.Render.Basic
import RpcBindings.Render.Command
import RpcBindings.Render.Declaration
import RpcBindings.Render.Link
import RpcBindings.Render.Module
import RpcBindings.Sorted
import RpcBindings.Source.Call
import RpcBindings.Source.Constant
import RpcBindings.Source.File
import RpcBindings.Source.Grammar
import RpcBindings.Source.Kind
import RpcBindings.Source.Node
import RpcBindings.Source.Outline
import RpcBindings.Source.Position
import RpcBindings.Source.Rule
import RpcBindings.Source.Token
import RpcBindings.Template
import RpcBindings.Template.Expression
import RpcBindings.Template.Grammar
import RpcBindings.Template.Lexeme
import RpcBindings.Template.Piece
import RpcBindings.Template.Value
import RpcBindings.Text.Basic
import RpcBindings.Text.Blank
import RpcBindings.Text.CodePoints
import RpcBindings.Text.Digits
import RpcBindings.Text.Identifier
import RpcBindings.Text.Identifier.Table
import RpcBindings.Text.LetterCase
import RpcBindings.Text.LetterCase.Table
import RpcBindings.Text.Lines
import RpcBindings.Text.Literal
import RpcBindings.Text.Naming
import RpcBindings.Text.Prose
import RpcBindings.Text.Visible
import RpcBindings.Text.Visible.Table
import RpcBindings.Text.Wrap
import RpcBindings.TypeExpr
import RpcBindings.TypeExpr.Names
import RpcBindings.TypeExpr.OfSource
import RpcBindings.Yaml.Node
import RpcBindings.Yaml.Scalar
import RpcBindings.Yaml.Spot
import RpcBindings.Yaml.Token
import RpcBindings.Yaml.View
import RpcBindings.Proofs.Fallible
import RpcBindings.Proofs.Resolution
import RpcBindings.Proofs.Choice
import RpcBindings.Proofs.Constructor
import RpcBindings.Proofs.Keywords
import RpcBindings.Proofs.Argument
import RpcBindings.Proofs.Tree
import RpcBindings.Proofs.Registration
import RpcBindings.Proofs.Coverage
import RpcBindings.Proofs.Initialisation
import RpcBindings.Proofs.Consistency
import RpcBindings.Proofs.Exclusion
import RpcBindings.Proofs.FieldNames
import RpcBindings.Proofs.ImportBlock
import RpcBindings.Proofs.References
import RpcBindings.Proofs.Assembly
import RpcBindings.Proofs.ImportClosure
import RpcBindings.Proofs.FileTree
import RpcBindings.Proofs.Route
import RpcBindings.Proofs.Writing
import RpcBindings.Proofs.FailedWrite
import RpcBindings.Proofs.SourceOrder
import RpcBindings.Proofs.UpToDate
import RpcBindings.Proofs.ModelOrder
import RpcBindings.Proofs.Provenance
import RpcBindings.Proofs.Origin
import RpcBindings.Proofs.Exports
import RpcBindings.Proofs.Dissolution
import RpcBindings.Proofs.Effect
import RpcBindings.Proofs.CallOrder
import RpcBindings.Proofs.Optionality
import RpcBindings.Proofs.DefaultValue
import RpcBindings.Proofs.Narrowing
import RpcBindings.Proofs.WrittenType
import RpcBindings.Proofs.Pieces
import RpcBindings.Proofs.Words
import RpcBindings.Proofs.Wrapping
import RpcBindings.Proofs.Paragraph
import RpcBindings.Proofs.Lexical
import RpcBindings.Proofs.Yield
import RpcBindings.Proofs.TypeSyntax
import RpcBindings.Proofs.TypeNode
import RpcBindings.Proofs.KnownTypes
import RpcBindings.Proofs.Nullability
import RpcBindings.Proofs.QuotedText
import RpcBindings.Proofs.BlockText
import RpcBindings.Proofs.LiteralValue
import RpcBindings.Proofs.ConstantValue
import RpcBindings.Proofs.Layout
import RpcBindings.Proofs.Parts
import RpcBindings.Proofs.RecordTree
import RpcBindings.Proofs.Accumulation
import RpcBindings.Proofs.Atoms
import RpcBindings.Proofs.ImportText
import RpcBindings.Proofs.PrintedNames
import RpcBindings.Proofs.Indentation
import RpcBindings.Proofs.ClassTree
import RpcBindings.Proofs.CamelCase
import RpcBindings.Proofs.ConverterKey
import RpcBindings.Proofs.Positions
import RpcBindings.Proofs.Outermost
import RpcBindings.Proofs.CallChain
