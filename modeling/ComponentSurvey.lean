import ComponentSurvey.Tree.Kind
import ComponentSurvey.Tree.Node
import ComponentSurvey.Tree.Walk
import ComponentSurvey.Tree.Cursor
import ComponentSurvey.Tree.Outline
import ComponentSurvey.Text.Blank
import ComponentSurvey.Text.Hex
import ComponentSurvey.Text.CodeRange
import ComponentSurvey.Text.Digit
import ComponentSurvey.Text.WordCharacter
import ComponentSurvey.Text.Words
import ComponentSurvey.Text.CellWidth
import ComponentSurvey.Text.ControlSequence
import ComponentSurvey.Text.Similarity
import ComponentSurvey.Text.Split
import ComponentSurvey.Text.Literal
import ComponentSurvey.Text.Printable
import ComponentSurvey.Text.Quoted
import ComponentSurvey.Text.Search
import ComponentSurvey.Text.Thousands
import ComponentSurvey.Text.Uppercase
import ComponentSurvey.Text.Lowercase
import ComponentSurvey.Text.Utf8
import ComponentSurvey.Project.Path
import ComponentSurvey.Source.Grammar
import ComponentSurvey.Log
import ComponentSurvey.Record
import ComponentSurvey.Function.TypeDescriptor
import ComponentSurvey.Function.Signature
import ComponentSurvey.Component.Props
import ComponentSurvey.Component.Hooks
import ComponentSurvey.Component.Describe
import ComponentSurvey.Component.Wrapper
import ComponentSurvey.Binding
import ComponentSurvey.Import
import ComponentSurvey.Reservations
import ComponentSurvey.Ledger
import ComponentSurvey.Survey
import ComponentSurvey.Json.Value
import ComponentSurvey.Json.Write
import ComponentSurvey.Json.Read
import ComponentSurvey.Json.Records
import ComponentSurvey.Source.ParserCache
import ComponentSurvey.Source.Parser
import ComponentSurvey.Json.Trees
import ComponentSurvey.Project.Wildcard
import ComponentSurvey.Project.FileTree
import ComponentSurvey.Project.Glob
import ComponentSurvey.Project.Selection
import ComponentSurvey.Project.Scan
import ComponentSurvey.Mock.Statement
import ComponentSurvey.Mock.Value
import ComponentSurvey.Console.Color
import ComponentSurvey.Console.Style
import ComponentSurvey.Console.Emoji
import ComponentSurvey.Console.Lexeme
import ComponentSurvey.Console.Literal
import ComponentSurvey.Console.Handler
import ComponentSurvey.Console.Wrap
import ComponentSurvey.Console.Markup
import ComponentSurvey.Console.Layout
import ComponentSurvey.Console.Report
import ComponentSurvey.CommandLine.Arguments
import ComponentSurvey.CommandLine.Run
import ComponentSurvey.Project.Snapshot
import ComponentSurvey.Main
import ComponentSurvey.Proofs.StableOrder
import ComponentSurvey.Proofs.Places
import ComponentSurvey.Proofs.Readable
import ComponentSurvey.Proofs.Winners
import ComponentSurvey.Proofs.Findings
import ComponentSurvey.Proofs.Locality
import ComponentSurvey.Proofs.Sources
import ComponentSurvey.Proofs.Relabel
import ComponentSurvey.Proofs.Comments.Survey
import ComponentSurvey.Proofs.Completion
import ComponentSurvey.Proofs.Document
import ComponentSurvey.Proofs.Decoding
import ComponentSurvey.Proofs.ParserHistory
import ComponentSurvey.Proofs.Destructuring
import ComponentSurvey.Proofs.Positions
import ComponentSurvey.Proofs.PropDeclarations
import ComponentSurvey.Proofs.WrapperChain
import ComponentSurvey.Proofs.Markup
import ComponentSurvey.Proofs.Printing
import ComponentSurvey.Proofs.Escapes
import ComponentSurvey.Proofs.BindingSites
import ComponentSurvey.Proofs.HookCalls
import ComponentSurvey.Proofs.JoinedTypes
import ComponentSurvey.Proofs.ArrayMocks
import ComponentSurvey.Proofs.ImportMocks
import ComponentSurvey.Proofs.FileSelection
import ComponentSurvey.Proofs.StringLiterals
import ComponentSurvey.Proofs.VerbatimMarkup
import ComponentSurvey.Proofs.TableText
import ComponentSurvey.Proofs.Traversals
import ComponentSurvey.Proofs.Thousands
