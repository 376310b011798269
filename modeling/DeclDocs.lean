import DeclDocs.Text.Case
import DeclDocs.Text.Utf8
import DeclDocs.Json.Reader
import DeclDocs.Json.Writer
import DeclDocs.Doc.Search
import DeclDocs.Doc.Comment
import DeclDocs.Syntax.Tree
import DeclDocs.Log.Level
import DeclDocs.Log.Event
import DeclDocs.Log.Logged
import DeclDocs.Doc.Block
import DeclDocs.Declaration
import DeclDocs.Grammar.Kind
import DeclDocs.Grammar.CSharp
import DeclDocs.Grammar.VisualBasic
import DeclDocs.Grammar
import DeclDocs.Extract.Documentation
import DeclDocs.Extract.Member
import DeclDocs.Extract.TypeDeclaration
import DeclDocs.Extract.Walk
import DeclDocs.Files.Path
import DeclDocs.Files.FileTree
import DeclDocs.Files.Store
import DeclDocs.Files.Discovery
import DeclDocs.Failure
import DeclDocs.Log.Context
import DeclDocs.Extract.Source
import DeclDocs.Run.Stats
import DeclDocs.Run.Batch
import DeclDocs.Run.Output
import DeclDocs.Declaration.Encoding
import DeclDocs.Decimal.Digits
import DeclDocs.Settings.Calendar
import DeclDocs.Settings.Value
import DeclDocs.Yaml.Cursor
import DeclDocs.Yaml.Scalar
import DeclDocs.Yaml.Token
import DeclDocs.Yaml.Node
import DeclDocs.Yaml.Plain
import DeclDocs.Yaml.Reader
import DeclDocs.Settings.Problem
import DeclDocs.Settings.Load
import DeclDocs.Text.Numeral
import DeclDocs.Command.Options
import DeclDocs.Log.Sink
import DeclDocs.Run.Execution
import DeclDocs.Command.Run
import DeclDocs.Syntax.Encoding
import DeclDocs.Command.Stamp
import DeclDocs.Main
import DeclDocs.Proofs.Attempt
import DeclDocs.Proofs.FlatWalk
import DeclDocs.Proofs.ElementMatching
import DeclDocs.Proofs.TagRemoval
import DeclDocs.Proofs.RenderedDocs
import DeclDocs.Proofs.ResidualTags
import DeclDocs.Proofs.MemberLists
import DeclDocs.Proofs.SiblingSections
import DeclDocs.Proofs.Placeholder
import DeclDocs.Proofs.WellFormedRecords
import DeclDocs.Proofs.PathNames
import DeclDocs.Proofs.FileStore
import DeclDocs.Proofs.OutputFile
import DeclDocs.Proofs.SourceFiles
import DeclDocs.Proofs.BatchRun
import DeclDocs.Proofs.RunAccounting
import DeclDocs.Proofs.SettingsPolicy
import DeclDocs.Proofs.OctetText
import DeclDocs.Proofs.JsonText
import DeclDocs.Proofs.LosslessLines
import DeclDocs.Proofs.FailFast
import DeclDocs.Proofs.LeadingComments
import DeclDocs.Proofs.SectionSeams
import DeclDocs.Proofs.CommentBlocks
import DeclDocs.Proofs.MemberParts
import DeclDocs.Proofs.DeclaratorTypes
import DeclDocs.Proofs.FoundFiles
import DeclDocs.Proofs.ParameterSpans
import DeclDocs.Proofs.GrammarDispatch
import DeclDocs.Proofs.FaultCount
import DeclDocs.Proofs.TagPattern
import DeclDocs.Proofs.WrittenSources
import DeclDocs.Proofs.RelativePaths
import DeclDocs.Proofs.UnitNames
import DeclDocs.Proofs.ScopedPrograms
