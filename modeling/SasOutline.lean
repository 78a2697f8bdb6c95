import SasOutline.CharacterRanges
import SasOutline.CaseTables
import SasOutline.CharacterClasses
import SasOutline.LetterCase
import SasOutline.SourcePosition
import SasOutline.Cursor
import SasOutline.PatternSearch
import SasOutline.SeparatedList
import SasOutline.DynamicName
import SasOutline.QuotedText
import SasOutline.CommentText
import SasOutline.DatasetOption
import SasOutline.DatasetReference
import SasOutline.GlobalStatements
import SasOutline.MacroStatements
import SasOutline.DataStep
import SasOutline.Procedure
import SasOutline.SqlStatements
import SasOutline.Node
import SasOutline.NodeEquality
import SasOutline.NodeTree
import SasOutline.ConstructMatch
import SasOutline.Grammar
import SasOutline.Scan
import SasOutline.Decimal
import SasOutline.Coverage
import SasOutline.MacroFolding
import SasOutline.LineageGraph
import SasOutline.Json
import SasOutline.NodeExport
import SasOutline.SourcePath
import SasOutline.FileSystem
import SasOutline.Program
import SasOutline.ProgramReport
import SasOutline.Command
import SasOutline.CommandLine
import SasOutline.FileSnapshot
import SasOutline.Main
import SasOutline.Proofs.ReaderProgress
import SasOutline.Proofs.MatchLayout
import SasOutline.Proofs.ByteOffset
import SasOutline.Proofs.ScanTurns
import SasOutline.Proofs.PositionOrder
import SasOutline.Proofs.NodeSpans
import SasOutline.Proofs.FirstOccurrence
import SasOutline.Proofs.DocumentOrder
import SasOutline.Proofs.LineageReference
import SasOutline.Proofs.MacroMarks
import SasOutline.Proofs.FoldedObjects
import SasOutline.Proofs.LineageAccumulation
import SasOutline.Proofs.MacroNesting
import SasOutline.Proofs.MacroMatching
import SasOutline.Proofs.AsciiCase
import SasOutline.Proofs.CaseBlindReading
import SasOutline.Proofs.CaseBlindConstructs
import SasOutline.Proofs.CaseBlindScan
import SasOutline.Proofs.KnownText
import SasOutline.Proofs.NameReading
import SasOutline.Proofs.ReferenceIdentity
import SasOutline.Proofs.WordEnds
import SasOutline.Proofs.TableNames
import SasOutline.Proofs.RuleChoice
import SasOutline.Proofs.DataStepParts
import SasOutline.Proofs.PrintedStatements
import SasOutline.Proofs.OutlineRoundTrip
import SasOutline.Proofs.CheckedReading
import SasOutline.Proofs.CheckedPrimitives
import SasOutline.Proofs.CheckedNames
import SasOutline.Proofs.CheckedDatasets
import SasOutline.Proofs.CheckedStatements
import SasOutline.Proofs.CheckedSteps
import SasOutline.Proofs.CheckedSql
import SasOutline.Proofs.CheckedScan
import SasOutline.Proofs.NamedReferences
import SasOutline.Proofs.MacroDelimiters
import SasOutline.Proofs.NestedSpans
import SasOutline.Proofs.MacroFreeGrammar
import SasOutline.Proofs.CoverageRounding
import SasOutline.Proofs.LineageLines
import SasOutline.Proofs.StatementLocality
import SasOutline.Proofs.SqlBlocks
import SasOutline.Proofs.LoadedPrograms
import SasOutline.Proofs.JsonFields
import SasOutline.Proofs.FileCommands
import SasOutline.Proofs.TextInFront
import SasOutline.Proofs.ConstructsBehindText
import SasOutline.Proofs.ShiftedScan
import SasOutline.Proofs.LeftmostMatch
import SasOutline.Proofs.DataStepDivision
import SasOutline.Proofs.StepInputs
import SasOutline.Proofs.MarkedWords
import SasOutline.Proofs.ProcedureParts
import SasOutline.Proofs.OptionOrder
import SasOutline.Proofs.MacroCalls
import SasOutline.Proofs.MacroArguments
import SasOutline.Proofs.BlockEnd
import SasOutline.Proofs.TableEnumerations
import SasOutline.Proofs.FromClauses
import SasOutline.Proofs.CommentEnds
import SasOutline.Proofs.QuotedPaths
import SasOutline.Proofs.NamedStatements
import SasOutline.Proofs.OptionForms
import SasOutline.Proofs.NameSegments
import SasOutline.Proofs.FoldedAgain
import SasOutline.Proofs.TreeWalks
import SasOutline.Proofs.IndexedLineage
import SasOutline.Proofs.LineageNeighbours
import SasOutline.Proofs.LosslessExport
import SasOutline.Proofs.MaximalLists
import SasOutline.Proofs.KeywordBoundaries
import SasOutline.Proofs.BareSettings
