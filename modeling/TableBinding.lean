import TableBinding.Main
import TableBinding.Run.Manifest
import TableBinding.Proofs.Text.Marks
import TableBinding.Proofs.Text.Pieces
import TableBinding.Proofs.Text.Literal
import TableBinding.Proofs.Annotation.Form
import TableBinding.Proofs.Annotation.Options
import TableBinding.Proofs.Annotation.WellFormed
import TableBinding.Proofs.Annotation.CanonicalField
import TableBinding.Proofs.Annotation.Grammar
import TableBinding.Proofs.Annotation.Course
import TableBinding.Proofs.Annotation.Ledger
import TableBinding.Proofs.Annotation.FaultLines
import TableBinding.Proofs.Annotation.Concatenation
import TableBinding.Proofs.Run.FirstFault
import TableBinding.Proofs.Storage.Growth
import TableBinding.Proofs.Annotation.SourceLines
import TableBinding.Proofs.Annotation.CanonicalFile
import TableBinding.Proofs.Class.CreateTable
import TableBinding.Proofs.Run.AllOrNothing
import TableBinding.Proofs.Class.MemberLine
import TableBinding.Proofs.Text.PlaceMarks
import TableBinding.Proofs.Class.FilledTable
import TableBinding.Proofs.Text.Code
import TableBinding.Proofs.Text.Program
import TableBinding.Proofs.Text.Occurrences
import TableBinding.Proofs.Class.References
import TableBinding.Proofs.Class.Declarations
import TableBinding.Proofs.Class.DeclaredMembers
import TableBinding.Proofs.Annotation.FailedSteps
import TableBinding.Proofs.Annotation.FieldCut
import TableBinding.Proofs.Annotation.HeaderCut
import TableBinding.Proofs.Annotation.MarkCollision
import TableBinding.Proofs.Class.KeyClause
import TableBinding.Proofs.Class.Effects
import TableBinding.Proofs.Class.Builders
import TableBinding.Proofs.Class.FilledStatement
import TableBinding.Proofs.Annotation.Classification
import TableBinding.Proofs.Text.LineEndings
import TableBinding.Proofs.Class.OneLine
import TableBinding.Proofs.Run.LineEnding
import TableBinding.Proofs.Class.FieldInsertion
import TableBinding.Proofs.Class.TableVariants
import TableBinding.Proofs.Class.Alignment
import TableBinding.Proofs.Run.ReturnedSource
import TableBinding.Proofs.Class.ContinuedLines
import TableBinding.Proofs.Run.Continuation
import TableBinding.Proofs.Annotation.SampleFile
import TableBinding.Proofs.Text.Utf8
import TableBinding.Proofs.Number.Numeral
import TableBinding.Proofs.Settings.Reading
import TableBinding.Proofs.Settings.TextSettings
import TableBinding.Proofs.Settings.Values
import TableBinding.Proofs.Settings.Laws
import TableBinding.Proofs.Settings.Leniency
import TableBinding.Proofs.Library.DistinctKeys
import TableBinding.Proofs.Library.Reach
import TableBinding.Proofs.Library.Overlay
import TableBinding.Proofs.Library.Trees
import TableBinding.Proofs.Library.Lawful
import TableBinding.Proofs.Settings.Loaders
import TableBinding.Proofs.Settings.Override
