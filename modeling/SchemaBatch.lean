import SchemaBatch.Main
import SchemaBatch.Rehearsal.Batch
import SchemaBatch.Rehearsal.Frame
import SchemaBatch.Rehearsal.Service
import SchemaBatch.Rehearsal.Session
import SchemaBatch.Proofs.Events
import SchemaBatch.Proofs.Schedule
import SchemaBatch.Proofs.Course
import SchemaBatch.Proofs.Frames
import SchemaBatch.Proofs.Interruptions
import SchemaBatch.Proofs.FrameTraffic
import SchemaBatch.Proofs.FrameCalls
import SchemaBatch.Proofs.UpdateCounts
import SchemaBatch.Proofs.BatchHistory
import SchemaBatch.Proofs.BatchLifecycle
import SchemaBatch.Proofs.InMemoryJob
import SchemaBatch.Proofs.InMemoryRun
import SchemaBatch.Proofs.Threads
import SchemaBatch.Proofs.ThreadedRun
import SchemaBatch.Proofs.InMemoryWorld
import SchemaBatch.Proofs.CompletedRun
import SchemaBatch.Proofs.ServiceHistory
import SchemaBatch.Proofs.OperationOutcomes
import SchemaBatch.Proofs.ServiceEvolution
import SchemaBatch.Proofs.CatalogIntegrity
import SchemaBatch.Proofs.SessionReplay
import SchemaBatch.Proofs.SessionHistory
import SchemaBatch.Proofs.SessionTraffic
import SchemaBatch.Proofs.WorldSchedule
import SchemaBatch.Proofs.InMemoryDeadline
import SchemaBatch.Proofs.ScriptPreparation
import SchemaBatch.Proofs.ScriptRun
import SchemaBatch.Proofs.ScriptReports
import SchemaBatch.Proofs.Scanning
import SchemaBatch.Proofs.ScriptReadings
import SchemaBatch.Proofs.QueryTraffic
import SchemaBatch.Proofs.LeadingKeyword
import SchemaBatch.Proofs.MappedReplies
import SchemaBatch.Proofs.ImmediateChange
import SchemaBatch.Proofs.BodyAlone
import SchemaBatch.Proofs.FrameRace
import SchemaBatch.Proofs.Passages
import SchemaBatch.Proofs.Remarks
import SchemaBatch.Proofs.StrippedText
import SchemaBatch.Proofs.TextSlices
import SchemaBatch.Proofs.TimeoutGrammar
import SchemaBatch.Proofs.ScriptPieces
import SchemaBatch.Proofs.ChangeGrammar
import SchemaBatch.Proofs.SingleObject
import SchemaBatch.Proofs.SchemaSemantics
import SchemaBatch.Proofs.WrittenDefinitions
import SchemaBatch.Proofs.RefusedStatements
import SchemaBatch.Proofs.CauseWalk
import SchemaBatch.Proofs.ChangeWrites
import SchemaBatch.Proofs.StatementLists
import SchemaBatch.Proofs.IndependentChanges
import SchemaBatch.Proofs.GuardedChanges
import SchemaBatch.Proofs.LetterCase
import SchemaBatch.Proofs.CommitMarks
import SchemaBatch.Proofs.BackgroundQueries
import SchemaBatch.Proofs.QuotedCase
import SchemaBatch.Proofs.JsonTexts
import SchemaBatch.Proofs.OptionsJson
