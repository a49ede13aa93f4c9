import Provenance.Action
import Provenance.Ascending
import Provenance.Backend
import Provenance.Connection
import Provenance.ConnectionString
import Provenance.Context
import Provenance.Decimal.Binary
import Provenance.Decimal.Digits
import Provenance.Decimal.Power
import Provenance.Decimal.Text
import Provenance.Driver
import Provenance.Driver.Faulty
import Provenance.Driver.Location
import Provenance.Driver.Relational
import Provenance.Driver.Scripted
import Provenance.Error
import Provenance.Event
import Provenance.Json
import Provenance.Json.Field
import Provenance.Json.Model
import Provenance.Json.Operation
import Provenance.Json.Options
import Provenance.Json.Report
import Provenance.Json.Script
import Provenance.Json.Simulation
import Provenance.Json.Text
import Provenance.Json.Value
import Provenance.Model
import Provenance.Operation
import Provenance.Options
import Provenance.Pool
import Provenance.Proofs.OperationRequests
import Provenance.Proofs.PlannedFailures
import Provenance.Query
import Provenance.Reading
import Provenance.Request
import Provenance.Request.Argument
import Provenance.Request.Bundle
import Provenance.Request.Object
import Provenance.Request.Relation
import Provenance.Request.Session
import Provenance.Simulation.Arguments
import Provenance.Simulation.ChaCha
import Provenance.Simulation.Check
import Provenance.Simulation.Config
import Provenance.Simulation.Dice
import Provenance.Simulation.Duration
import Provenance.Simulation.EventLog
import Provenance.Simulation.Ledger
import Provenance.Simulation.Run
import Provenance.Simulation.Worker
import Provenance.Simulation.Workload
import Provenance.Store
import Provenance.Store.Affinity
import Provenance.Store.Cascade
import Provenance.Store.Run
import Provenance.Store.Select
import Provenance.Text.Blank
import Provenance.Text.Hexadecimal
import Provenance.Text.Like
import Provenance.Text.Printable
import Provenance.Text.Quoted
import Provenance.Text.Truncate
import Provenance.Time.Calendar
import Provenance.Time.Text
import Provenance.Time.Zone
import Provenance.Time.ZoneText
import Provenance.Value
import Provenance.Word
import Provenance.Proofs.Rows
import Provenance.Proofs.Connecting
import Provenance.Proofs.Serving
import Provenance.Proofs.Recording
import Provenance.Proofs.Performing
import Provenance.Proofs.Reachable
import Provenance.Proofs.ExactlyOnce
import Provenance.Proofs.Retrying
import Provenance.Proofs.BundleDeletion
import Provenance.Proofs.DeletionFrame
import Provenance.Proofs.NestedBundles
import Provenance.Proofs.PoolSharing
import Provenance.Proofs.Tally
import Provenance.Proofs.Leaks
import Provenance.Proofs.FreshIds
import Provenance.Proofs.Recovery
import Provenance.Proofs.DeletionAnswers
import Provenance.Proofs.Generations
import Provenance.Proofs.NoFalseAlarm
import Provenance.Proofs.ArgumentChecks
import Provenance.Proofs.WrittenStrings
import Provenance.Proofs.CutTexts
import Provenance.Proofs.KeptRows
import Provenance.Proofs.ReadBack
import Provenance.Proofs.BundleContents
import Provenance.Proofs.ObjectDirectory
import Provenance.Proofs.Ancestry
import Provenance.Proofs.CheckedWrites
import Provenance.Proofs.Patterns
import Provenance.Proofs.Notes
import Provenance.Proofs.LastPass
import Provenance.Proofs.KeptNotes
import Provenance.Proofs.PropertyLookups
import Provenance.Proofs.NestedCalls
import Provenance.Proofs.Consulting
import Provenance.Proofs.Snapshots
import Provenance.Proofs.FoundOrMade
import Provenance.Proofs.NamedSources
import Provenance.Proofs.LocalTime
import Provenance.Proofs.ReadTimes
import Provenance.Proofs.ToldObjects
import Provenance.Proofs.PassedChecks
import Provenance.Proofs.CallFrames
import Provenance.Proofs.ReconnectionCounts
import Provenance.Proofs.BlamelessReadings
import Provenance.Proofs.FailureReports
import Provenance.Proofs.Executing
import Provenance.Proofs.CreatedObjects
import Provenance.Proofs.Attachments
import Provenance.Proofs.JsonGrammar
import Provenance.Proofs.OptionTexts
import Provenance.Proofs.RecordedEvents
import Provenance.Proofs.WorkerSeeds
