import ShipManifest.Age
import ShipManifest.Binary64.Basic
import ShipManifest.Binary64.Rounding
import ShipManifest.Checksum
import ShipManifest.Command.Arguments
import ShipManifest.Command.Host
import ShipManifest.Command.Run
import ShipManifest.Decimal.Basic
import ShipManifest.Decimal.Layout
import ShipManifest.Decimal.Numeral
import ShipManifest.Decimal.Shortest
import ShipManifest.Disk.Basic
import ShipManifest.Disk.Tree
import ShipManifest.Instant
import ShipManifest.Journal.Entry
import ShipManifest.Journal.Event
import ShipManifest.Journal.Severity
import ShipManifest.Json.Basic
import ShipManifest.Json.Fault
import ShipManifest.Json.Mismatch
import ShipManifest.Json.Number
import ShipManifest.Json.Read
import ShipManifest.Json.Variant
import ShipManifest.Json.Write
import ShipManifest.Main
import ShipManifest.Manifest.Basic
import ShipManifest.Manifest.Table
import ShipManifest.Proofs.AgesRead
import ShipManifest.Proofs.AgesWritten
import ShipManifest.Proofs.AsciiCase
import ShipManifest.Proofs.AskedRequests
import ShipManifest.Proofs.Audit
import ShipManifest.Proofs.ByteOrder
import ShipManifest.Proofs.Composition
import ShipManifest.Proofs.Configs
import ShipManifest.Proofs.Deletion
import ShipManifest.Proofs.Dialogue
import ShipManifest.Proofs.Evaluation
import ShipManifest.Proofs.Everyone
import ShipManifest.Proofs.ExitCodes
import ShipManifest.Proofs.ExpectedValues
import ShipManifest.Proofs.FailedLoads
import ShipManifest.Proofs.FirstLine
import ShipManifest.Proofs.IgnoringCase
import ShipManifest.Proofs.JournalEvents
import ShipManifest.Proofs.JournalLine
import ShipManifest.Proofs.JournalTold
import ShipManifest.Proofs.JsonReading
import ShipManifest.Proofs.JsonText
import ShipManifest.Proofs.LeastSeverity
import ShipManifest.Proofs.Lines
import ShipManifest.Proofs.LongerTokens
import ShipManifest.Proofs.Members
import ShipManifest.Proofs.NameSearch
import ShipManifest.Proofs.Narrowing
import ShipManifest.Proofs.NearestDecimals
import ShipManifest.Proofs.NearestRanks
import ShipManifest.Proofs.Numerals
import ShipManifest.Proofs.PaddedScalars
import ShipManifest.Proofs.Placeholders
import ShipManifest.Proofs.Places
import ShipManifest.Proofs.RefusedOutput
import ShipManifest.Proofs.Reloading
import ShipManifest.Proofs.RepeatedReloads
import ShipManifest.Proofs.RequestLines
import ShipManifest.Proofs.SameRecords
import ShipManifest.Proofs.SimulatedRuns
import ShipManifest.Proofs.Sinks
import ShipManifest.Proofs.SmallEdits
import ShipManifest.Proofs.SmallLetters
import ShipManifest.Proofs.TableText
import ShipManifest.Proofs.Timeless
import ShipManifest.Proofs.TrailingBlanks
import ShipManifest.Proofs.WrittenJournal
import ShipManifest.Proofs.WrittenQueries
import ShipManifest.Proofs.WrittenTables
import ShipManifest.Query.Basic
import ShipManifest.Query.Engine
import ShipManifest.Query.Key
import ShipManifest.Query.Predicate
import ShipManifest.Record
import ShipManifest.Service.Config
import ShipManifest.Service.Error
import ShipManifest.Service.Handler
import ShipManifest.Service.Reply
import ShipManifest.Service.Request
import ShipManifest.Service.Serve
import ShipManifest.Service.Sink
import ShipManifest.Store
import ShipManifest.Text.Blank
import ShipManifest.Text.Bytes
import ShipManifest.Text.Case
import ShipManifest.Text.CaseIgnorableTable
import ShipManifest.Text.CasedTable
import ShipManifest.Text.CodeRange
import ShipManifest.Text.HiddenTable
import ShipManifest.Text.Lines
import ShipManifest.Text.LowerTable
import ShipManifest.Text.Quoted
import ShipManifest.Text.Search
import ShipManifest.Text.UpperTable
