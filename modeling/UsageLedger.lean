import UsageLedger.Calendar.Date
import UsageLedger.Calendar.DateText
import UsageLedger.Calendar.Instant
import UsageLedger.Calendar.InstantText
import UsageLedger.CommandLine.Arguments
import UsageLedger.CommandLine.Configuration
import UsageLedger.CommandLine.FileTree
import UsageLedger.CommandLine.Path
import UsageLedger.CommandLine.Startup
import UsageLedger.CommandLine.StoreFile
import UsageLedger.CommandLine.Surroundings
import UsageLedger.Decimal.Binary
import UsageLedger.Decimal.Literal
import UsageLedger.Decimal.Shortest
import UsageLedger.Decimal.Wide
import UsageLedger.Http.MediaType
import UsageLedger.Http.Message
import UsageLedger.Http.Router
import UsageLedger.Http.Target
import UsageLedger.Importing.Run
import UsageLedger.Importing.Step
import UsageLedger.Importing.Window
import UsageLedger.Json.Basic
import UsageLedger.Json.Decode
import UsageLedger.Json.Draft
import UsageLedger.Json.Print
import UsageLedger.Json.Scan
import UsageLedger.Main
import UsageLedger.Proofs.Orders
import UsageLedger.Proofs.Runs
import UsageLedger.Proofs.Tables
import UsageLedger.Service.Analytics
import UsageLedger.Service.Bounds
import UsageLedger.Service.Error
import UsageLedger.Service.Importing
import UsageLedger.Service.Query
import UsageLedger.Store.Basic
import UsageLedger.Store.Cell
import UsageLedger.Store.Error
import UsageLedger.Store.Imports
import UsageLedger.Store.Location
import UsageLedger.Store.Metrics
import UsageLedger.Store.NumberText
import UsageLedger.Store.Overwrite
import UsageLedger.Store.Requests
import UsageLedger.Store.Row
import UsageLedger.Store.Sum
import UsageLedger.Store.Table
import UsageLedger.Telemetry.Address
import UsageLedger.Telemetry.Client
import UsageLedger.Telemetry.Duration
import UsageLedger.Telemetry.Error
import UsageLedger.Telemetry.Reading
import UsageLedger.Telemetry.Retry
import UsageLedger.Telemetry.Row
import UsageLedger.Telemetry.Script
import UsageLedger.Telemetry.Settings
import UsageLedger.Text.Base64
import UsageLedger.Text.Blank
import UsageLedger.Text.Digits
import UsageLedger.Text.Escaped
import UsageLedger.Text.FormEncoding
import UsageLedger.Text.Unseen
import UsageLedger.Text.Utf8
import UsageLedger.Toml.Basic
import UsageLedger.Toml.Document
import UsageLedger.Toml.Quoted
import UsageLedger.Toml.Scalar
import UsageLedger.Usage.Cost
import UsageLedger.Usage.Import
import UsageLedger.Usage.Record
import UsageLedger.Width
import UsageLedger.Wire.Import
import UsageLedger.Wire.Query
import UsageLedger.Wire.Snapshot
import UsageLedger.Wire.Usage
import UsageLedger.Proofs.LastRows
import UsageLedger.Proofs.Operations
import UsageLedger.Proofs.UsageTables
import UsageLedger.Proofs.Feeding
import UsageLedger.Proofs.Rollups
import UsageLedger.Proofs.Buckets
import UsageLedger.Proofs.GroupSums
import UsageLedger.Proofs.TokenSums
import UsageLedger.Proofs.Lifecycle
import UsageLedger.Proofs.WholeImport
import UsageLedger.Proofs.Stages
import UsageLedger.Proofs.FixedDigits
import UsageLedger.Proofs.InstantOrder
import UsageLedger.Proofs.Interleaving
import UsageLedger.Proofs.Checkpoints
import UsageLedger.Proofs.RunOrder
import UsageLedger.Proofs.OneAtATime
import UsageLedger.Proofs.RequestPages
import UsageLedger.Proofs.AgreeingImports
import UsageLedger.Proofs.ShownTimes
import UsageLedger.Proofs.RepairedImports
import UsageLedger.Proofs.FetchedPages
import UsageLedger.Proofs.ModelNames
import UsageLedger.Proofs.Routing
import UsageLedger.Proofs.WireTypes
import UsageLedger.Proofs.PageOffsets
import UsageLedger.Proofs.ListingBounds
import UsageLedger.Proofs.GroupedRequests
import UsageLedger.Proofs.EndlessReplies
import UsageLedger.Proofs.DailySummaries
import UsageLedger.Proofs.HandledStores
import UsageLedger.Proofs.AdjacentRanges
import UsageLedger.Proofs.LenientDates
import UsageLedger.Proofs.CanonicalRows
import UsageLedger.Proofs.DeliveredRows
import UsageLedger.Proofs.TimeSpellings
import UsageLedger.Proofs.ResolvedRanges
import UsageLedger.Proofs.WiderRanges
import UsageLedger.Proofs.FormTexts
import UsageLedger.Proofs.JsonTexts
import UsageLedger.Proofs.RequestTargets
import UsageLedger.Proofs.Credentials
import UsageLedger.Proofs.EndedRuns
import UsageLedger.Proofs.BackoffDelays
import UsageLedger.Proofs.Latencies
import UsageLedger.Proofs.ByteOrder
import UsageLedger.Proofs.RunHistory
import UsageLedger.Proofs.ArgumentGrammar
import UsageLedger.Proofs.TimestampTexts
