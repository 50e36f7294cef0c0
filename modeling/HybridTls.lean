import HybridTls.Lib.KeyedTable
import HybridTls.Lib.Letters
import HybridTls.Lib.Machine
import HybridTls.Lib.Session
import HybridTls.Lib.Triple
import HybridTls.Lib.Search
import HybridTls.Lib.Decimal
import HybridTls.Lib.Csv
import HybridTls.Lib.Calendar
import HybridTls.Lib.Cutting
import HybridTls.Lib.Python
import HybridTls.Lib.Memo
import HybridTls.Lib.Json
import HybridTls.Lib.JsonText
import HybridTls.Lib.Binary64
import HybridTls.Lib.OrderStatistics
import HybridTls.Lib.Ranking
import HybridTls.Lib.Buffer
import HybridTls.Lib.Ledger
import HybridTls.Lib.Assignment
import HybridTls.Lib.Progress
import HybridTls.Schemas
import HybridTls.Store.Tables
import HybridTls.Store.Repository
import HybridTls.Store.Calls
import HybridTls.Store.History
import HybridTls.Store.Order
import HybridTls.Store.Queries
import HybridTls.Store.Timing
import HybridTls.Routes
import HybridTls.Analytics
import HybridTls.Analytics.Percentile
import HybridTls.Analytics.Contributions
import HybridTls.Analytics.Scaling
import HybridTls.Store.Listing
import HybridTls.Store.Snapshot
import HybridTls.Store.Export
import HybridTls.Store.Clock
import HybridTls.Posture.Vendors
import HybridTls.Posture.Rows
import HybridTls.Posture.Targets
import HybridTls.Posture.Cbom
import HybridTls.Posture.Compliance
import HybridTls.Posture.Certs
import HybridTls.Posture.Score
import HybridTls.Posture.Bands
import HybridTls.Posture.Queue
import HybridTls.Posture.HndlInputs
import HybridTls.Posture.Files
import HybridTls.Posture.Exposure
import HybridTls.Posture.Roadmap
import HybridTls.Posture.HeldBack
import HybridTls.Tls.Strings
import HybridTls.Tls.Common
import HybridTls.Tls.Connect
import HybridTls.Tls.Options
import HybridTls.Tls.Post
import HybridTls.Tls.Sending
import HybridTls.Tls.Probe
import HybridTls.Tls.Opening
import HybridTls.Tls.Measurement
import HybridTls.Tls.Durations
import HybridTls.Tls.Escaping
import HybridTls.Tls.Reading
import HybridTls.Tls.Server
import HybridTls.Tls.Query
import HybridTls.Tls.SampleId
import HybridTls.Tls.Response
import HybridTls.Tls.ClientBody
import HybridTls.Tls.Sockets
import HybridTls.Tls.Emission
import HybridTls.Tls.Agreement
import HybridTls.Tls.Schedule
import HybridTls.Tls.Gates
import HybridTls.Tls.ServerBody
import HybridTls.Tls.RunBody
import HybridTls.Tls.Handles
import HybridTls.Tls.Listener
import HybridTls.Tls.Exchange
import HybridTls.Tls.RunId
import HybridTls.Tls.CommandLine
import HybridTls.System.Messages
import HybridTls.System.Lab
import HybridTls.System.Provenance
import HybridTls.System.Runs
import HybridTls.System.Rows
import HybridTls.System.Ending
import HybridTls.System.Pages
import HybridTls.System.Site
