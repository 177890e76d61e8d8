import EspNut.Lib.Run
import EspNut.Lib.Decimal
import EspNut.Hid.Parser
import EspNut.Hid.BeeperLogic
import EspNut.Table.Rows
import EspNut.Control.HidControl
import EspNut.Control.Steps
import EspNut.Control.Supported
import EspNut.Host.Usb
import EspNut.Host.WriteBack
import EspNut.Lib.Rounding
import EspNut.Table.Context
import EspNut.Table.Decode
import EspNut.Lib.Election
import EspNut.Table.Bind
import EspNut.Table.Resolution
import EspNut.Table.FirstRow
import EspNut.Ups.Status
import EspNut.Hid.Extract
import EspNut.Driver.Generic
import EspNut.Driver.Mirror
import EspNut.Table.Accumulate
import EspNut.Driver.StatusString
import EspNut.Server.Overrides
import EspNut.Server.Protocol
import EspNut.Server.Authentication
import EspNut.Server.Isolation
import EspNut.Lib.Window
import EspNut.Server.History
import EspNut.Driver.Poll
import EspNut.Driver.Cycles
import EspNut.Driver.Spacing
import EspNut.Driver.Changes
import EspNut.Driver.Complete
import EspNut.Control.Effects
import EspNut.Driver.Twins
import EspNut.Server.Writability
import EspNut.Driver.Refused
import EspNut.Host.Requests
import EspNut.Driver.Silence
import EspNut.Lib.Clock
import EspNut.Recovery.LinkMonitor
import EspNut.Lib.Ring
import EspNut.Recovery.PortCycle
import EspNut.Lib.Median
import EspNut.Recovery.RestartPolicy
import EspNut.Recovery.InputWatchdog
import EspNut.Host.InputReassembler
import EspNut.Recovery.Freshness
import EspNut.Host.InputReports
import EspNut.Lib.Nesting
import EspNut.Lib.Packing
import EspNut.Hid.Layout
import EspNut.Hid.Scan
import EspNut.Server.Listing
import EspNut.Table.Interleaving
import EspNut.Lib.Slots
import EspNut.WebAuth.CredentialStore
import EspNut.WebAuth.SessionTable
import EspNut.WebAuth.Rotation
import EspNut.WebAuth.Eviction
import EspNut.WebAuth.Restart
import EspNut.WebAuth.Expiry
import EspNut.WebAuth.AuthService
import EspNut.WebAuth.Gate
import EspNut.WebAuth.OpenSessions
import EspNut.WebAuth.SessionLife
import EspNut.WebAuth.Throttling
import EspNut.Control.AutoShutdown
import EspNut.Control.Interrupted
import EspNut.Control.LostConnection
import EspNut.Lib.Json
import EspNut.Lib.JsonNumber
import EspNut.Lib.JsonText
import EspNut.Lib.JsonWriter
import EspNut.Host.DriverVarStore
import EspNut.Host.DriverSide
import EspNut.Lib.Plain
import EspNut.Table.PlainTexts
import EspNut.Driver.DeviceStrings
import EspNut.Driver.PlainData
import EspNut.Driver.PlainRuns
import EspNut.Server.Lines
import EspNut.Server.Quoting
import EspNut.Server.OverridesJson
import EspNut.Web.VarsJson
import EspNut.Hid.Logical
import EspNut.Hid.WriteRead
import EspNut.Lib.Layout
import EspNut.WebAuth.NvsAuthStorage
import EspNut.Host.DiagExport
import EspNut.Lib.Calendar
import EspNut.Lib.Digits
import EspNut.Table.Dates
import EspNut.Table.SetBack
import EspNut.Hid.Nearest
import EspNut.Lib.TokenBucket
import EspNut.Log.LogOutputFilter
import EspNut.Log.LogFanout
import EspNut.Lib.Buffer
import EspNut.Log.SyslogFormat
import EspNut.Recovery.TwdtTaskList
import EspNut.Table.NumberTexts
import EspNut.Lib.DayCount
import EspNut.Log.BoardTime
import EspNut.Driver.WritableVariables
import EspNut.Hid.LocalItems
import EspNut.Web.UsbDiagJson
import EspNut.Driver.SetVar
import EspNut.Host.SetVar
import EspNut.Lib.Pieces
import EspNut.Table.PathMatching
import EspNut.WebAuth.AuthPolicy
import EspNut.Web.ChunkWriter
import EspNut.Host.Interfaces
import EspNut.Host.Recoveries
import EspNut.Web.Access
import EspNut.Web.Cookies
import EspNut.Boot.DoubleReset
import EspNut.Log.Delivery
import EspNut.Server.Connections
import EspNut.Server.Conversations
import EspNut.Log.Datagrams
import EspNut.Log.Carried
import EspNut.Time.NtpClock
import EspNut.Time.Synchronization
