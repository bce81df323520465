import GeneratorPi.Lib.Trace
import GeneratorPi.Lib.Rounding
import GeneratorPi.Lib.PaddedOrder
import GeneratorPi.Lib.PyText
import GeneratorPi.Lib.PyRepr
import GeneratorPi.Lib.FileTree
import GeneratorPi.Lib.StableSort
import GeneratorPi.Lib.NamedLines
import GeneratorPi.Lib.OrderedDict
import GeneratorPi.Lib.Paging
import GeneratorPi.Lib.Noninterference
import GeneratorPi.Lib.OnOff
import GeneratorPi.Lib.Handled
import GeneratorPi.Lib.PyJson
import GeneratorPi.Lib.IpAddress
import GeneratorPi.Lib.PyFloat
import GeneratorPi.Lib.Utf8
import GeneratorPi.Manifest
import GeneratorPi.Swap
import GeneratorPi.Backups
import GeneratorPi.UpdateRun
import GeneratorPi.Bootstrap
import GeneratorPi.Settings
import GeneratorPi.Secrets
import GeneratorPi.State
import GeneratorPi.Fuel
import GeneratorPi.Control
import GeneratorPi.Sequences
import GeneratorPi.Lifecycle
import GeneratorPi.Odometer
import GeneratorPi.WallClock
import GeneratorPi.Decision
import GeneratorPi.Gate
import GeneratorPi.RateLimit
import GeneratorPi.Lockouts
import GeneratorPi.Locks
import GeneratorPi.LowFuel
import GeneratorPi.Presses
import GeneratorPi.Promotion
import GeneratorPi.EventStore
import GeneratorPi.EventPaging
import GeneratorPi.EventPanel
import GeneratorPi.LogFeed
import GeneratorPi.LogRotation
import GeneratorPi.LogDelivery
import GeneratorPi.Durable
import GeneratorPi.ResetRace
import GeneratorPi.RunIntervals
import GeneratorPi.AnyClock
import GeneratorPi.LowFuelHistory
import GeneratorPi.AuthLog
import GeneratorPi.BruteForce
import GeneratorPi.AuthGate
import GeneratorPi.Probe
import GeneratorPi.UpdateScript
import GeneratorPi.ApplyPaths
import GeneratorPi.Consent
import GeneratorPi.SelfUpdate
import GeneratorPi.RunOutcome
import GeneratorPi.StoreFailures
import GeneratorPi.PollQueue
import GeneratorPi.PollTurns
import GeneratorPi.SystemHistory
import GeneratorPi.Override
import GeneratorPi.AuthHistory
import GeneratorPi.Subscriptions
import GeneratorPi.InstallText
import GeneratorPi.Forecast
import GeneratorPi.StartSequence
import GeneratorPi.PushEndpoint
import GeneratorPi.Requests
import GeneratorPi.ObjectEndpoints
import GeneratorPi.NumericEndpoints
import GeneratorPi.LogTails
import GeneratorPi.SettingsRewrite
import GeneratorPi.Staging
import GeneratorPi.PushFanOut
import GeneratorPi.FuelLearning
import GeneratorPi.StartupRestore
import GeneratorPi.Lib.Markup
import GeneratorPi.TerminalHtml
import GeneratorPi.Publish
import GeneratorPi.RequestPipeline
import GeneratorPi.Changelog
import GeneratorPi.Wheels
import GeneratorPi.Serving
import GeneratorPi.UpdateModal
import GeneratorPi.Certificates
import GeneratorPi.PowerSwitch
import GeneratorPi.Lib.Base64
import GeneratorPi.PushKeys
import GeneratorPi.SetupScript
import GeneratorPi.PushToggle
import GeneratorPi.Lib.Runs
import GeneratorPi.Charts
