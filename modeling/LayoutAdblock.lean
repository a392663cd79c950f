import LayoutAdblock.Interaction.Environment
import LayoutAdblock.Engine.Guards
import LayoutAdblock.Engine.SharedDesktop
import LayoutAdblock.Engine.DrainCoverage
import LayoutAdblock.Engine.TickRecord
import LayoutAdblock.Engine.TickInvariant
import LayoutAdblock.Engine.Coverage
import LayoutAdblock.Engine.RoundTrip
import LayoutAdblock.Engine.Settled
import LayoutAdblock.Core.Evaluate.Preview
import LayoutAdblock.Core.Evaluate.MainWindows
import LayoutAdblock.Core.Evaluate.UnreadableTitle
import LayoutAdblock.Core.Evaluate.Sequence
import LayoutAdblock.Core.Evaluate.FewerWords
import LayoutAdblock.Core.Evaluate.SiblingOrder
import LayoutAdblock.Core.Evaluate.ForeignTrees
import LayoutAdblock.Dump.Replay
import LayoutAdblock.Updater.Outcome
import LayoutAdblock.Config.Serial
import LayoutAdblock.Engine.Gauge
import LayoutAdblock.Engine.Laps
import LayoutAdblock.Data.PrefixCode
import LayoutAdblock.Release.Canonical
import LayoutAdblock.Release.Signing
import LayoutAdblock.Release.Unparse
import LayoutAdblock.Release.Version
import LayoutAdblock.Release.Manifest
import LayoutAdblock.Data.Calendar
import LayoutAdblock.Release.Expiry
import LayoutAdblock.Core.Geometry
import LayoutAdblock.Updater.Child
import LayoutAdblock.Engine.Drain
import LayoutAdblock.Engine.Backoff
import LayoutAdblock.Core.Evaluate.Popups
import LayoutAdblock.Engine.LoadRuns
import LayoutAdblock.Engine.PerNode
import LayoutAdblock.Updater.Readiness
import LayoutAdblock.Core.AdTokens
import LayoutAdblock.Core.Evaluate.Subtrees
import LayoutAdblock.Engine.Intervals
import LayoutAdblock.Core.RulesOverlay
import LayoutAdblock.Config.FieldMerge
import LayoutAdblock.Config.Log
import LayoutAdblock.Config.LogRuns
import LayoutAdblock.Data.Utf16
import LayoutAdblock.Config.Recorded
import LayoutAdblock.Config.Startup
import LayoutAdblock.Config.StartupRuns
import LayoutAdblock.Interaction.Precedence
import LayoutAdblock.Engine.WholeTick
import LayoutAdblock.Engine.Worker
import LayoutAdblock.Engine.ControlWake
import LayoutAdblock.Engine.WorkerOrder
import LayoutAdblock.Engine.WakeLock
import LayoutAdblock.Engine.NoLostWake
import LayoutAdblock.Interaction.NamedMutex
import LayoutAdblock.App.SingleInstance
import LayoutAdblock.Interaction.MutexLock
import LayoutAdblock.App.ConfigMutex
import LayoutAdblock.Interaction.Protocol
import LayoutAdblock.Release.UpdateModel
import LayoutAdblock.Release.Http
import LayoutAdblock.Release.Staging
import LayoutAdblock.Release.Machine
import LayoutAdblock.Release.SingleFlight
import LayoutAdblock.Release.Accepted
import LayoutAdblock.Release.Session
import LayoutAdblock.Updater.Main
import LayoutAdblock.Updater.SecondInstance
import LayoutAdblock.Release.Handover
import LayoutAdblock.Updater.VerifiedInstall
import LayoutAdblock.App.SignedUpdate
import LayoutAdblock.Release.Builder
import LayoutAdblock.Release.Published
import LayoutAdblock.Engine.EventHook
import LayoutAdblock.Engine.HookHeld
import LayoutAdblock.Engine.HookRuns
import LayoutAdblock.Engine.HookOrder
import LayoutAdblock.Tray.StatusText
import LayoutAdblock.Tray.Host
import LayoutAdblock.Tray.Desk
import LayoutAdblock.Tray.Recovery
