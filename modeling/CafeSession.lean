import CafeSession.Xsmp.Callbacks
import CafeSession.Xsmp.Delivery
import CafeSession.Xsmp.Outstanding
import CafeSession.Serial.Counter
import CafeSession.Serial.Objects
import CafeSession.Files.Directory
import CafeSession.SavedSession.Save
import CafeSession.SavedSession.AllOrNothing
import CafeSession.Capplet.App
import CafeSession.Capplet.AppManager
import CafeSession.Capplet.UserFiles
import CafeSession.Transition.Notices
import CafeSession.Overlay.Layers
import CafeSession.Capplet.Views
import CafeSession.Capplet.Precedence
import CafeSession.Capplet.Monitor
import CafeSession.Capplet.Scan
import CafeSession.Capplet.Incremental
import CafeSession.Manager.State
import CafeSession.Manager.Phases
import CafeSession.Manager.Shutdown
import CafeSession.Manager.Requests
import CafeSession.Manager.Step
import CafeSession.Manager.Core
import CafeSession.Manager.Kinds
import CafeSession.Manager.Shape
import CafeSession.Manager.Rules
import CafeSession.Manager.Turns
import CafeSession.Manager.Reach
import CafeSession.Manager.Survivors
import CafeSession.Manager.Confirmation
import CafeSession.Manager.Query
import CafeSession.Manager.Guard
import CafeSession.Manager.Membership
import CafeSession.Manager.Connections
import CafeSession.Manager.Alike
import CafeSession.Manager.Force
import CafeSession.Manager.ForcedRuns
import CafeSession.Manager.LateStarts
import CafeSession.Manager.Timers
import CafeSession.Manager.PhaseChanges
import CafeSession.Manager.JustInTime
import CafeSession.Manager.StartupIds
import CafeSession.Grants.Ledger
import CafeSession.Manager.Inhibitions
import CafeSession.Manager.FatalSignal
import CafeSession.Manager.Moves
import CafeSession.Manager.Asking
import CafeSession.Manager.Cancelling
import CafeSession.Shell.Words
import CafeSession.Autostart.Process
import CafeSession.Autostart.DesktopFile
import CafeSession.Autostart.RestartCommand
import CafeSession.Autostart.Exec
import CafeSession.Autostart.CommandLine
import CafeSession.Autostart.Resume
import CafeSession.Manager.EndSession
import CafeSession.Manager.Changes
import CafeSession.Manager.Passages
import CafeSession.Manager.Following
import CafeSession.Manager.ConditionClients
import CafeSession.Manager.DeadApps
import CafeSession.Manager.IdleEnabled
import CafeSession.Manager.InhibitDialog
import CafeSession.Idle.Presence
import CafeSession.Idle.LeavingIdle
import CafeSession.Idle.Detection
import CafeSession.Idle.SavedStatus
import CafeSession.Files.Entries
import CafeSession.Capplet.Assertions
import CafeSession.Autostart.AppStore
import CafeSession.Capplet.Agreement
import CafeSession.Capplet.Fields
import CafeSession.Capplet.Editing
import CafeSession.Capplet.Basenames
import CafeSession.Autostart.Condition
import CafeSession.Arrays.Keyed
import CafeSession.Text.Digits
import CafeSession.Serial.StartupId
import CafeSession.Files.Records
import CafeSession.Xsmp.IceAuthority
import CafeSession.Xsmp.Properties
import CafeSession.Xsmp.PropertyReads
import CafeSession.Idle.Alarms
import CafeSession.Idle.IdleDelay
import CafeSession.Idle.StatusText
import CafeSession.Stores.Store
import CafeSession.Arrays.Partition
import CafeSession.Xsmp.Listeners
import CafeSession.SmClient.Answers
import CafeSession.SmClient.Connection
import CafeSession.SmClient.Dialogue
import CafeSession.SmClient.Exchange
import CafeSession.SmClient.Restart
import CafeSession.Autostart.Loading
import CafeSession.Cdm.Conversations
import CafeSession.Cdm.LogoutActions
import CafeSession.Manager.DialogRows
import CafeSession.Manager.SignalProtocol
import CafeSession.Manager.LogoutCountdown
import CafeSession.UnixSignals.Delivery
import CafeSession.Capplet.AppDialog
import CafeSession.Xsmp.IceAttendance
import CafeSession.Autostart.Disabled
import CafeSession.Capplet.Switch
import CafeSession.Autostart.LaunchEnvironment
