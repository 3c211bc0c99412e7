import PalCrosschat.Foundation.Bytes
import PalCrosschat.Foundation.BoundedDeque
import PalCrosschat.Foundation.Execution
import PalCrosschat.Foundation.KeyedTable
import PalCrosschat.Foundation.Interleaving
import PalCrosschat.Foundation.Deferral
import PalCrosschat.Foundation.TimedLock
import PalCrosschat.Foundation.Monitor
import PalCrosschat.Foundation.OnePass
import PalCrosschat.Foundation.RetryQueue
import PalCrosschat.Foundation.Program
import PalCrosschat.Foundation.Utf8
import PalCrosschat.Foundation.Substitution
import PalCrosschat.Foundation.Json
import PalCrosschat.Foundation.Backoff
import PalCrosschat.Sanitize
import PalCrosschat.Config
import PalCrosschat.Queues
import PalCrosschat.Identity
import PalCrosschat.ChatFormat
import PalCrosschat.WordFilter
import PalCrosschat.Engine
import PalCrosschat.Audience
import PalCrosschat.Roster
import PalCrosschat.ChatInject
import PalCrosschat.InjectRules
import PalCrosschat.InjectFrame
import PalCrosschat.InjectSteps
import PalCrosschat.HookContext
import PalCrosschat.ChatCapture
import PalCrosschat.Database
import PalCrosschat.DbWorker
import PalCrosschat.WorkerSteps
import PalCrosschat.Callbacks
import PalCrosschat.HookBranches
import PalCrosschat.MuteArithmetic
import PalCrosschat.MuteTable
import PalCrosschat.InjectTraffic
import PalCrosschat.BroadcastEffects
import PalCrosschat.BroadcastCalls
import PalCrosschat.DualAudience
import PalCrosschat.IssuedChats
import PalCrosschat.World
import PalCrosschat.MuteSteps
import PalCrosschat.MuteRuns
import PalCrosschat.MuteLifecycle
import PalCrosschat.OutboundRetry
import PalCrosschat.OutboundRuns
import PalCrosschat.DrainSteps
import PalCrosschat.GameCalls
import PalCrosschat.InboundOrder
import PalCrosschat.TargetedLines
import PalCrosschat.InboundOnce
import PalCrosschat.InboundRuns
import PalCrosschat.XboxLines
import PalCrosschat.CommandSecrecy
import PalCrosschat.CircuitBreaker
import PalCrosschat.RelaySoundness
import PalCrosschat.RelayCompleteness
import PalCrosschat.FilterReach
import PalCrosschat.OpenCircuit
import PalCrosschat.RowDecoding
import PalCrosschat.ColumnBounds
import PalCrosschat.InboundCursor
import PalCrosschat.InboundDelivery
import PalCrosschat.CommitOrder
import PalCrosschat.RelayDesk
import PalCrosschat.RelayPaths
import PalCrosschat.LocalLines
import PalCrosschat.LinkSteps
import PalCrosschat.LinkNetwork
import PalCrosschat.ConnectCodes
import PalCrosschat.LinkRace
import PalCrosschat.LinkCalls
import PalCrosschat.LinkSpec
import PalCrosschat.LinkReplies
import PalCrosschat.SameLook
import PalCrosschat.PollLoop
import PalCrosschat.PollStarvation
import PalCrosschat.GuidText
import PalCrosschat.NormalForm
import PalCrosschat.Templates
import PalCrosschat.LiteralValues
import PalCrosschat.BracketCleanup
import PalCrosschat.EmptyBrackets
import PalCrosschat.SenderNames
import PalCrosschat.ConfigFile
import PalCrosschat.TickDemand
import PalCrosschat.TickBudget
import PalCrosschat.BudgetSpent
import PalCrosschat.StackFrame
import PalCrosschat.NativeLines
import PalCrosschat.ReconnectBackoff
import PalCrosschat.CodePointCut
import PalCrosschat.ReplaceLoops
import PalCrosschat.QueueHistory
import PalCrosschat.SetDiscordGrammar
import PalCrosschat.PlatformIds
import PalCrosschat.AccountRuns
import PalCrosschat.LogContent
import PalCrosschat.Foundation.JsonText
import PalCrosschat.WebhookBody
import PalCrosschat.PendingJoins
import PalCrosschat.JoinRecords
import PalCrosschat.JoinResolution
import PalCrosschat.ConnectionState
import PalCrosschat.RelayNetwork
import PalCrosschat.RelayProvenance
import PalCrosschat.PersistedCursors
import PalCrosschat.NetworkDelivery
import PalCrosschat.OrderedRelay
import PalCrosschat.Shutdown
import PalCrosschat.SleepSlices
import PalCrosschat.WebhookRequest
import PalCrosschat.ModerationLog
import PalCrosschat.CallSources
import PalCrosschat.PrivateNotices
import PalCrosschat.ShownLines
import PalCrosschat.LineDelivery
import PalCrosschat.Restarts
