import Wlcodex.Relay.CompletionFencing
import Wlcodex.Relay.CompletionIdentity
import Wlcodex.Relay.ApprovalDelivery
import Wlcodex.Relay.GoalFreshness
import Wlcodex.Relay.RepeatedApproval
import Wlcodex.Relay.CrashRetry
import Wlcodex.Relay.MutationContract
import Wlcodex.Runtime.NativeProbe
import Wlcodex.Runtime.FrameSequence
import Wlcodex.Runtime.FrameReading
import Wlcodex.Runtime.NativeTurnGuards
import Wlcodex.Runtime.QueueDrain
import Wlcodex.Runtime.DrainReadiness
import Wlcodex.Relay.HandoffTarget
import Wlcodex.Relay.WaitingControl
import Wlcodex.Relay.ListedState
import Wlcodex.Relay.GoalTestArgs
import Wlcodex.Relay.TokenCounts
import Wlcodex.Rpc.HeldRequests
import Wlcodex.Rpc.PendingCalls
import Wlcodex.Rpc.WebSocketReader
import Wlcodex.Claude.TextOnce
import Wlcodex.Claude.TranscriptSync
import Wlcodex.State.Isolation
import Wlcodex.State.Tokens
import Wlcodex.Projector.Agreement
import Wlcodex.Projector.Rebuild
import Wlcodex.Tasks.Transitions
import Wlcodex.Tasks.Writers
import Wlcodex.Tasks.ApprovalRuns
import Wlcodex.Tasks.Draining
import Wlcodex.Bridge.ReviewDecisions
import Wlcodex.Bridge.StageOnce
import Wlcodex.Bridge.EvidenceFailures
import Wlcodex.Native.Sessions
import Wlcodex.Native.LiveText
import Wlcodex.Native.Approvals
import Wlcodex.Telegram.OutputDelivery
import Wlcodex.Telegram.ChunkFences
import Wlcodex.Timeline.Finished
import Wlcodex.Timeline.UserMessages
import Wlcodex.Timeline.BackwardPaging
import Wlcodex.Timeline.ThreadIsolation
import Wlcodex.Runtime.DirectStarts
import Wlcodex.Runtime.QueueCounts
import Wlcodex.Orchestrator.Outcome
import Wlcodex.Runtime.BearerTokens
import Wlcodex.Tasks.Watchdog
import Wlcodex.Claude.LineActivity
import Wlcodex.Tasks.TaskLog
import Wlcodex.Native.CommandOutcomes
import Wlcodex.Tasks.Refusals
import Wlcodex.Relay.LeaseTimes
import Wlcodex.Orchestrator.DriftPatterns
import Wlcodex.Native.TurnStates
import Wlcodex.Orchestrator.Implementation
