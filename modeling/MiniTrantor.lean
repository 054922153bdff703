import MiniTrantor.Reentry
import MiniTrantor.Trace
import MiniTrantor.Incremental
import MiniTrantor.OrderedMap
import MiniTrantor.Reachability
import MiniTrantor.Mailbox
import MiniTrantor.Net.Channel
import MiniTrantor.Net.Connection.State
import MiniTrantor.Net.Connection.Loop
import MiniTrantor.Net.Connection.Awaiters
import MiniTrantor.Net.Connection.Transport
import MiniTrantor.Net.Connection.TcpConnection
import MiniTrantor.Net.Connection.Run
import MiniTrantor.Net.Connection.Moves
import MiniTrantor.Net.Connection.Effects
import MiniTrantor.Net.Connection.Invariants
import MiniTrantor.Net.Connection.Behaviour
import MiniTrantor.Net.Connection.Waiters
import MiniTrantor.Net.Connection.Dispatch
import MiniTrantor.Net.Connection.Released
import MiniTrantor.Net.Connection.AwaiterProtocol
import MiniTrantor.Net.Connection.Input
import MiniTrantor.Net.Connection.Output
import MiniTrantor.Net.Connection.Shutdown
import MiniTrantor.Net.Connection.Lifecycle
import MiniTrantor.Net.Connection.Inert
import MiniTrantor.Net.Connection.Destroyed
import MiniTrantor.Net.Connection.Backpressure
import MiniTrantor.Net.Framing.PacketFramer
import MiniTrantor.Net.Framing.Wire
import MiniTrantor.Net.Framing.Stream
import MiniTrantor.Net.Framing.Reader
import MiniTrantor.Net.Framing.Canonical
import MiniTrantor.Net.Timer.TimerQueue
import MiniTrantor.Net.Timer.Invariant
import MiniTrantor.Net.Timer.Expiry
import MiniTrantor.Net.Loop.EventLoop
import MiniTrantor.Net.Loop.Moves
import MiniTrantor.Net.Loop.Posting
import MiniTrantor.Net.Loop.Wakeup
import MiniTrantor.Net.Loop.Cancellation
import MiniTrantor.Net.Loop.Deadlines
import MiniTrantor.Net.Client.ConnectorContract
import MiniTrantor.Net.Client.Backoff
import MiniTrantor.Net.Client.SingleSession
import MiniTrantor.Net.Client.Exhaustion
import MiniTrantor.Net.Client.StopWins
import MiniTrantor.Net.Session.FailClosed
import MiniTrantor.Net.Session.WriteInterest
import MiniTrantor.Net.Session.WriteRetry
import MiniTrantor.Net.Session.Notices
import MiniTrantor.Net.Session.WriteLengths
import MiniTrantor.Net.Connection.EndOfStream
import MiniTrantor.Net.Server.Drain
import MiniTrantor.Net.Server.Bookkeeping
import MiniTrantor.Net.Poller.Registration
import MiniTrantor.Net.Poller.Waits
import MiniTrantor.Net.Poller.Dispatch
import MiniTrantor.Net.Buffer.Queue
import MiniTrantor.Net.Buffer.Growth
import MiniTrantor.Coroutine.CancelOnce
import MiniTrantor.Net.Dns.SettledOnce
import MiniTrantor.Net.Dns.Transparency
import MiniTrantor.Net.Idle.Disarmed
import MiniTrantor.Net.Idle.IdleClose
import MiniTrantor.Net.Accept.Accounted
import MiniTrantor.Net.Timer.PollTimeout
import MiniTrantor.Coroutine.SharedGates
import MiniTrantor.Net.Session.BackpressureEvents
import MiniTrantor.Coroutine.Timeout.OutcomeLaw
import MiniTrantor.Net.Worker.Lifecycle
import MiniTrantor.Coroutine.Tasks.Promises
