import RealtimeChat.Database.ConnectionPool
import RealtimeChat.Accounts.Credentials
import RealtimeChat.Sessions.Replay
import RealtimeChat.Realtime.Lifetime
import RealtimeChat.Presence.Updates
import RealtimeChat.Realtime.Dispatcher
import RealtimeChat.Chat.Directs
import RealtimeChat.Chat.Sending
import RealtimeChat.Chat.Convergence
import RealtimeChat.Chat.Redaction
import RealtimeChat.Server.AuthController
import RealtimeChat.Authorization.Hierarchy
import RealtimeChat.Chat.Backlog
import RealtimeChat.Chat.ReadUpdates
import RealtimeChat.Audit.Search
import RealtimeChat.Chat.Rosters
import RealtimeChat.Realtime.Heartbeat
import RealtimeChat.Database.Migrations
import RealtimeChat.Jobs.Completion
import RealtimeChat.Metrics.Application
import RealtimeChat.Media.Custody
import RealtimeChat.Chat.Departures
import RealtimeChat.Chat.SearchPages
import RealtimeChat.Realtime.Sessions
import RealtimeChat.Presence.Lockstep
import RealtimeChat.Presence.Views
import RealtimeChat.Cache.RedisCacheStore
import RealtimeChat.Cache.PresenceCache
import RealtimeChat.RateLimit.RateLimiter
import RealtimeChat.Media.LocalFileStorage
import RealtimeChat.Media.ContentTypes
import RealtimeChat.Server.IdFields
import RealtimeChat.Realtime.Inbound
import RealtimeChat.Accounts.Profiles
import RealtimeChat.Config.Config
import RealtimeChat.Logging.AccessLog
import RealtimeChat.Metrics.Histograms
import RealtimeChat.Tracing.Isolation
import RealtimeChat.Realtime.Rooms
import RealtimeChat.Events.Dispatching
import RealtimeChat.Server.Versioning
import RealtimeChat.Tracing.Endpoints
import RealtimeChat.Tracing.Propagation
import RealtimeChat.Jobs.Correlation
import RealtimeChat.Notifications.Feed
