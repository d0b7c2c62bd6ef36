import Sn360Es.Evaluate.CircuitBreaker
import Sn360Es.Evaluate.BatchParity
import Sn360Es.Action.LabelApplier
import Sn360Es.Action.UrlRewriter
import Sn360Es.Action.ReleaseFencing
import Sn360Es.Action.ReleaseLoop
import Sn360Es.Events.Consumer
import Sn360Es.Ingestion.GmailMailbox
import Sn360Es.Ingestion.VisibleText
import Sn360Es.Ingestion.PushOutlook
import Sn360Es.Ingestion.PushGmail
import Sn360Es.Ingestion.SmtpGateway
import Sn360Es.Ingestion.Poller
import Sn360Es.Ingestion.Burst
import Sn360Es.Action.Feedback
import Sn360Es.Action.ActionStream
import Sn360Es.Config.StaleConfig
import Sn360Es.Config.ConcurrentWrites
import Sn360Es.Escalation.Resolver
import Sn360Es.Escalation.ConcurrentResolve
import Sn360Es.Escalation.RedeliveredResolve
import Sn360Es.Relationship.VendorDiscovery
import Sn360Es.Handler.Vendor
import Sn360Es.Worker.VendorJob
import Sn360Es.Worker.RelationshipJob
import Sn360Es.Worker.SampledOnce
import Sn360Es.Worker.RollingCounters
import Sn360Es.SelfRelease.RateLimit
import Sn360Es.Agent.TuningApproval
import Sn360Es.Agent.EscalationLoop
import Sn360Es.Handler.BannerRelease
import Sn360Es.Handler.Api
import Sn360Es.Handler.Management
import Sn360Es.Onboarding.TokenStore
import Sn360Es.Onboarding.Service
import Sn360Es.Onboarding.TenantCredentials
import Sn360Es.Lib.Lease
import Sn360Es.Storage.TenantContext
import Sn360Es.Onboarding.Residency
import Sn360Es.Action.BlockedDelivery
import Sn360Es.Action.MailCopies
import Sn360Es.Action.ComposedActions
import Sn360Es.Action.ReopenedBanner
import Sn360Es.Lib.Cut
import Sn360Es.Ingestion.FastmailMailbox
import Sn360Es.Lib.GoBytes
import Sn360Es.Lib.Utf8
import Sn360Es.Provider.BannerSplice
import Sn360Es.Lib.NetUrl
import Sn360Es.Lib.Chunks
import Sn360Es.Lib.Upsert
import Sn360Es.Lib.Sha256
import Sn360Es.Intel.Indicator
import Sn360Es.Intel.Store
import Sn360Es.Tier0.TiMatch
import Sn360Es.Tier0.ListedUrl
import Sn360Es.Lib.Aead
import Sn360Es.Privacy.Encryptor
import Sn360Es.Lib.TransferEncoding
import Sn360Es.Provider.FastmailMime
import Sn360Es.Provider.GmailMime
import Sn360Es.Provider.BodyRewrite
import Sn360Es.Bridge.PlatformPublisher
import Sn360Es.Action.ReleasedEvent
import Sn360Es.Lib.Late
import Sn360Es.Handler.RepeatedRelease
import Sn360Es.Onboarding.ConcurrentTokens
import Sn360Es.Privacy.Erasure
import Sn360Es.Agent.Types
import Sn360Es.Agent.Onboarding
import Sn360Es.Worker.DirectorySync
import Sn360Es.Worker.DirectoryDelta
import Sn360Es.Handler.PushSignature
import Sn360Es.Middleware.LogSanitizer
import Sn360Es.Agent.Tuning
import Sn360Es.Evaluate.ThresholdOrder
import Sn360Es.Evaluate.ExactScorer
import Sn360Es.Tier0.TiCache
import Sn360Es.Evaluate.CategorizerOrder
import Sn360Es.Action.SubjectTag
import Sn360Es.Action.HrefScan
import Sn360Es.Action.UrlProtection
import Sn360Es.Ingestion.Poison
import Sn360Es.Lib.NetMail
import Sn360Es.Provider.FastmailBanner
import Sn360Es.Ingestion.BannerLoop
import Sn360Es.Ingestion.HiddenText
import Sn360Es.Ingestion.SmtpReply
import Sn360Es.Ingestion.PushAck
import Sn360Es.Events.DlqRetry
import Sn360Es.Events.DlqSubscriptions
import Sn360Es.Ingestion.PushSubscriptions
import Sn360Es.Http.Client
import Sn360Es.Lib.TokenBucket
import Sn360Es.Middleware.RateLimitMemory
import Sn360Es.Middleware.RetryAfter
import Sn360Es.Storage.RateBucket
import Sn360Es.Events.TenantLimiter
import Sn360Es.Events.Throttling
import Sn360Es.Middleware.ClientIp
import Sn360Es.Sinks.SsrfGuard
import Sn360Es.Relationship.Sightings
import Sn360Es.Sinks.Event
import Sn360Es.Sinks.Publisher
import Sn360Es.Sinks.Cef
import Sn360Es.Relationship.SightingRuns
import Sn360Es.Sinks.Dispatcher
import Sn360Es.Sinks.WebhookDlq
import Sn360Es.Lib.JsonText
import Sn360Es.Lib.JsonQuote
import Sn360Es.Events.SchemaStamp
import Sn360Es.Events.StreamRouting
import Sn360Es.Lib.JsonDecode
import Sn360Es.Slm.Verdict
import Sn360Es.Slm.Router
import Sn360Es.Agent.OnboardingEvents
import Sn360Es.Agent.EscalationAnnounce
import Sn360Es.Worker.Runner
import Sn360Es.Education.Campaign
import Sn360Es.Middleware.Jwks
import Sn360Es.Intel.StixPattern
import Sn360Es.Lib.Calendar
import Sn360Es.Worker.PartitionBound
import Sn360Es.Worker.Partition
import Sn360Es.Lib.StreamGroup
import Sn360Es.Events.RedisStreams
import Sn360Es.Events.RedisRedelivery
import Sn360Es.Education.Interactions
