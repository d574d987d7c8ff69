import SocialApi.Process.Program
import SocialApi.Process.System
import SocialApi.Process.Phases
import SocialApi.Domain.Model
import SocialApi.Codec.Base64
import SocialApi.Api.Dto
import SocialApi.Infrastructure.Postgres
import SocialApi.Infrastructure.Redis
import SocialApi.Application.LikeService
import SocialApi.Proofs.BatchCounts
import SocialApi.Proofs.GuardedSection
import SocialApi.Proofs.FlightLocks
import SocialApi.Proofs.CountCoherence
import SocialApi.Order.Keyset
import SocialApi.Ledger.Books
import SocialApi.Ledger.Streaks
import SocialApi.Ledger.TokenBucket
import SocialApi.Proofs.Pagination
import SocialApi.Proofs.PageLimits
import SocialApi.Proofs.CallTracks
import SocialApi.Proofs.ConcurrentCounts
import SocialApi.Proofs.CountLedger
import SocialApi.Application.Sse
import SocialApi.Proofs.SseListener
import SocialApi.Infrastructure.CircuitBreaker
import SocialApi.Infrastructure.BreakerCalls
import SocialApi.Infrastructure.HttpExternalValidator
import SocialApi.Api.Middleware
import SocialApi.Proofs.BreakerAnswers
import SocialApi.Proofs.AuthSoundness
import SocialApi.Proofs.BreakerHistory
import SocialApi.Proofs.BreakerIsolation
import SocialApi.Infrastructure.RateLimit
import SocialApi.Proofs.RateLimitBound
import SocialApi.Process.Cancellation
import SocialApi.Proofs.ContentFlights
import SocialApi.Proofs.FlightCancellation
import SocialApi.Proofs.SingleFlight
import SocialApi.Proofs.CachedVerdicts
import SocialApi.Proofs.ColdCount
import SocialApi.Proofs.FailedRequests
import SocialApi.Proofs.Leaderboard
import SocialApi.Proofs.FlightExclusion
import SocialApi.Proofs.PublishedEvents
import SocialApi.Codec.Json
import SocialApi.Api.EventJson
import SocialApi.Proofs.EventDelivery
import SocialApi.Proofs.OfflineCounts
import SocialApi.Proofs.CountSign
import SocialApi.Process.Budget
import SocialApi.Proofs.Progress
import SocialApi.Proofs.OverlappingCalls
import SocialApi.Proofs.Instants
import SocialApi.Proofs.CountAge
import SocialApi.Process.Turns
import SocialApi.Proofs.EventOrder
import SocialApi.Process.Broadcast
import SocialApi.Api.SseStream
import SocialApi.Proofs.LaggingClient
import SocialApi.Proofs.LeaderboardAge
import SocialApi.Proofs.LikeStatus
import SocialApi.Proofs.UserIsolation
import SocialApi.Proofs.RateLimitExact
import SocialApi.Proofs.LikedInstant
import SocialApi.Proofs.NegativeCaching
import SocialApi.Proofs.LeaderboardStampede
import SocialApi.Proofs.StoreKeys
import SocialApi.Proofs.RateLimitHeaders
import SocialApi.Proofs.CursorInUrl
import SocialApi.Proofs.ContentRegistry
import SocialApi.Process.Linearization
import SocialApi.Domain.LikeBook
import SocialApi.Proofs.LikeHistories
import SocialApi.Proofs.CountHealing
import SocialApi.Process.Refinement
import SocialApi.Api.Errors
import SocialApi.Api.Handlers
import SocialApi.Api.App
import SocialApi.Proofs.ServedStore
import SocialApi.Proofs.AppRefinement
import SocialApi.Proofs.AppAuthorization
import SocialApi.Proofs.AppLimits
import SocialApi.Application.EventPipeline
import SocialApi.Proofs.PipelineWorker
import SocialApi.Proofs.PipelineDelivery
import SocialApi.Proofs.PipelineWedge
