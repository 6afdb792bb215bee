/-
The customer self-service backend: event loop, core values, ports and services.
-/

import SelfService.EventLoop.Task
import SelfService.EventLoop.Pool
import SelfService.EventLoop.Safety
import SelfService.EventLoop.History
import SelfService.EventLoop.Alone
import SelfService.EventLoop.Trail
import SelfService.Data.OrderedMap
import SelfService.Data.Glob
import SelfService.Core.JsValue
import SelfService.Core.Exceptions
import SelfService.Port.DegradedAnswers
import SelfService.Port.WriteResults
import SelfService.Support.ChatOutbox
import SelfService.Support.ChatDelivery
import SelfService.Support.ChatFlushes
import SelfService.Idempotency.RoundTrip
import SelfService.Payment.AmountProvenance
import SelfService.Payment.QueuedCharges
import SelfService.Payment.BatchTotals
import SelfService.Payment.WebhookInvalidation
import SelfService.Caching.Retention
import SelfService.Caching.CacheEquivalence
import SelfService.Payment.WebhookOnce
import SelfService.Auth.PiiEncryptionService
import SelfService.Security.RateLimitGuard
import SelfService.Binding.BindingSafety
import SelfService.Port.CacheHistory
import SelfService.Binding.BindingTables
import SelfService.Binding.BindingProvenance
import SelfService.Binding.MockCustomerServiceClient
import SelfService.Binding.PhoneUniqueness
import SelfService.Binding.BindingAudit
import SelfService.Binding.SingleUse
import SelfService.Port.InboundIdempotency
import SelfService.Port.RecordedHits
import SelfService.Resilience.BreakerCounts
import SelfService.Resilience.Probing
import SelfService.Port.BreakerGate
import SelfService.Port.FailureClasses
import SelfService.Port.VerbConventions
import SelfService.Port.HalfOpenProbe
import SelfService.Port.CacheProvenance
import SelfService.Port.CallerIdentity
import SelfService.Port.ReadAfterWrite
import SelfService.Port.UnlistedVerbs
import SelfService.Port.HotReload
import SelfService.Port.DisabledQueue
import SelfService.Port.PortUpdates
import SelfService.Port.QueuedWrites
import SelfService.Port.ExecuteOnce
import SelfService.Port.OutboundIdempotency
import SelfService.Domain.AggregateRepository
import SelfService.Database.UnitOfWork
import SelfService.Auth.CiphertextForm
import SelfService.Auth.BlindIndex
import SelfService.Outbox.Exclusion
import SelfService.Outbox.Delivery
import SelfService.Outbox.Retries
import SelfService.Session.InMemorySessionStore
import SelfService.Clients.OwnerScope
import SelfService.Session.SessionPages
import SelfService.Support.HeadOfLine
import SelfService.Support.ConversationMerge
import SelfService.Resilience.DecoratorBreaker
import SelfService.Port.RetryProtocol
import SelfService.Domain.OutboxAtomicity
import SelfService.Caching.PatternDeletion
import SelfService.Port.QueryParameters
import SelfService.Outbox.PublicationOrder
import SelfService.Usage.ConsumptionComparison
import SelfService.Resilience.Retry
import SelfService.Port.Aggregation
import SelfService.Port.ErrorAnswers
import SelfService.Observability.Redaction
import SelfService.Observability.ErrorPathRedaction
import SelfService.Security.WebhookSignature
import SelfService.Port.ConfigReload
import SelfService.Binding.IdUniqueness
import SelfService.Resilience.FallbackSlots
import SelfService.Binding.PhoneNumbers
import SelfService.EventLoop.Returning
import SelfService.Port.WorkingCache
import SelfService.Binding.Lockout
import SelfService.Binding.BruteForce
import SelfService.Binding.Registrations
import SelfService.Domain.UserHistory
import SelfService.Notification.OtpDelivery
import SelfService.Caching.KeyCodes
import SelfService.EventLoop.Bystanders
import SelfService.EventLoop.Waiting
import SelfService.Outbox.Conservation
import SelfService.Port.PortIsolation
import SelfService.Binding.BoundCustomer
import SelfService.Auth.JwtSigner
import SelfService.Port.IdentityPropagation
import SelfService.EventLoop.Credits
import SelfService.Port.Traffic
import SelfService.Payment.PaymentTraffic
import SelfService.Support.ChatTraffic
import SelfService.Outbox.Draining
