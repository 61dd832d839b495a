import MipitCore.Foundation.CachedReads
import MipitCore.Foundation.CheckDigit
import MipitCore.Foundation.Entries
import MipitCore.Foundation.FirstMatch
import MipitCore.Foundation.FixedWidth
import MipitCore.Foundation.Program
import MipitCore.Foundation.Rounding
import MipitCore.Js.Text
import MipitCore.Js.Number
import MipitCore.Js.Regex
import MipitCore.Js.Rounding
import MipitCore.Js.Double
import MipitCore.Js.Shortest
import MipitCore.Js.Schema
import MipitCore.Js.Instants
import MipitCore.Js.Alike
import MipitCore.Domain.Canonical
import MipitCore.Api.PaymentRequest
import MipitCore.Api.Clabe
import MipitCore.Persistence.Repositories
import MipitCore.Service.Calls
import MipitCore.Pipeline.Execute
import MipitCore.Pipeline.Failed
import MipitCore.Pipeline.Faults
import MipitCore.Messaging.Consumers
import MipitCore.Messaging.Terminal
import MipitCore.Pipeline.AckRace
import MipitCore.Api.IdempotentReplies
import MipitCore.Domain.Acceptance
import MipitCore.Domain.Accepted
import MipitCore.Domain.WellFormed
import MipitCore.Translation.PixSpei
import MipitCore.Translation.CreditorKey
import MipitCore.Translation.MappingOrder
import MipitCore.Translation.MappingRows
import MipitCore.Translation.Translator
import MipitCore.Translation.Acceptance
import MipitCore.Foundation.Relay
import MipitCore.Translation.Relay
import MipitCore.Translation.DollarRails
import MipitCore.Translation.References
import MipitCore.Translation.Receiver
import MipitCore.Translation.OriginBank
import MipitCore.Service.Loaders
import MipitCore.Service.Milestones
import MipitCore.Messaging.DeadLetters
import MipitCore.Messaging.Retries
import MipitCore.Compensation.LateAcks
import MipitCore.Compensation.Answers
import MipitCore.Compensation.Batch
import MipitCore.Resilience.CircuitBreaker
import MipitCore.Resilience.Probes
import MipitCore.Resilience.Loops
import MipitCore.Resilience.Wiring
import MipitCore.Webhooks.Accounts
import MipitCore.Webhooks.Announced
import MipitCore.Webhooks.Deliveries
import MipitCore.Pipeline.Conversion
import MipitCore.Reconciliation.Totals
import MipitCore.Reconciliation.Stalled
import MipitCore.Reconciliation.Periodic
import MipitCore.Normalization.FxCache
import MipitCore.Normalization.FxBodies
import MipitCore.Normalization.FxRates
import MipitCore.Normalization.Idempotent
import MipitCore.Normalization.Valid
import MipitCore.Translation.SingleCurrency
import MipitCore.Translation.Mt103Amount
import MipitCore.Translation.Mt103Text
import MipitCore.Translation.Mt103Lines
import MipitCore.Translation.Mt103Clean
import MipitCore.Translation.Mt103RoundTrip
import MipitCore.Translation.Mt103Injection
import MipitCore.Translation.AchRoundTrip
import MipitCore.Translation.AchFile
import MipitCore.Translation.AchColumns
import MipitCore.Translation.AchControls
import MipitCore.Translation.FedNowRoundTrip
import MipitCore.Translation.BreBRoundTrip
import MipitCore.Translation.BreBAccounts
import MipitCore.Translation.Iso20022RoundTrip
import MipitCore.Translation.Amounts
import MipitCore.Translation.PositiveAmounts
import MipitCore.Resilience.Observers
import MipitCore.Resilience.RetryAfter
import MipitCore.Resilience.Sequential
import MipitCore.Resilience.FailureRate
import MipitCore.Resilience.RateLimiter
import MipitCore.Routing.AliasTypes
import MipitCore.Routing.RouteEngine
import MipitCore.Api.RateLimit
import MipitCore.Api.Sanitize
import MipitCore.Api.Sse
import MipitCore.Api.TranslateRoutes
import MipitCore.Service.Records
import MipitCore.Service.Provenance
import MipitCore.Service.Published
import MipitCore.Service.Deployment
import MipitCore.Service.Requested
import MipitCore.Service.Alone
import MipitCore.Service.AuditTrail
import MipitCore.Service.Timeline
import MipitCore.Service.Handover
import MipitCore.Foundation.Grouping
import MipitCore.Api.Analytics
import MipitCore.Resilience.Backoff
