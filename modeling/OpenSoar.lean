import OpenSoar.Lib.Table
import OpenSoar.Lib.Run
import OpenSoar.Lib.ReadCommitted
import OpenSoar.Lib.Replay
import OpenSoar.Lib.Distinct
import OpenSoar.Lib.UnitOfWork
import OpenSoar.Lib.Outbox
import OpenSoar.Lib.Retry
import OpenSoar.Lib.Expiring
import OpenSoar.Lib.TwoPhase
import OpenSoar.Python.Text
import OpenSoar.Python.Json
import OpenSoar.Python.Uuid
import OpenSoar.Models
import OpenSoar.Auth
import OpenSoar.Ingestion.Normalize
import OpenSoar.Ingestion.Payload
import OpenSoar.Ingestion.Webhook
import OpenSoar.Ingestion.Columns
import OpenSoar.Ingestion.Tenants
import OpenSoar.Ingestion.Dedup
import OpenSoar.Api.Alerts
import OpenSoar.Runtime
import OpenSoar.Lifecycle.System
import OpenSoar.Lifecycle.Resolution
import OpenSoar.Lifecycle.Audit
import OpenSoar.Lifecycle.Vocabulary
import OpenSoar.Lifecycle.Single
import OpenSoar.Lifecycle.Bulk
import OpenSoar.Core.Decorators
import OpenSoar.Core.Registry
import OpenSoar.Core.Triggers
import OpenSoar.Core.Executor
import OpenSoar.Core.Runs
import OpenSoar.Core.Scheduler
import OpenSoar.Worker.Tasks
import OpenSoar.Worker.Retries
import OpenSoar.Worker.Enrichment
import OpenSoar.Worker.Scheduling
import OpenSoar.Api.Webhooks
import OpenSoar.Api.Ingest
import OpenSoar.Api.Playbooks
import OpenSoar.Api.Incidents
import OpenSoar.Retention.Rows
import OpenSoar.Api.IncidentUpdates
import OpenSoar.Retention.Service
import OpenSoar.Retention.System
import OpenSoar.Retention.Phases
import OpenSoar.Retention.Clock
import OpenSoar.Dispatch.System
import OpenSoar.Dispatch.Enabled
import OpenSoar.Dispatch.Scope
import OpenSoar.Dispatch.Ahead
import OpenSoar.Lib.Reference
import OpenSoar.Retention.Purge
import OpenSoar.Retention.References
import OpenSoar.Retention.Trail
import OpenSoar.Retention.DryRun
import OpenSoar.Worker.Materialise
import OpenSoar.Api.Observables
import OpenSoar.Integrations.Cache
import OpenSoar.Integrations.Connectors
import OpenSoar.Worker.Credentials
import OpenSoar.Worker.Freshness
import OpenSoar.Api.Invalidation
import OpenSoar.Worker.Inflight
import OpenSoar.Api.Enrichments
import OpenSoar.Worker.Stranded
import OpenSoar.Integrations.Backends
import OpenSoar.Api.Integrations
import OpenSoar.Api.IncidentStreams
import OpenSoar.Lifecycle.Incidents
import OpenSoar.Lifecycle.Rejections
import OpenSoar.Api.Links
import OpenSoar.Lib.SlidingWindow
import OpenSoar.Middleware.RateLimit
import OpenSoar.Ai.Anomaly
import OpenSoar.Core.Imports
import OpenSoar.Scripts.ElasticPoller
import OpenSoar.Core.Reload
import OpenSoar.Api.StaticFiles
import OpenSoar.Api.WebhookKeys
import OpenSoar.Lib.Guarded
import OpenSoar.Api.Analysts
import OpenSoar.Comments.Mentions
import OpenSoar.Python.Datetime
import OpenSoar.Api.Activities
import OpenSoar.Api.ReadOnly
import OpenSoar.Api.Bodies
import OpenSoar.Python.Dynamic
import OpenSoar.Scripts.ThehiveImport
import OpenSoar.Core.Ticks
import OpenSoar.Middleware.Budgets
import OpenSoar.Core.Spacing
import OpenSoar.Ai.Signals
import OpenSoar.Lib.Sample
import OpenSoar.Python.ExactFloats
import OpenSoar.Ai.Order
import OpenSoar.Ingestion.Vendors
import OpenSoar.Ingestion.Indicators
import OpenSoar.Python.Ascii
import OpenSoar.Ingestion.Severity
import OpenSoar.Worker.Isolation
import OpenSoar.Integrations.Answers
import OpenSoar.Python.JsonText
import OpenSoar.Python.JsonRoundTrip
import OpenSoar.Integrations.Memo
import OpenSoar.Api.EditHistory
import OpenSoar.Comments.Tokens
import OpenSoar.Comments.Reach
import OpenSoar.Api.Mentionable
import OpenSoar.Ai.Endpoints
import OpenSoar.Ai.AutoResolve
import OpenSoar.Ai.Survival
import OpenSoar.Ai.Deduplicate
import OpenSoar.Lib.TopK
import OpenSoar.Ai.TopCandidates
import OpenSoar.Ai.Coherence
import OpenSoar.Scripts.ThehiveExport
import OpenSoar.Worker.Routing
import OpenSoar.Python.Asyncio
import OpenSoar.Worker.Runners
import OpenSoar.Integrations.Sources
import OpenSoar.Worker.KeySpaces
import OpenSoar.Lib.Waiting
import OpenSoar.Core.StartupSync
import OpenSoar.Lib.Paging
import OpenSoar.Api.Listings
import OpenSoar.Python.UuidText
import OpenSoar.Api.Accounts
import OpenSoar.Api.Sessions
import OpenSoar.Comments.Notifications
import OpenSoar.Worker.InflightOutages
import OpenSoar.Lib.Queueing
import OpenSoar.Api.Dashboard
import OpenSoar.Integrations.Splunk
import OpenSoar.Lib.Grouping
import OpenSoar.Api.Suggestions
import OpenSoar.BootstrapAdmin
import OpenSoar.Scripts.ThehiveCases
import OpenSoar.Lib.Tally
import OpenSoar.Retention.Counts
import OpenSoar.Ui.MentionText
import OpenSoar.Ui.MentionComposer
import OpenSoar.Retention.Ingested
import OpenSoar.Lib.Lineage
import OpenSoar.Worker.TraceSystem
import OpenSoar.Worker.CorrelationIds
