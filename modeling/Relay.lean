import Relay.Library.Sql
import Relay.Library.Transition
import Relay.Library.Analysis
import Relay.Library.Binary64
import Relay.Domain.Services
import Relay.Ledger.Spec
import Relay.Adapters.Memory
import Relay.Adapters.MemoryServed
import Relay.Adapters.MemoryRefines
import Relay.Ledger.Effect
import Relay.Ledger.Fencing
import Relay.Store.Machine
import Relay.Library.Table
import Relay.Adapters.PostgresSchema
import Relay.Adapters.Postgres
import Relay.Adapters.PostgresServed
import Relay.Adapters.PostgresCalls
import Relay.Adapters.PostgresRefines
import Relay.Adapters.PostgresIntake
import Relay.Adapters.PostgresClaim
import Relay.Store.Fencing
import Relay.Ledger.Attempts
import Relay.Ledger.Lifecycle
import Relay.Ledger.Claims
import Relay.Store.Lifecycle
import Relay.Store.Agreement
import Relay.Adapters.PostgresDecisions
import Relay.Adapters.MemoryDecisions
import Relay.Store.Intake
import Relay.Store.Replay
import Relay.Runtime.Readiness
import Relay.Delivery.Deadline
import Relay.Delivery.Retries
import Relay.Delivery.History
import Relay.Delivery.Delays
import Relay.Domain.Responses
import Relay.Delivery.Recordable
import Relay.Intake.Submission
import Relay.Intake.Idempotency
import Relay.Worker.Result
import Relay.Worker.Outcome
import Relay.Worker.Claims
import Relay.Worker.Budget
import Relay.Supervisor.Overload
import Relay.Library.Gate
import Relay.Supervisor.Capacity
import Relay.Supervisor.Bounds
import Relay.Adapters.MemoryEvents
import Relay.Adapters.PostgresEvents
import Relay.Store.Events
import Relay.Store.Claiming
import Relay.Adapters.PostgresReads
import Relay.Adapters.PostgresChecks
import Relay.Store.Schema
import Relay.Store.StatusReads
import Relay.Ledger.Recovery
import Relay.Adapters.PostgresRecovery
import Relay.Store.Recovery
import Relay.Ledger.Routes
import Relay.Worker.Routing
import Relay.Runtime.Configuration
import Relay.Adapters.Limits
import Relay.Store.Atomicity
import Relay.Store.Configured
import Relay.Adapters.PostgresCodecs
import Relay.Store.ClaimOrder
import Relay.Store.Reads
import Relay.Operations.Requests
import Relay.Operations.Answers
import Relay.Operations.Runs
import Relay.Operations.Http
import Relay.Library.Ddl
import Relay.Library.Migration
import Relay.Adapters.PostgresMigrations
import Relay.Adapters.PostgresTables
import Relay.Adapters.PostgresUpgrades
import Relay.Library.Sweep
import Relay.Supervisor.Reconciler
import Relay.Supervisor.Calls
import Relay.Supervisor.Passes
import Relay.Supervisor.Drain
import Relay.Library.Json
import Relay.Library.Codec
import Relay.Wire.Schemas
import Relay.Worker.Events
import Relay.Worker.Submissions
import Relay.Wire.Api
import Relay.Wire.Requests
import Relay.Wire.Operations
import Relay.Wire.Console
import Relay.Wire.Intake
