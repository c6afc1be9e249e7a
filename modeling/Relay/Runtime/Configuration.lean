import Relay.Domain.Responses
import Relay.Intake.Accept
import Relay.Supervisor.Capacity

/-!
# Configuration (`src/configuration.ts`)

`AppConfigurationLive` reads the environment: a variable that is unset takes its
default, one that is set must pass the schema of its section. A number of
milliseconds is exact. The resilience section is checked apart from the others and
is left to the delivery engine.
-/

namespace Relay

/-! ## Checked values -/

/-- `Schema.Int.check(isGreaterThan(0))`; `Schema.Int` takes the safe integers. -/
structure PositiveInteger where
  value : ℕ+
  safe : (value : ℕ) ≤ maxSafeInteger

def PositiveInteger.check (x : Number) : Option PositiveInteger :=
  match positiveInteger x with
  | none => none
  | some value => if safe : (value : ℕ) ≤ maxSafeInteger then some ⟨value, safe⟩ else none

/-- What `Schema.DurationFromString` makes of a text. -/
inductive Duration where
  | finite (millis : Number)
  | infinity
  | negativeInfinity
deriving DecidableEq

structure PositiveFiniteDuration where
  millis : Number
  positive : 0 < millis

def PositiveFiniteDuration.check : Duration → Option PositiveFiniteDuration
  | .finite millis => if positive : 0 < millis then some ⟨millis, positive⟩ else none
  | .infinity | .negativeInfinity => none

/-! ## The environment -/

/-- The variables that are set, decoded as numbers, durations and a URL; a text that does not decode is refused
before any of the checks below. -/
structure Environment where
  destinationId : Option String
  destinationUrl : Option URL
  destinationAuthorization : Option String
  destinationConfigurationVersion : Option Number
  globalConcurrency : Option Number
  destinationConcurrency : Option Number
  deliveryRequestsCapacity : Option Number
  deliveryRequestsPerDestinationCapacity : Option Number
  deliveryEventsCapacity : Option Number
  recoveryClaimBatchSize : Option Number
  recoveryClaimLease : Option Duration
  recoveryClaimRenewInterval : Option Duration
  recoveryPollInterval : Option Duration

/-- `Config.schema(…).pipe(Config.withDefault(…))`. -/
def configured {α β : Type} (check : β → Option α) (default : α) : Option β → Option α
  | none => some default
  | some value => check value

structure DeliveryRecovery where
  claimBatchSize : PositiveInteger
  claimLeaseDuration : PositiveFiniteDuration
  claimRenewInterval : PositiveFiniteDuration
  pollInterval : PositiveFiniteDuration
  renews : claimRenewInterval.millis < claimLeaseDuration.millis

structure AppConfiguration where
  destination : Destination
  destinationConfigurationVersion : ConfigurationVersion
  concurrency : DeliveryConcurrency
  flow : DeliveryFlow
  perDestination_le : flow.deliveryRequestsPerDestinationCapacity ≤ flow.deliveryRequestsCapacity
  recovery : DeliveryRecovery

/-! ## Defaults -/

def defaultDestinationConfigurationVersion : ConfigurationVersion := Nat.toPNat' 1

def defaultDeliveryRecovery : DeliveryRecovery where
  claimBatchSize := ⟨Nat.toPNat' 64, by decide⟩
  claimLeaseDuration := ⟨30000, by norm_num⟩
  claimRenewInterval := ⟨10000, by norm_num⟩
  pollInterval := ⟨1000, by norm_num⟩
  renews := by norm_num

namespace Environment

variable (environment : Environment)

/-! ## Sections -/

def destination : Option Destination := do
  let id ← configured (fun text => if wf : isSlug "dst-" text = true then some ⟨text, wf⟩ else none)
    (⟨"dst-primary", by decide⟩ : DestinationId) environment.destinationId
  let endpoint ← environment.destinationUrl
  let authorization ← environment.destinationAuthorization
  pure ⟨id, endpoint, authorization⟩

def configurationVersion : Option ConfigurationVersion :=
  configured (fun x => (PositiveInteger.check x).map PositiveInteger.value) defaultDestinationConfigurationVersion
    environment.destinationConfigurationVersion

def concurrency : Option DeliveryConcurrency := do
  let global ← configured PositiveInteger.check ⟨Nat.toPNat' 64, by decide⟩ environment.globalConcurrency
  let perDestination ← configured PositiveInteger.check ⟨Nat.toPNat' 4, by decide⟩ environment.destinationConcurrency
  pure ⟨global.value, perDestination.value⟩

/-- `DeliveryFlowSchema`, with what the filter has found. -/
def flow : Option { flow : DeliveryFlow //
    flow.deliveryRequestsPerDestinationCapacity ≤ flow.deliveryRequestsCapacity } := do
  let requests ← configured PositiveInteger.check ⟨Nat.toPNat' 1024, by decide⟩ environment.deliveryRequestsCapacity
  let _ ← configured PositiveInteger.check ⟨Nat.toPNat' 64, by decide⟩ environment.deliveryEventsCapacity
  -- unset, it is the smaller of its default and the capacity configured for all
  let perDestination ← match environment.deliveryRequestsPerDestinationCapacity with
    | none => some (min (Nat.toPNat' 256) requests.value)
    | some x => (PositiveInteger.check x).map PositiveInteger.value
  if le : perDestination ≤ requests.value then some ⟨⟨requests.value, perDestination⟩, le⟩ else none

/-- `DeliveryRecoverySchema`: the renewal interval must be shorter than the lease. -/
def recovery : Option DeliveryRecovery := do
  let claimBatchSize ← configured PositiveInteger.check defaultDeliveryRecovery.claimBatchSize
    environment.recoveryClaimBatchSize
  let claimLeaseDuration ← configured PositiveFiniteDuration.check defaultDeliveryRecovery.claimLeaseDuration
    environment.recoveryClaimLease
  let claimRenewInterval ← configured PositiveFiniteDuration.check defaultDeliveryRecovery.claimRenewInterval
    environment.recoveryClaimRenewInterval
  let pollInterval ← configured PositiveFiniteDuration.check defaultDeliveryRecovery.pollInterval
    environment.recoveryPollInterval
  if renews : claimRenewInterval.millis < claimLeaseDuration.millis then
    some ⟨claimBatchSize, claimLeaseDuration, claimRenewInterval, pollInterval, renews⟩
  else none

end Environment

/-- The configuration of an environment that is accepted. -/
def appConfigurationLive (environment : Environment) : Option AppConfiguration := do
  let destination ← environment.destination
  let version ← environment.configurationVersion
  let concurrency ← environment.concurrency
  let flow ← environment.flow
  let recovery ← environment.recovery
  pure ⟨destination, version, concurrency, flow.1, flow.2, recovery⟩

/-! ## What the parts of the program are configured with -/

namespace AppConfiguration

variable (configuration : AppConfiguration) (workerId : WorkerId)

def intake : IntakeConfiguration where
  destination := configuration.destination
  destinationConfigurationVersion := configuration.destinationConfigurationVersion
  claimLeaseDurationMillis := configuration.recovery.claimLeaseDuration.millis
  workerId

def supervisor : SupervisorConfiguration where
  workerId
  destination := configuration.destination.id
  claimBatchSize := ((configuration.recovery.claimBatchSize.value : ℕ) : Number)
  claimLeaseDurationMillis := configuration.recovery.claimLeaseDuration.millis
  deliveryRequestsCapacity := configuration.flow.deliveryRequestsCapacity
  deliveryRequestsPerDestinationCapacity := configuration.flow.deliveryRequestsPerDestinationCapacity
  perDestination_le := configuration.perDestination_le

def capacity : CapacityConfiguration := ⟨configuration.concurrency, configuration.flow⟩

end AppConfiguration

/-! ## What is accepted -/

namespace Sample

/-- Only the destination and the lease are set, and a renewal interval of half the lease. -/
def leaseEnvironment (lease : Number) : Environment where
  destinationId := none
  destinationUrl := some ⟨"https://invoices.example/hook"⟩
  destinationAuthorization := some "Bearer token"
  destinationConfigurationVersion := none
  globalConcurrency := none
  destinationConcurrency := none
  deliveryRequestsCapacity := none
  deliveryRequestsPerDestinationCapacity := none
  deliveryEventsCapacity := none
  recoveryClaimBatchSize := none
  recoveryClaimLease := some (.finite lease)
  recoveryClaimRenewInterval := some (.finite (lease / 2))
  recoveryPollInterval := none

end Sample

/-- **Every positive lease is accepted**, whole or not, with a renewal interval of half of it. -/
theorem accepts_lease {lease : Number} (positive : 0 < lease) :
    ∃ configuration ∈ appConfigurationLive (Sample.leaseEnvironment lease),
      configuration.recovery.claimLeaseDuration.millis = lease ∧ configuration.destinationConfigurationVersion = 1 := by
  have half : 0 < lease / 2 := by positivity
  have renews : lease / 2 < lease := by linarith
  let accepted : DeliveryRecovery := ⟨defaultDeliveryRecovery.claimBatchSize, ⟨lease, positive⟩, ⟨lease / 2, half⟩,
    defaultDeliveryRecovery.pollInterval, renews⟩
  have recovery : (Sample.leaseEnvironment lease).recovery = some accepted := by
    simp [accepted, Environment.recovery, configured, Sample.leaseEnvironment, PositiveFiniteDuration.check, positive, renews]
  obtain ⟨flow, flowAccepted⟩ : ∃ flow, (Sample.leaseEnvironment lease).flow = some flow := ⟨_, rfl⟩
  refine ⟨⟨⟨⟨"dst-primary", by decide⟩, ⟨"https://invoices.example/hook"⟩, "Bearer token"⟩, 1,
    ⟨Nat.toPNat' 64, Nat.toPNat' 4⟩, flow.1, flow.2, accepted⟩, ?_, rfl, rfl⟩
  rw [Option.mem_def, appConfigurationLive, recovery, flowAccepted]
  rfl

end Relay
