import CreditHedge.Domain.Risk

/-!
# Deployment profiles

`EnvironmentProfile` of `config/deployment.py`: where a deployment connects to, and what it may do
there. Left out are its database's path and the names of its credentials.
-/

set_option autoImplicit false

namespace CreditHedge

inductive RuntimeEnvironment where
  | localExact
  | localSimulated
  | demo
  | shadowMainnet
  | productionPilot
  | production
  deriving DecidableEq, Repr

namespace RuntimeEnvironment

/-- The member's value. -/
def value : RuntimeEnvironment → String
  | localExact => "LOCAL_EXACT"
  | localSimulated => "LOCAL_SIMULATED"
  | demo => "DEMO"
  | shadowMainnet => "SHADOW_MAINNET"
  | productionPilot => "PRODUCTION_PILOT"
  | production => "PRODUCTION"

/-- `_MUTATING_ENVIRONMENTS`. -/
def mutating : List RuntimeEnvironment := [demo, productionPilot, production]

/-- `_EXPECTED_ENDPOINTS`: the REST URL, and that of the private WebSocket. -/
def expectedEndpoints : RuntimeEnvironment → Option String × Option String
  | localExact | localSimulated => (none, none)
  | demo =>
    (some "https://api-demo.bybit.com", some "wss://stream-demo.bybit.com/v5/private")
  | shadowMainnet | productionPilot | production =>
    (some "https://api.bybit.com", some "wss://stream.bybit.com/v5/private")

end RuntimeEnvironment

structure EnvironmentProfileFields where
  environment : RuntimeEnvironment
  restBaseUrl : Option String
  privateWebsocketUrl : Option String
  externalOrderMutationsEnabled : Bool
  requiredExecutionSchemaVersion : ℤ
  requiredJournalSchemaVersion : ℤ
  maximumClockDriftMs : ℤ
  maximumMarketDataAgeMs : ℤ
  riskLimits : RiskLimits

/-- `EnvironmentProfile.__post_init__`, without its checks of the credentials. -/
def EnvironmentProfileFields.check (f : EnvironmentProfileFields) : Except Failure Unit := do
  refuseIf (f.restBaseUrl ≠ f.environment.expectedEndpoints.1) "environment and REST URL conflict"
  refuseIf (f.privateWebsocketUrl ≠ f.environment.expectedEndpoints.2)
    "environment and private WebSocket URL conflict"
  refuseIf (f.externalOrderMutationsEnabled = true ∧ f.environment ∉ RuntimeEnvironment.mutating)
    s!"{f.environment.value} cannot enable external order mutations"
  refuseIf (f.requiredExecutionSchemaVersion < 0)
    "required execution schema version cannot be negative"
  refuseIf (f.requiredJournalSchemaVersion < 0) "required journal schema version cannot be negative"
  refuseIf (f.maximumClockDriftMs < 0) "maximum clock drift ms cannot be negative"
  refuseIf (f.maximumMarketDataAgeMs < 0) "maximum market data age ms cannot be negative"

structure EnvironmentProfile extends EnvironmentProfileFields where
  checked : toEnvironmentProfileFields.check = .ok ()

/-- A profile that is for watching only is for nothing else. -/
theorem EnvironmentProfile.watches (profile : EnvironmentProfile)
    (h : profile.environment = .shadowMainnet) :
    profile.externalOrderMutationsEnabled = false ∧
      profile.restBaseUrl = some "https://api.bybit.com" := by
  have hchecked := profile.checked
  simp only [EnvironmentProfileFields.check, bind_unit_eq_ok, refuseIf_eq_ok] at hchecked
  obtain ⟨hrest, -, hmutations, -⟩ := hchecked
  rw [h] at hrest hmutations
  constructor
  · cases henabled : profile.externalOrderMutationsEnabled with
    | false => rfl
    | true => exact absurd ⟨henabled, by decide⟩ hmutations
  · exact not_not.mp hrest

end CreditHedge
