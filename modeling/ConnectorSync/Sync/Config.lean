import ConnectorSync.Environment
import ConnectorSync.Sync.Retry

/-!
# Sync settings

How a connection's manager behaves. `Config.ofEnvironment` reads the settings one by one and stops
at the first that is refused.
-/

namespace ConnectorSync.Sync

structure Config where
  /-- The pause after a generation that could not go on. -/
  workflowDelay : Duration := .ofSeconds 600
  activityMaxAttempts : Nat := 5
  activityInitialInterval : Duration := .ofSeconds 1
  activityMaxInterval : Duration := .ofSeconds 30
  defaultMaxAttempts : Nat := 3
  connectionFile : Option String := none
  syncInterval : Duration := .ofSeconds 3600
  runOnStart : Bool := false

namespace Config

def retryDelay (c : Config) (failedCalls : Nat) : Duration :=
  growingDelay c.activityInitialInterval c.activityMaxInterval 2 failedCalls

def ofEnvironment (env : Environment) : Except ConfigError Config := do
  let d : Config := {}
  let delaySeconds ← env.number "SYNCRUN_WORKFLOW_DELAY_SECS" Environment.below64 600
  let initialMillis ← env.number "SYNCRUN_ACTIVITY_INITIAL_INTERVAL_MS" Environment.below64 1000
  let maxMillis ← env.number "SYNCRUN_ACTIVITY_MAX_INTERVAL_MS" Environment.below64 30000
  let activityMaxAttempts ←
    env.number "SYNCRUN_ACTIVITY_MAX_ATTEMPTS" Environment.below32 d.activityMaxAttempts
  if activityMaxAttempts = 0 then throw ⟨"SYNCRUN_ACTIVITY_MAX_ATTEMPTS", "0"⟩
  let defaultMaxAttempts ←
    env.number "SYNCRUN_DEFAULT_MAX_ATTEMPTS" Environment.below32 d.defaultMaxAttempts
  let intervalSeconds ← env.number "SYNCRUN_SYNC_INTERVAL_SECS" Environment.below64 3600
  return {
    workflowDelay := .ofSeconds delaySeconds
    activityMaxAttempts
    activityInitialInterval := .ofMillis initialMillis
    activityMaxInterval := .ofMillis maxMillis
    defaultMaxAttempts
    connectionFile := env.get? "SYNCRUN_CONNECTION_FILE"
    syncInterval := .ofSeconds intervalSeconds
    runOnStart := env.switch "SYNCRUN_RUN_ON_START" }

end Config

end ConnectorSync.Sync
