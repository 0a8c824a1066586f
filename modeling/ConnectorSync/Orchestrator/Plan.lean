import ConnectorSync.Files.Tree
import ConnectorSync.Launch.Config
import ConnectorSync.Sync.Config
import ConnectorSync.Sync.Job
import ConnectorSync.Sync.Wire

/-!
# What the orchestrator runs

The orchestrator runs the manager of one connection, which a file defines, until the connection is
deleted. It keeps jobs in memory and syncs at a fixed interval.
-/

namespace ConnectorSync.Orchestrator

open Text

/-- Why the orchestrator could not begin. -/
inductive Failure
  | config (error : ConfigError)
  /-- No file was named that defines the connection. -/
  | noConnection
  /-- A file that defines no connection. -/
  | connection (path : String)
  deriving DecidableEq

def Failure.message : Failure → String
  | config error => error.message
  | noConnection => "SYNCRUN_CONNECTION_FILE must point to a connection definition"
  | connection path => "loading connection from " ++ path

/-- A connection and how it is synced. -/
structure Plan where
  config : Sync.Config
  launch : Launch.Config
  connection : Sync.Connection

def readConnection (files : Files.Tree) (path : String) : Except Failure Sync.Connection := do
  let text ← (files.readText path).mapError fun _ => Failure.connection path
  (Json.read Sync.Connection.decoder text).mapError fun _ => Failure.connection path

/-- The connection and how it is synced, from the environment and the files. -/
def plan (env : Environment) (files : Files.Tree) : Except Failure Plan := do
  let config ← (Sync.Config.ofEnvironment env).mapError Failure.config
  let launch ← (Launch.Config.ofEnvironment env).mapError Failure.config
  match config.connectionFile with
  | none => throw .noConnection
  | some path => return ⟨config, launch, ← readConnection files path⟩

def retryTemplate : Sync.RetryBudget :=
  .fresh (some ⟨.ofSeconds 10, .ofSeconds 1800, 3⟩) {}

/-- After how many failed jobs in a row the connection is disabled. -/
def autoDisableThreshold : Nat := 3

def statusWord : Sync.JobStatus → String
  | .pending => "Pending"
  | .running => "Running"
  | .incomplete => "Incomplete"
  | .failed => "Failed"
  | .succeeded => "Succeeded"
  | .cancelled => "Cancelled"

def summary (job : Sync.Job) : String :=
  "job_id=" ++ decimalInt job.id ++ " status=" ++ statusWord job.status ++
    " attempts=" ++ decimal job.attempts.length

end ConnectorSync.Orchestrator
