import ConnectorSync.Cluster.Error
import ConnectorSync.Cluster.Kubectl
import ConnectorSync.Cluster.Manifest
import ConnectorSync.Cluster.PodStatus
import ConnectorSync.Cluster.Request
import ConnectorSync.Cluster.Simulated
import ConnectorSync.Decimal.Double
import ConnectorSync.Decimal.Reading
import ConnectorSync.Decimal.Shortest
import ConnectorSync.Dialogue
import ConnectorSync.Docker.Command
import ConnectorSync.Docker.Container
import ConnectorSync.Docker.Workspace
import ConnectorSync.Documents.Error
import ConnectorSync.Documents.Status
import ConnectorSync.Documents.Store
import ConnectorSync.Duration
import ConnectorSync.Environment
import ConnectorSync.Environment.SettingsFile
import ConnectorSync.Error
import ConnectorSync.Files.Fault
import ConnectorSync.Files.Path
import ConnectorSync.Files.Tree
import ConnectorSync.Host.Request
import ConnectorSync.Json.Basic
import ConnectorSync.Json.Decode
import ConnectorSync.Json.Draft
import ConnectorSync.Json.Fault
import ConnectorSync.Json.Lexeme
import ConnectorSync.Json.Number
import ConnectorSync.Json.Writer
import ConnectorSync.Launch.Config
import ConnectorSync.Launch.Descriptor
import ConnectorSync.Launch.Error
import ConnectorSync.Launch.Pod
import ConnectorSync.Launch.PodScript
import ConnectorSync.Launch.PortPool
import ConnectorSync.Launch.ProcessName
import ConnectorSync.Launch.Resources
import ConnectorSync.Launch.Step
import ConnectorSync.Launch.Wire
import ConnectorSync.Launcher.Arguments
import ConnectorSync.Launcher.Heartbeat
import ConnectorSync.Launcher.Plan
import ConnectorSync.Launcher.Run
import ConnectorSync.Main
import ConnectorSync.Orchestrator.Plan
import ConnectorSync.Rehearsal.AttachedRun
import ConnectorSync.Rehearsal.ClusterRun
import ConnectorSync.Rehearsal.Collaborators
import ConnectorSync.Rehearsal.Crew
import ConnectorSync.Rehearsal.CrewPlay
import ConnectorSync.Rehearsal.CrewRun
import ConnectorSync.Rehearsal.DetachedRun
import ConnectorSync.Rehearsal.DockerRun
import ConnectorSync.Rehearsal.Keeper
import ConnectorSync.Rehearsal.KubectlRun
import ConnectorSync.Rehearsal.LauncherRun
import ConnectorSync.Rehearsal.LaunchesRun
import ConnectorSync.Rehearsal.Machine
import ConnectorSync.Rehearsal.ManagerRun
import ConnectorSync.Rehearsal.Mishaps
import ConnectorSync.Rehearsal.OrchestratorRun
import ConnectorSync.Rehearsal.Orders
import ConnectorSync.Rehearsal.PodStage
import ConnectorSync.Rehearsal.Report
import ConnectorSync.Rehearsal.Script
import ConnectorSync.Rehearsal.ScriptedHost
import ConnectorSync.Rehearsal.Stage
import ConnectorSync.StringMap
import ConnectorSync.Sync.ActivityError
import ConnectorSync.Sync.Config
import ConnectorSync.Sync.Connection
import ConnectorSync.Sync.Control
import ConnectorSync.Sync.Execution
import ConnectorSync.Sync.Failure
import ConnectorSync.Sync.Flags
import ConnectorSync.Sync.Job
import ConnectorSync.Sync.JobStore
import ConnectorSync.Sync.Manager
import ConnectorSync.Sync.Retry
import ConnectorSync.Sync.Waiter
import ConnectorSync.Sync.Wire
import ConnectorSync.Text.Alphanumeric
import ConnectorSync.Text.Blank
import ConnectorSync.Text.Bytes
import ConnectorSync.Text.Case
import ConnectorSync.Text.Numeral
import ConnectorSync.Text.ShellWord
import ConnectorSync.Timestamp
import ConnectorSync.Uuid
import ConnectorSync.Workload.Error
import ConnectorSync.Workload.ExitCell
import ConnectorSync.Workload.Info
import ConnectorSync.Workload.Kept
import ConnectorSync.Workload.Pod.Attached
import ConnectorSync.Workload.Pod.Detached
import ConnectorSync.Workload.Pod.Request
import ConnectorSync.Workload.Pod.Startup
import ConnectorSync.Workload.Pod.Watch
import ConnectorSync.Workload.Wait
import ConnectorSync.Workload.Wire
import ConnectorSync.Proofs.Sync.Following
import ConnectorSync.Proofs.Sync.Run
import ConnectorSync.Proofs.Sync.Course
import ConnectorSync.Proofs.Sync.Fitting
import ConnectorSync.Proofs.Sync.AttemptKind
import ConnectorSync.Proofs.Sync.ResetRequests
import ConnectorSync.Proofs.Sync.Cancellation
import ConnectorSync.Proofs.Docker.Attempt
import ConnectorSync.Proofs.Docker.SharedDirectory
import ConnectorSync.Proofs.Surroundings
import ConnectorSync.Proofs.Workload.DetachedExit
import ConnectorSync.Proofs.Sync.Delivery
import ConnectorSync.Proofs.Sync.Rows
import ConnectorSync.Proofs.Sync.OpenJob
import ConnectorSync.Proofs.Sync.SingleFlight
import ConnectorSync.Proofs.Sync.Deletion
import ConnectorSync.Proofs.Sync.Records
import ConnectorSync.Proofs.Sync.Leftovers
import ConnectorSync.Proofs.Sync.Reports
import ConnectorSync.Proofs.Sync.AtHand
import ConnectorSync.Proofs.Sync.Finality
import ConnectorSync.Proofs.Sync.Stranding
import ConnectorSync.Proofs.Sync.Failure
import ConnectorSync.Proofs.Sync.Asked
import ConnectorSync.Proofs.Sync.Interruption
import ConnectorSync.Proofs.Sync.ManualSyncs
import ConnectorSync.Proofs.Sync.SkippedWaits
import ConnectorSync.Proofs.Sync.RetryLedger
import ConnectorSync.Proofs.Sync.RetryBudgets
import ConnectorSync.Proofs.Workload.Handles
import ConnectorSync.Proofs.Workload.Launches
import ConnectorSync.Proofs.Workload.Ownership
import ConnectorSync.Proofs.Workload.Ports
import ConnectorSync.Proofs.Workload.StatusDocuments
import ConnectorSync.Proofs.Workload.ExitCodes
import ConnectorSync.Proofs.Sync.Disposal
import ConnectorSync.Proofs.Workload.DocumentVariables
import ConnectorSync.Proofs.Launch.Parameters
import ConnectorSync.Proofs.Text.Numeral
import ConnectorSync.Proofs.Json.Lexing
import ConnectorSync.Proofs.Json.Reading
import ConnectorSync.Proofs.Json.Records
import ConnectorSync.Proofs.Launch.Wire
import ConnectorSync.Proofs.Sync.Wire
import ConnectorSync.Proofs.Sync.PartialSuccess
import ConnectorSync.Proofs.Workload.Uploads
import ConnectorSync.Proofs.Sync.ConnectorChecks
import ConnectorSync.Proofs.Sync.TimelyRetries
import ConnectorSync.Proofs.Sync.CleanStart
import ConnectorSync.Proofs.Launch.ProcessName
import ConnectorSync.Proofs.Sync.DelayGrowth
import ConnectorSync.Proofs.Workload.PodWatch
import ConnectorSync.Proofs.Sync.MandatoryCalls
import ConnectorSync.Proofs.Docker.Containment
import ConnectorSync.Proofs.Files.Place
import ConnectorSync.Proofs.Docker.FailedCreation
import ConnectorSync.Proofs.Workload.TimedWait
import ConnectorSync.Proofs.Documents.Folder
import ConnectorSync.Proofs.Launch.Quantity
import ConnectorSync.Proofs.Docker.ResourceOptions
import ConnectorSync.Proofs.Sync.WakeUps
import ConnectorSync.Proofs.Sync.Explanations
import ConnectorSync.Proofs.Sync.ExplainedFailures
import ConnectorSync.Proofs.Launch.Lending
import ConnectorSync.Proofs.Sync.Boundary
import ConnectorSync.Proofs.Sync.RetryCounters
