import ConnectorSync.Files.Path
import ConnectorSync.Launch.Config
import ConnectorSync.Launch.Pod

/-!
# Docker commands

The command lines by which a connector runs in a container, and the directory that holds its input
files: one directory for each attempt of a job below the workspace root.
-/

namespace ConnectorSync.Docker

open Text Launch

def workspaceDir : String := "/data"

def jobRoot (workspaceRoot : String) (d : Descriptor) : String :=
  Files.join (Files.join workspaceRoot d.jobId) (decimal d.attempt)

/-- An amount of memory in the units of the container runtime. -/
def memoryAmount (quantity : String) : String :=
  let cs := quantity.toList
  let renamed := [("Ki", 'k'), ("Mi", 'm'), ("Gi", 'g')].findSome? fun (unit, letter) =>
    (withoutEnding? unit.toList cs).map fun number => String.ofList (number ++ [letter])
  renamed.getD quantity

def resourceOptions (r : Resources) : List String :=
  (r.cpuLimit.map ("--cpus=" ++ ·)).toList ++
    (r.memoryLimit.map fun m => "--memory=" ++ memoryAmount m).toList ++
    (r.memoryRequest.map fun m => "--memory-reservation=" ++ memoryAmount m).toList

/-- The arguments that run a descriptor's step in a container of the given name. -/
def runArgs (config : Config) (d : Descriptor) (name : String) : List String :=
  let setting (name value : String) := ["-e", name ++ "=" ++ value]
  ["run", "--rm", "--init", "-i",
    "-w", workspaceDir ++ "/" ++ d.jobId ++ "/" ++ decimal d.attempt,
    "--log-driver", "none", "--name", name, "--network", config.dockerNetwork,
    "-v", config.workspaceMount ++ ":" ++ workspaceDir,
    "--label", "syncrun.job-id=" ++ d.jobId, "--label", "syncrun.attempt=" ++ decimal d.attempt] ++
  (if d.allowedHosts.isEmpty then []
    else ["--label", "syncrun.allowed-hosts=" ++ hostList d.allowedHosts]) ++
  setting "JOB_ID" d.jobId ++ setting "ATTEMPT_ID" (decimal d.attempt) ++
  (d.env.entries.flatMap fun (name, value) => setting name value) ++
  resourceOptions d.resources ++ d.image :: d.args

end ConnectorSync.Docker
