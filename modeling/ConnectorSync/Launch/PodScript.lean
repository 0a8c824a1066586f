import ConnectorSync.Launch.Config
import ConnectorSync.Launch.PortPool
import ConnectorSync.Text.ShellWord

/-!
# Scripts in pods

The shell scripts that the containers of a pod run: the init container waits until all files have
been copied, the main container runs the connector with its streams on pipes, the relays connect the
pipes to the launcher, and the heartbeat ends the pod when the launcher is gone.
-/

namespace ConnectorSync.Launch

open Text

def configDir : String := "/config"
def pipesDir : String := "/pipes"
/-- The directory of the marks by which containers tell each other to end. -/
def terminationDir : String := "/termination"
/-- The file whose arrival says that all files have been copied. -/
def uploadedFile : String := "FINISHED_UPLOADING"
def podInfoFile : String := "KUBE_POD_INFO"

def stdinPipe : String := "/pipes/stdin"
def stdoutPipe : String := "/pipes/stdout"
def stderrPipe : String := "/pipes/stderr"
def mainEndedMark : String := "/termination/main"
def launcherLostMark : String := "/termination/check"

/-- How many times the init container looks for the files, ten times a second. -/
def initPatience : Nat := 600

/-- The launcher's ports for the two output streams. -/
structure RelayPorts where
  stdout : Port
  stderr : Port
  deriving DecidableEq, Repr

def scriptOf (lines : List String) : String :=
  String.join (lines.map (· ++ "\n"))

def initScript (makePipes usesStdin : Bool) : String :=
  let uploaded := configDir ++ "/" ++ uploadedFile
  scriptOf <|
    ["set -e"] ++
    (if makePipes && usesStdin then ["mkfifo " ++ stdinPipe] else []) ++
    (if makePipes then ["mkfifo " ++ stdoutPipe ++ " " ++ stderrPipe] else []) ++
    ["ITERATION=0",
      "MAX_ITERATION=" ++ decimal initPatience,
      "until [ -f " ++ uploaded ++ " -o $ITERATION -ge $MAX_ITERATION ]; do",
      "  ITERATION=$((ITERATION+1))",
      "  sleep 0.1",
      "done",
      "if [ -f " ++ uploaded ++ " ]; then",
      "  echo \"All files copied successfully, exiting with code 0...\"",
      "  exit 0",
      "else",
      "  echo \"Timeout while attempting to copy to init container, exiting with code 1...\"",
      "  exit 1",
      "fi"]

/-- The relays of a pod by container name: the one that listens for the connector's input, then
those that send its output to the launcher. -/
def relays (config : Config) (ports : RelayPorts) (usesStdin : Bool) : List (String × String) :=
  let send (pipe : String) (port : Port) :=
    "cat " ++ pipe ++ " | socat -d -d -t 60 - TCP:" ++ config.relayHost ++ ":" ++ decimal port
  (if usesStdin then
    [("remote-stdin",
      "socat -d -d TCP-L:" ++ decimal config.stdinRemotePort ++ " STDOUT > " ++ stdinPipe)]
  else []) ++
  [("relay-stdout", send stdoutPipe ports.stdout), ("relay-stderr", send stderrPipe ports.stderr)]

/-- The line that makes the arguments the positional parameters of the shell. -/
def parametersLine (args : List String) : String :=
  "set -- " ++ String.intercalate " " (args.map shellWord)

/-- The main container's script, with relays that run beside the connector. -/
def mainScript (d : Descriptor) (background : List String) : String :=
  let stdin := if d.step.usesStdin then " < " ++ stdinPipe else ""
  scriptOf <|
    ["trap \"touch " ++ mainEndedMark ++ "\" EXIT"] ++
    background.map (fun command => "(" ++ command ++ ") &") ++
    ["cd " ++ configDir,
      parametersLine d.args,
      "($CONNECTOR_ENTRYPOINT \"$@\"" ++ stdin ++ " > " ++ stdoutPipe ++ " 2> " ++ stderrPipe ++
        ") &",
      "CHILD_PID=$!",
      "(while true; do if [ -f " ++ launcherLostMark ++
        " ]; then echo \"Heartbeat to launcher failed, exiting...\"; " ++
        "kill -9 $CHILD_PID; exit 1; fi; sleep 1; done) &",
      "wait $CHILD_PID",
      "exit $?"]

/-- A relay's script in a container of its own, which ends with the pod. -/
def relayScript (command : String) : String :=
  scriptOf
    ["(" ++ command ++ ") &",
      "CHILD_PID=$!",
      "(while true; do if [ -f " ++ mainEndedMark ++ " ] || [ -f " ++ launcherLostMark ++
        " ]; then kill $CHILD_PID 2>/dev/null; exit 0; fi; sleep 1; done) &",
      "wait $CHILD_PID"]

/-- The script that asks the launcher for a sign of life and gives up after three misses. -/
def heartbeatScript (url : String) : String :=
  scriptOf
    ["FAILS=0",
      "while true; do",
      "  if [ -f " ++ mainEndedMark ++ " ]; then exit 0; fi",
      "  if curl -s --max-time 10 --fail " ++ shellWord url ++
        " > /dev/null; then FAILS=0; else FAILS=$((FAILS+1)); fi",
      "  if [ $FAILS -ge 3 ]; then echo \"Launcher heartbeat lost\"; touch " ++ launcherLostMark ++
        "; exit 1; fi",
      "  sleep 1",
      "done"]

end ConnectorSync.Launch
