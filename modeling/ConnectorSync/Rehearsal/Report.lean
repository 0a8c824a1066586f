import ConnectorSync.Cluster.PodStatus
import ConnectorSync.Error
import ConnectorSync.Files.Tree
import ConnectorSync.Json.Writer
import ConnectorSync.Launch.ProcessName
import ConnectorSync.Sync.Wire
import ConnectorSync.Workload.Wire

/-!
# Reports

What a rehearsal tells of results, as JSON. An error is told by its kind, with its text where that
text is the library's own; the text of a fault of files or of JSON is not, and is told by kind
alone.
-/

namespace ConnectorSync.Rehearsal

open Json

def tell (s : String) : Value := .string s

def tellAll (ts : List String) : Value := .ofList .string ts

def tellOr (s : Option String) : Value := .orNull (s.map .string)

def good (v : Value) : Value := .object [("ok", v)]

def tellBreakdown : Value := .object [("error", tell "Panic")]

def hex (bs : Bytes) : String :=
  String.ofList (bs.flatMap fun b => [hexDigit (b.toNat / 16), hexDigit (b.toNat % 16)])

/-- Bytes: as text if they are text, by length and sum if they are many. -/
def tellBytes (bs : Bytes) : Value :=
  if bs.length > 20000 then
    .object [("len", .nat bs.length), ("sum", .nat (bs.foldl (fun n b => n + b.toNat) 0))]
  else match Text.ofBytes? bs with
    | some s => tell s
    | none => .object [("hex", tell (hex bs))]

def tellMap (m : StringMap String) : Value := .ofMap .string m

def present : Timestamp := ⟨1760000000, 123456789⟩

mutual

/-- The value without times of creation, and with the present called so. -/
def hideTimes : Value → Value
  | .array vs => .array (hideTimesIn vs)
  | .object ms => .object (hideTimesOf ms)
  | v => v

def hideTimesIn : List Value → List Value
  | [] => []
  | v :: vs => hideTimes v :: hideTimesIn vs

def hideTimesOf : List (String × Value) → List (String × Value)
  | [] => []
  | (k, v) :: ms =>
    if k = "created_at" then hideTimesOf ms
    else if k = "timestamp" then
      match v with
      | .string t => (k, tell (if t = present.render then "now" else t)) :: hideTimesOf ms
      | v => (k, v) :: hideTimesOf ms
    else (k, hideTimes v) :: hideTimesOf ms

end

/-! ### Errors -/

/-- An error as it is told: its kind, its text if that is the library's own, and details. -/
structure Complaint where
  kind : String
  text : Option String := none
  details : List (String × Value) := []

namespace Complaint

def report (c : Complaint) : Value :=
  .object ([("error", tell c.kind)] ++ c.details ++ (c.text.map fun t => ("message", tell t)).toList)

/-- An error around another one. Without a text of its own, the inner error is told whole. -/
def around (kind text : String) (inner : Complaint) : Complaint :=
  if inner.text.isSome then ⟨kind, some text, [("cause", tell inner.kind)]⟩
  else ⟨kind, none, [("cause", inner.report)]⟩

def faultName : Files.Fault → String
  | .notFound => "NotFound"
  | .notDirectory => "NotADirectory"
  | .isDirectory => "IsADirectory"
  | .alreadyExists => "AlreadyExists"
  | .invalidName => "InvalidFilename"
  | .invalidInput | .invalidArgument => "InvalidInput"
  | .invalidData => "InvalidData"
  | .addressInUse => "AddrInUse"
  | .connectionRefused => "ConnectionRefused"
  | .networkUnreachable => "NetworkUnreachable"
  | .brokenPipe => "BrokenPipe"
  | .other _ => "Other"

def categoryName : Category → String
  | .malformed => "syntax"
  | .truncated => "eof"
  | .mismatched => "data"

/-- A fault of files or sockets. -/
def ofFault (kind : String) (fault : Files.Fault) : Complaint :=
  { kind, details := [("io", tell (faultName fault))] }

def ofJson (kind : String) (fault : Json.Fault) : Complaint :=
  { kind, details := [("category", tell (categoryName fault.category))] }

def ofConfig (e : ConfigError) : Complaint :=
  ⟨"Config.InvalidValue", some e.message, [("top", tell (Error.config e).message)]⟩

def ofCluster (e : Cluster.Error) : Complaint :=
  match e with
  | .command _ status _ => ⟨"Cluster.Command", some e.message, [("status", .int status)]⟩
  | .rejected _ => ⟨"Cluster.Rejected", some e.message, []⟩
  | .io fault => ofFault "Cluster.Io" fault
  | .json fault => ofJson "Cluster.Json" fault

def ofLaunch (e : Launch.Error) : Complaint :=
  let plain (name : String) : Complaint := ⟨"Launch." ++ name, some e.message, []⟩
  match e with
  | .imageNotFound _ => plain "ImageNotFound"
  | .podRejected _ => plain "PodRejected"
  | .noPortsAvailable => plain "NoPortsAvailable"
  | .initTimeout .. => plain "InitTimeout"
  | .terminatedDuringStartup _ => plain "TerminatedDuringStartup"
  | .startFailed _ => plain "StartFailed"
  | .cluster inner => around "Launch.Cluster" e.message (ofCluster inner)
  | .io fault => ofFault "Launch.Io" fault
  | .json fault => ofJson "Launch.Json" fault

def ofDocuments (e : Documents.Error) : Complaint :=
  match e with
  | .invalidKey _ => ⟨"DocStore.InvalidKey", some e.message, []⟩
  | .io fault => ofFault "DocStore.Io" fault
  | .json fault => ofJson "DocStore.Json" fault

def ofWorkload (e : Workload.Error) : Complaint :=
  match e with
  | .notTerminated => ⟨"Process.NotTerminated", some e.message, []⟩
  | .timeout => ⟨"Process.Timeout", some e.message, []⟩
  | .cluster inner => around "Process.Cluster" e.message (ofCluster inner)
  | .documents inner => around "Process.DocStore" e.message (ofDocuments inner)
  | .io fault => ofFault "Process.Io" fault

def ofActivity (e : Sync.ActivityError) : Complaint :=
  match e with
  | .unavailable _ => ⟨"Activity.Unavailable", some e.message, []⟩
  | .notFound _ => ⟨"Activity.NotFound", some e.message, []⟩
  | .launch inner => around "Activity.Launch" e.message (ofLaunch inner)
  | .process inner => around "Activity.Process" e.message (ofWorkload inner)
  | .io fault => ofFault "Activity.Io" fault

end Complaint

/-- A result, or a complaint about its error. -/
def goodOr {ε α : Type} (complain : ε → Complaint) (f : α → Value) : Except ε α → Value
  | .ok a => good (f a)
  | .error e => (complain e).report

/-- A value, or a complaint in its place. -/
def valueOr {ε : Type} (complain : ε → Complaint) : Except ε Value → Value
  | .ok v => v
  | .error e => (complain e).report

/-! ### Pods and files -/

def tellContainer (c : Cluster.ContainerStatus) : Value :=
  .object [("name", tell c.name), ("running", .bool c.running), ("ready", .bool c.ready),
    ("exit_code", .orNull (c.exitCode.map .int)), ("reason", tellOr c.reason),
    ("terminated", .bool c.isTerminated)]

def tellPod (p : Cluster.PodStatus) : Value :=
  .object [("phase", tell p.phase.name), ("pod_ip", tellOr p.podIp),
    ("init_containers", .ofList tellContainer p.initContainers),
    ("containers", .ofList tellContainer p.containers), ("terminal", .bool p.isTerminal)]

/-- The files below a place; a directory ends in a slash and is null. -/
def tellTree (t : Files.Tree) (root : Files.Place) : Value :=
  .object ((t.below root).map fun (p, e) =>
    let path := String.intercalate "/" p
    match e with
    | .directory => (path ++ "/", .null)
    | .file contents => (path, tellBytes contents))

/-! ### Generated names -/

def hideSuffix (name : String) : String :=
  String.ofList (name.toList.take (name.length - Launch.suffixLength)) ++ "*****"

/-- The letters that stand for the random ones in the name that is generated as the `n`th. -/
def suffixOf (n : Nat) : String :=
  String.ofList ((List.range Launch.suffixLength).map fun place =>
    Char.ofNat ('a'.toNat + n / Nat.pow 26 place % 26))

mutual

def mapTexts (f : String → String) : Value → Value
  | .string s => .string (f s)
  | .array vs => .array (mapTextsIn f vs)
  | .object ms => .object (mapTextsOf f ms)
  | v => v

def mapTextsIn (f : String → String) : List Value → List Value
  | [] => []
  | v :: vs => mapTexts f v :: mapTextsIn f vs

def mapTextsOf (f : String → String) : List (String × Value) → List (String × Value)
  | [] => []
  | (k, v) :: ms => (k, mapTexts f v) :: mapTextsOf f ms

end

def hideNames (names : List String) (s : String) : String :=
  names.foldl (fun s name => s.replace name (hideSuffix name)) s

end ConnectorSync.Rehearsal
