import ConnectorSync.Files.Tree
import ConnectorSync.Host.Request
import ConnectorSync.Launch.Step
import ConnectorSync.Rehearsal.Report
import ConnectorSync.Rehearsal.Script
import ConnectorSync.Rehearsal.Stage

/-!
# Scripted hosts

A host whose commands only play their parts: each answers as the script says for its kind of call,
and what was called is put down in a log. Its files are kept in memory.
-/

namespace ConnectorSync.Rehearsal

open Json Host

structure Response where
  stdout : Bytes := []
  stderr : Bytes := []
  code : Int := 0
  isAborted : Bool := false
  neverEnds : Bool := false
  readsInput : Bool := false

def response (v : Value) : Response where
  stdout := bytes (part v "stdout")
  stderr := bytes (part v "stderr")
  code := given (part v "code") integer 0
  isAborted := truth (part v "abort")
  neverEnds := truth (part v "hang")
  readsInput := truth (part v "read_stdin")

/-- The exit code, of which the host knows the last eight bits, unless a signal ends the command. -/
def Response.exit (r : Response) : Option Int := if r.isAborted then none else some (r.code % 256)

structure HostCall where
  key : String
  args : List String
  input : Option Bytes := none
  file : Option Bytes := none

/-- A command that runs beside the launcher. -/
structure ScriptedChild where
  response : Response
  startedAt : Nat
  call : Nat
  isKilled : Bool := false
  input : Bytes := []
  isInputTaken : Bool := false
  isInputClosed : Bool := false
  isStdoutTaken : Bool := false
  isStderrTaken : Bool := false

namespace ScriptedChild

/-- How long a command runs that waits for nothing. -/
def runTicks : Nat := 10

/-- Whether who took the child's standard input can still write to it. -/
def isInputOpen (c : ScriptedChild) : Bool := c.isInputTaken && ! c.isInputClosed

/-- When the child ends by itself, if it is not to wait for anything else before. -/
def endsAt (c : ScriptedChild) : Option Nat :=
  if c.response.neverEnds || (c.response.readsInput && ! c.isInputClosed) then none
  else some (c.startedAt + runTicks)

def exit? (c : ScriptedChild) (clock : Nat) : Option (Option Int) :=
  if c.isKilled then some none
  else if c.endsAt.any (· ≤ clock) then some c.response.exit
  else none

end ScriptedChild

/-- A host that plays its part. -/
structure ScriptedHost where
  files : Files.Tree := {}
  /-- How commands behave by the key of the call, one entry per call; the last one is for all that
  follow. -/
  responses : List (String × List Response) := []
  programs : List String := ["kubectl", "docker"]
  calls : List HostCall := []
  children : List ScriptedChild := []
  givenIds : Nat := 0

namespace ScriptedHost

/-- The key of a call: its subcommand, for a container with the step that it runs, which is the first
word that names one. -/
def keyOf : List String → String
  | "-n" :: _ :: subcommand :: _ => subcommand
  | "run" :: rest => "run:" ++ ((rest.findSome? Launch.Step.ofName?).elim "" Launch.Step.name)
  | subcommand :: _ => subcommand
  | [] => ""

/-- How the next call of a key behaves, and how those after it do. -/
def takeResponse (key : String) :
    List (String × List Response) → Response × List (String × List Response)
  | [] => ({}, [])
  | (other, list) :: rest =>
    if other = key then
      match list with
      | [] => ({}, (other, []) :: rest)
      | [last] => (last, (other, [last]) :: rest)
      | next :: left => (next, (other, left) :: rest)
    else
      let (found, rest) := takeResponse key rest
      (found, (other, list) :: rest)

/-- A command called: how it behaves, unless it is not there. Its input has ended unless that stays
open. -/
def call (h : ScriptedHost) (c : Command) (staysOpen : Bool) :
    Except Files.Fault Response × ScriptedHost :=
  if (c.program :: c.args).any fun word => word.toList.contains '\x00' then
    (.error .invalidArgument, h)
  else if ! h.programs.contains c.program then (.error .notFound, h)
  else
    let key := keyOf c.args
    let (response, responses) := takeResponse key h.responses
    let file := match key, c.args with
      | "cp", _ :: source :: _ => (h.files.readFile source).toOption
      | _, _ => none
    let input := c.input <|> if response.readsInput && ! staysOpen then some [] else none
    (.ok response,
      { h with responses, calls := h.calls ++ [{ key, args := c.args, input, file }] })

/-- A change of the files, unless it fails. -/
def onFiles (h : ScriptedHost) : Except Files.Fault Files.Tree → Except Files.Fault Unit × ScriptedHost
  | .ok files => (.ok (), { h with files })
  | .error fault => (.error fault, h)

def child? (h : ScriptedHost) (child : Child) : Option ScriptedChild := h.children[child]?

def modify (h : ScriptedHost) (child : Child) (f : ScriptedChild → ScriptedChild) : ScriptedHost :=
  { h with children := h.children.modify child f }

def spawn (h : ScriptedHost) (clock : Nat) (c : Command) :
    Except Files.Fault Child × ScriptedHost :=
  let call := h.calls.length
  match h.call c true with
  | (.error fault, h) => (.error fault, h)
  | (.ok response, h) =>
    (.ok h.children.length,
      { h with children := h.children ++ [{ response, startedAt := clock, call }] })

def idOf (n : Nat) : Uuid :=
  (Uuid.parse? ("00000000-0000-4000-8000-" ++ String.ofList
    ((List.range 12).reverse.map fun place => Nat.digitChar (n / Nat.pow 10 place % 10)))).getD .zero

def answer : (r : Request) → Play ScriptedHost r.Answer
  | .run c => do
    match ← Play.update fun _ h => h.call c false with
    | .error fault => return .error fault
    | .ok response =>
      if response.neverEnds then
        Play.rest (fun _ _ => none) fun _ => false
      return .ok ⟨response.exit, response.stdout, response.stderr⟩
  | .spawn c => Play.update fun clock h => h.spawn clock c
  | .status child => do
    let (clock, h) ← Play.look
    return .ok ((h.child? child).bind (·.exit? clock))
  | .kill child => Play.update fun clock h =>
    ((), h.modify child fun c => { c with isKilled := c.isKilled || (c.exit? clock).isNone })
  | .createDirectories path => Play.update fun _ h =>
    let (result, files) := h.files.createDirectories path
    (result, { h with files })
  | .writeFile path contents => Play.update fun _ h => h.onFiles (h.files.writeFile path contents)
  | .removeFile path => Play.update fun _ h => h.onFiles (h.files.removeFile path)
  | .removeDirectory path => Play.update fun _ h => h.onFiles (h.files.removeDirectory path)
  | .freshId => Play.update fun _ h => (idOf h.givenIds, { h with givenIds := h.givenIds + 1 })

/-- A wait for the end of a child, which the world can cut short. -/
def awaitChild (child : Child) (cut : ScriptedHost → Bool) : Play ScriptedHost Unit :=
  Play.rest (fun _ h => (h.child? child).bind ScriptedChild.endsAt) fun h =>
    cut h || (h.child? child).all (·.isKilled)

/-! ### Streams of children -/

/-- A child's standard input is taken; answers whether it was there to take. -/
def takeInput (h : ScriptedHost) (child : Child) : Bool × ScriptedHost :=
  ((h.child? child).any (! ·.isInputTaken), h.modify child fun c => { c with isInputTaken := true })

def feed (h : ScriptedHost) (child : Child) (bs : Bytes) : ScriptedHost :=
  h.modify child fun c => { c with input := c.input ++ bs }

def closeInput (h : ScriptedHost) (child : Child) (clock : Nat) : ScriptedHost :=
  h.modify child fun c =>
    if ! c.isInputOpen then c else { c with isInputClosed := true, startedAt := clock }

/-! ### Reports -/

/-- What is told of a call: what a child read is known once its input has ended. -/
def tellCall (h : ScriptedHost) (stagingDir : String) (index : Nat) (c : HostCall) : Value :=
  let read := (h.children.find? (·.call = index)).bind fun child =>
    if child.response.readsInput && child.isInputClosed then some child.input else none
  let args := c.args.map fun arg =>
    if c.key = "cp" && arg.startsWith (stagingDir ++ "/") then "<staged>" else arg
  .object ([("key", tell c.key), ("args", tellAll args)] ++
    ((c.input <|> read).map fun bs => ("stdin", tellBytes bs)).toList ++
    (c.file.map fun bs => ("file", tellBytes bs)).toList)

def tellCalls (h : ScriptedHost) (stagingDir : String) (start : Nat) : List Value :=
  (h.calls.zipIdx.drop start).map fun (c, index) => h.tellCall stagingDir index c

end ScriptedHost

def stagingDir : String := "/staging"

def responses (v : Value) : List (String × List Response) :=
  (members v).map fun (key, list) => (key, (items list).map response)

end ConnectorSync.Rehearsal
