import ConnectorSync.Launch.Config
import ConnectorSync.Launch.Step
import ConnectorSync.Text.Case
import ConnectorSync.Text.Numeral

/-!
# Arguments of the launcher

The arguments are read from left to right. An option takes the argument after it or the text after
its equals sign, and can be given once, except `--env`. The first argument that is wrong, or that
asks for the version or for help, decides.
-/

namespace ConnectorSync.Launcher

open Text Launch

/-- What the launcher is asked to run. -/
structure Arguments where
  image : String
  step : Step
  jobId : String := "0"
  attempt : Nat := 0
  config : Option String := none
  catalog : Option String := none
  state : Option String := none
  env : List (String × String) := []
  isolated : Bool := false
  printOutput : Bool := false
  deriving DecidableEq

/-- What the launcher is asked for other than to run something. -/
inductive Aside
  | version
  | help
  | misuse
  deriving DecidableEq, Repr

structure Given where
  image : Option String := none
  step : Option Step := none
  jobId : Option String := none
  attempt : Option Nat := none
  config : Option String := none
  catalog : Option String := none
  state : Option String := none
  env : List (String × String) := []
  isolated : Option Unit := none
  printOutput : Option Unit := none

def stepOf? (s : String) : Option Step := Step.ofName? (lowerCase s)

/-- A whole number of thirty-two bits with an optional sign, of which zero may have any. -/
def attemptOf? (s : String) : Option Nat :=
  match s.toList with
  | '-' :: digits => (digits? digits).filter (· = 0)
  | _ => unsigned? (Nat.pow 2 32 - 1) s

/-- A path, which is not empty. -/
def pathOf? (s : String) : Option String := if s = "" then none else some s

/-- A value read for an option that was not given before. -/
def once {α : Type} (before value : Option α) : Except Aside (Option α) :=
  match before, value with
  | none, some a => .ok (some a)
  | _, _ => .error .misuse

namespace Given

def valued : List String :=
  ["image", "step", "job-id", "attempt", "config", "catalog", "state", "env"]

def withValue (g : Given) (name value : String) : Except Aside Given :=
  match name with
  | "image" => (once g.image (some value)).map fun image => { g with image }
  | "step" => (once g.step (stepOf? value)).map fun step => { g with step }
  | "job-id" => (once g.jobId (some value)).map fun jobId => { g with jobId }
  | "attempt" => (once g.attempt (attemptOf? value)).map fun attempt => { g with attempt }
  | "config" => (once g.config (pathOf? value)).map fun config => { g with config }
  | "catalog" => (once g.catalog (pathOf? value)).map fun catalog => { g with catalog }
  | "state" => (once g.state (pathOf? value)).map fun state => { g with state }
  | "env" =>
    match splitPair? value with
    | some pair => .ok { g with env := g.env ++ [pair] }
    | none => .error .misuse
  | _ => .error .misuse

/-- An option without a value. -/
def withFlag (g : Given) (name : String) : Except Aside Given :=
  match name with
  | "isolated" => (once g.isolated (some ())).map fun isolated => { g with isolated }
  | "print-output" => (once g.printOutput (some ())).map fun printOutput => { g with printOutput }
  | "version" => .error .version
  | "help" => .error .help
  | _ => .error .misuse

/-- What letters after a single hyphen ask for: the first one decides. -/
def ofLetters : List Char → Aside
  | 'V' :: _ => .version
  | 'h' :: _ => .help
  | _ => .misuse

/-- Whether an argument is an option, and so never the value of one. -/
def isOption (arg : String) : Bool := arg.startsWith "-" && arg ≠ "-"

def read (g : Given) : List String → Except Aside Given
  | [] => .ok g
  | arg :: rest =>
    match arg.toList with
    | ['-', '-'] => if rest.isEmpty then .ok g else .error .misuse
    | '-' :: '-' :: option =>
      match splitPair? (String.ofList option) with
      | some (name, value) => do (← g.withValue name value).read rest
      | none =>
        let name := String.ofList option
        if valued.contains name then
          match rest with
          | value :: rest =>
            if isOption value then .error .misuse
            else do (← g.withValue name value).read rest
          | [] => .error .misuse
        else do (← g.withFlag name).read rest
    | '-' :: letters => .error (ofLetters letters)
    | _ => .error .misuse

def arguments (g : Given) : Except Aside Arguments :=
  match g.image, g.step with
  | some image, some step => .ok {
      image, step
      jobId := g.jobId.getD "0"
      attempt := g.attempt.getD 0
      config := g.config
      catalog := g.catalog
      state := g.state
      env := g.env
      isolated := g.isolated.isSome
      printOutput := g.printOutput.isSome }
  | _, _ => .error .misuse

end Given

def Arguments.read (args : List String) : Except Aside Arguments := do
  (← Given.read {} args).arguments

end ConnectorSync.Launcher
