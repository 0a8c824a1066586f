import ConnectorSync.Dialogue
import ConnectorSync.Files.Fault
import ConnectorSync.Text.Bytes
import ConnectorSync.Uuid

/-!
# What is asked of the host

The machine on which connectors are launched runs commands, to their end or beside the launcher, and
keeps files.
-/

namespace ConnectorSync.Host

structure Command where
  program : String
  args : List String
  input : Option Bytes := none
  deriving DecidableEq

def Command.line (c : Command) : String := String.intercalate " " (c.program :: c.args)

structure Ended where
  /-- Its exit code, unless a signal ended it. -/
  code : Option Int
  stdout : Bytes
  stderr : Bytes
  deriving DecidableEq

def Ended.isGood (e : Ended) : Bool := e.code = some 0

/-- A command that runs beside the launcher, by the number the host gave it. -/
abbrev Child := Nat

inductive Request
  | run (c : Command)
  | spawn (c : Command)
  /-- The exit code of a child that has ended, unless a signal ended it. -/
  | status (child : Child)
  | kill (child : Child)
  | createDirectories (path : String)
  | writeFile (path : String) (contents : Bytes)
  | removeFile (path : String)
  | removeDirectory (path : String)
  /-- An identifier that was never given before. -/
  | freshId

abbrev Request.Answer : Request → Type
  | run _ => Except Files.Fault Ended
  | spawn _ => Except Files.Fault Child
  | status _ => Except Files.Fault (Option (Option Int))
  | kill _ => Unit
  | createDirectories _ | writeFile .. | removeFile _ | removeDirectory _ => Except Files.Fault Unit
  | freshId => Uuid

abbrev Talk := Dialogue Request Request.Answer

abbrev ask (r : Request) : Talk r.Answer := Dialogue.request r

end ConnectorSync.Host
