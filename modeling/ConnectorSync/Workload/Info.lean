import ConnectorSync.Text.Bytes

/-!
# Identity of processes

What a running connector is called, and how the ends of connectors are numbered.
-/

namespace ConnectorSync.Workload

/-- The identity of a running connector. -/
structure Info where
  ns : Option String := none
  name : String
  image : String
  pullPolicy : Option String := none
  deriving DecidableEq, Repr

def exitSuccess : Int := 0
def exitFailed : Int := 1
def exitVanished : Int := 2
/-- The code of a pod that ended without a word of its workload. -/
def exitSilent : Int := 3
def exitOutOfMemory : Int := 137
def exitKilled : Int := 143

/-- The texts by which a log tells that memory ran out. -/
def outOfMemoryMarks : List String := ["java.lang.OutOfMemoryError", "OOMKilled"]

def tellsOutOfMemory (lines : List String) : Bool :=
  lines.any fun line =>
    outOfMemoryMarks.any fun mark => Text.occursIn mark.toList line.toList

end ConnectorSync.Workload
