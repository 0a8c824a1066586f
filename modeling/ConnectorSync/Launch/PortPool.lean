/-!
# Port pools

The local ports that relays listen on. A bounded pool hands ports out from the front and takes them
back at the end; an ephemeral pool always hands out port zero, which lets the system choose.
-/

namespace ConnectorSync.Launch

abbrev Port := Nat

def lastPort : Port := 65535

inductive PortPool
  | ephemeral
  | bounded (free : List Port)
  deriving DecidableEq, Repr

namespace PortPool

/-- The ports from `start` on, as many of `count` as there are. -/
def range (start count : Nat) : PortPool :=
  .bounded (((List.range count).map (start + ·)).filter (· ≤ lastPort))

def free : PortPool → List Port
  | ephemeral => []
  | bounded ports => ports

def available (p : PortPool) : Nat := p.free.length

/-- A port, if there is one, and the pool without it. -/
def take : PortPool → Option Port × PortPool
  | ephemeral => (some 0, ephemeral)
  | bounded [] => (none, bounded [])
  | bounded (p :: rest) => (some p, bounded rest)

/-- The pool with a port given back. Port zero is not a port of a pool. -/
def offer : PortPool → Port → PortPool
  | ephemeral, _ => ephemeral
  | bounded ports, port => if port = 0 then bounded ports else bounded (ports ++ [port])

/-- The ports of the pool in the order in which they are handed out, and the pool without them. -/
def drain (p : PortPool) : List Port × PortPool :=
  match p with
  | ephemeral => ([], ephemeral)
  | bounded ports => (ports, bounded [])

end PortPool

end ConnectorSync.Launch
