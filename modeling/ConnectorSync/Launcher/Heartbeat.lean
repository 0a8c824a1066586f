import ConnectorSync.Json.Writer

/-!
# The heartbeat

Attached pods ask the launcher whether it is still there, and end when it no longer answers.
-/

namespace ConnectorSync.Launcher

/-- A reply to a web request. -/
structure Reply where
  status : Nat
  contentType : Option String := none
  body : String := ""
  deriving DecidableEq, Repr

def alive : Reply where
  status := 200
  contentType := some "application/json"
  body := (Json.Value.record [("alive", .bool true)]).render

/-- The path of a request without its query. -/
def pathOf (target : String) : String := String.ofList (target.toList.takeWhile (· ≠ '?'))

/-- The reply to a request: the one page there is can be read, or only its head; it accepts nothing
else. -/
def heartbeat (method target : String) : Reply :=
  if pathOf target ≠ "/" then { status := 404 }
  else if method = "GET" then alive
  else if method = "HEAD" then { alive with body := "" }
  else { status := 405 }

end ConnectorSync.Launcher
