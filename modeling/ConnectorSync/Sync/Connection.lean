import ConnectorSync.Json.Basic
import ConnectorSync.Launch.Resources
import ConnectorSync.Sync.Job

/-!
# Connections

What is synced: a source and a destination connector with their configurations, the catalog of
streams and the state to go on from.
-/

namespace ConnectorSync.Sync

structure Connector where
  image : String
  config : Json.Value
  resources : Launch.Resources := {}

structure Connection where
  id : Uuid
  workspaceId : Option Uuid := none
  source : Connector
  destination : Connector
  catalog : Json.Value := .null
  state : Option Json.Value := none

def Connection.connector (c : Connection) : Side → Connector
  | .source => c.source
  | .destination => c.destination

end ConnectorSync.Sync
