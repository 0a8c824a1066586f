import ConnectorSync.Json.Decode
import ConnectorSync.Workload.Info

/-!
# Written forms of identities
-/

namespace ConnectorSync.Workload

open Json

namespace Info

/-- The identity, without what is absent. -/
def encode (i : Info) : Value :=
  .present [("namespace", i.ns.map .string), ("name", some (.string i.name)),
    ("image", some (.string i.image)), ("pull_policy", i.pullPolicy.map .string)]

/-- The identity of a process: name and image must be there. -/
def decoder : Decoder Info :=
  (Info.mk <$> Fields.nullable "namespace" Decode.text <*> Fields.required "name" Decode.text <*>
    Fields.required "image" Decode.text <*> Fields.nullable "pull_policy" Decode.text
    : Fields Info).record "the identity of a workload"

end Info

end ConnectorSync.Workload
