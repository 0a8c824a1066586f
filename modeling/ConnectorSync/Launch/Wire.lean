import ConnectorSync.Json.Decode
import ConnectorSync.Launch.Descriptor

/-!
# Written form of launch descriptors

Descriptors, steps and resources as JSON. Reading a written descriptor gives the descriptor back.
-/

namespace ConnectorSync.Launch

open Json

namespace Step

def encode (s : Step) : Value := .string s.name

def decoder : Decoder Step := Decode.choice ofName?

end Step

namespace Resources

def encode (r : Resources) : Value :=
  .present
    [("cpu_request", r.cpuRequest.map .string), ("cpu_limit", r.cpuLimit.map .string),
      ("memory_request", r.memoryRequest.map .string), ("memory_limit", r.memoryLimit.map .string)]

def decoder : Decoder Resources :=
  let amount (name : String) := Fields.defaulted name (Decode.optional Decode.text) none
  (Resources.mk <$> amount "cpu_request" <*> amount "cpu_limit" <*> amount "memory_request" <*>
    amount "memory_limit" : Fields Resources).record "resources"

end Resources

namespace Descriptor

def encode (d : Descriptor) : Value :=
  let uuid (u : Option Uuid) : Value := .orNull (u.map fun u => .string u.render)
  .object
    [("job_id", .string d.jobId), ("attempt", .nat d.attempt),
      ("connection_id", uuid d.connectionId), ("workspace_id", uuid d.workspaceId),
      ("image", .string d.image), ("step", d.step.encode), ("args", .ofList .string d.args),
      ("files", .ofMap .string d.files), ("resources", d.resources.encode),
      ("allowed_hosts", .ofList .string d.allowedHosts), ("env", .ofMap .string d.env),
      ("isolated", .bool d.isolated)]

/-- A descriptor: job, attempt, image and step must be there, all else has a default. -/
def decoder : Decoder Descriptor :=
  let uuid (name : String) := Fields.defaulted name (Decode.optional Decode.uuid) none
  let texts (name : String) := Fields.defaulted name (Decode.listOf Decode.text) []
  let map (name : String) := Fields.defaulted name (Decode.mapOf Decode.text) .empty
  (Descriptor.mk <$> Fields.required "job_id" Decode.text <*>
    Fields.required "attempt" Decode.nat32 <*> uuid "connection_id" <*> uuid "workspace_id" <*>
    Fields.required "image" Decode.text <*> Fields.required "step" Step.decoder <*>
    texts "args" <*> map "files" <*> Fields.defaulted "resources" Resources.decoder {} <*>
    texts "allowed_hosts" <*> map "env" <*> Fields.defaulted "isolated" Decode.bool false
    : Fields Descriptor).record "a launch descriptor"

end Descriptor

end ConnectorSync.Launch
