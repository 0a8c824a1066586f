import ConnectorSync.Launch.Wire
import ConnectorSync.Proofs.Json.Records

/-!
# Written launch descriptors are read back
-/

namespace ConnectorSync.Launch

open Json

theorem Step.decoder_encode (s : Step) : Step.decoder (.ofValue s.encode) = .ok s := by
  cases s <;> rfl

namespace Resources

theorem plain_encode (room : Nat) (r : Resources) : r.encode.Plain (room + 1) := by
  refine .present ?_
  simp only [List.forall_mem_cons]
  exact ⟨fun _ => .optionalText, fun _ => .optionalText, fun _ => .optionalText,
    fun _ => .optionalText, nofun⟩

theorem decoder_encode (r : Resources) : decoder (.ofValue r.encode) = .ok r := by
  unfold decoder encode
  dsimp only
  refine Fields.record_of_holds ?_ _ _ (names_present _) (by decide)
  refine (Fields.holds_optionalText ?_).map Resources.mk
    |>.seq (Fields.holds_optionalText ?_)
    |>.seq (Fields.holds_optionalText ?_)
    |>.seq (Fields.holds_optionalText ?_)
  all_goals exact member?_present (by simp) _

end Resources

namespace Descriptor

theorem plain_encode (room : Nat) {d : Descriptor} (small : d.attempt < 2 ^ 32) :
    d.encode.Plain (room + 2) := by
  have uuid (u : Option Uuid) :
      Value.Plain (room + 1) (.orNull (u.map fun u => .string u.render)) :=
    .orNull fun u _ => .string u.render
  refine .object ?_
  simp only [List.forall_mem_cons]
  exact ⟨.string _, .nat32 small, uuid _, uuid _, .string _, .string _,
    .ofList .string _, .ofMap .string _, d.resources.plain_encode room, .ofList .string _,
    .ofMap .string _, .bool _, nofun⟩

theorem decoder_encode {d : Descriptor} (small : d.attempt < 2 ^ 32) :
    decoder (.ofValue d.encode) = .ok d := by
  have uuid (u : Option Uuid) :
      Decode.optional Decode.uuid (.ofValue (.orNull (u.map fun u => .string u.render))) = .ok u :=
    Decode.optional_orNull (fun u _ => Decode.uuid_render u) nofun
  have texts (ts : List String) :
      Decode.listOf Decode.text (.ofValue (.ofList .string ts)) = .ok ts :=
    Decode.listOf_ofList Decode.text_string ts
  have map (m : StringMap String) :
      Decode.mapOf Decode.text (.ofValue (.ofMap .string m)) = .ok m :=
    Decode.mapOf_ofMap Decode.text_string m
  unfold decoder encode
  dsimp only
  refine Fields.record_of_holds ?_ _ _ (.refl _) (by decide)
  refine (Fields.holds_field ?_ (Decode.text_string _)).map Descriptor.mk
    |>.seq (Fields.holds_field ?_ (Decode.nat32_nat small))
    |>.seq (Fields.holds_field ?_ (uuid d.connectionId))
    |>.seq (Fields.holds_field ?_ (uuid d.workspaceId))
    |>.seq (Fields.holds_field ?_ (Decode.text_string _))
    |>.seq (Fields.holds_field ?_ d.step.decoder_encode)
    |>.seq (Fields.holds_field ?_ (texts d.args))
    |>.seq (Fields.holds_field ?_ (map d.files))
    |>.seq (Fields.holds_field ?_ d.resources.decoder_encode)
    |>.seq (Fields.holds_field ?_ (texts d.allowedHosts))
    |>.seq (Fields.holds_field ?_ (map d.env))
    |>.seq (Fields.holds_field ?_ (Decode.bool_bool _))
  all_goals rfl

end Descriptor

end ConnectorSync.Launch
