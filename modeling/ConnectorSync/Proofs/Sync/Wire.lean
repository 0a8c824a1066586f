import ConnectorSync.Proofs.Launch.Wire
import ConnectorSync.Sync.Wire

/-!
# Written sync records are read back

Backoffs, limits, retry budgets, flags, inputs of runs and outputs: each is read back from its
written form, down to the text.
-/

namespace ConnectorSync

open Json

/-! ### Durations -/

namespace Duration

theorem seconds_lt (d : Duration) : d.seconds < 2 ^ 64 := by
  have longest : d.total < 2 ^ 64 * nanosPerSecond :=
    Nat.lt_of_le_of_lt d.total_le (by decide)
  exact (Nat.div_lt_iff_lt_mul (by decide)).2 longest

theorem subsecond_lt (d : Duration) : d.subsecond < 2 ^ 32 := by
  have second : d.subsecond < nanosPerSecond := Nat.mod_lt _ (by decide)
  exact Nat.lt_trans second (by decide)

theorem ofNanos?_total (d : Duration) :
    ofNanos? (d.seconds * nanosPerSecond + d.subsecond) = some d := by
  have total : d.seconds * nanosPerSecond + d.subsecond = d.total := by
    rw [Nat.mul_comm]
    exact Nat.div_add_mod ..
  rw [total, ofNanos?, dif_pos d.total_le]

theorem plain_encode (room : Nat) (d : Duration) : d.encode.Plain (room + 1) := by
  refine .object ?_
  simp only [List.forall_mem_cons]
  exact ⟨.nat d.seconds_lt, .nat32 d.subsecond_lt, nofun⟩

/-- Stated for any way to make durations: the bound on their nanoseconds is too large for the kernel
to look into. -/
theorem parts_bind {make : Nat → Option Duration} {seconds nanos grain : Nat} {d : Duration}
    (found : make (seconds * grain + nanos) = some d) :
    ((.ok (seconds, nanos) : Except Fault (Nat × Nat)) >>= fun (seconds, nanos) =>
      match make (seconds * grain + nanos) with
      | some span => .ok span
      | none => .error (.ofCause (.refused "overflow deserializing Duration"))) = .ok d := by
  simp only [bind, Except.bind, found]

theorem decoder_encode (d : Duration) : Decode.duration (.ofValue d.encode) = .ok d := by
  have read : (Prod.mk <$> Fields.required "secs" Decode.nat64 <*>
      Fields.required "nanos" Decode.nat32 : Fields (Nat × Nat)).record "a duration" .refused
        (.ofValue d.encode) = .ok (d.seconds, d.subsecond) := by
    refine Fields.record_of_holds ?_ _ _ (.refl _) (by decide)
    refine (Fields.holds_field ?_ (Decode.nat64_nat d.seconds_lt)).map Prod.mk
      |>.seq (Fields.holds_field ?_ (Decode.nat32_nat d.subsecond_lt))
    all_goals rfl
  rw [Decode.duration, read]
  exact parts_bind d.ofNanos?_total

end Duration

namespace Sync

/-! ### Retries -/

namespace Backoff

theorem plain_encode (room : Nat) (b : Backoff) : b.encode.Plain (room + 2) := by
  refine .object ?_
  simp only [List.forall_mem_cons]
  exact ⟨b.minInterval.plain_encode room, b.maxInterval.plain_encode room,
    .word32 _, nofun⟩

theorem decoder_encode (b : Backoff) : decoder (.ofValue b.encode) = .ok b := by
  unfold decoder encode
  refine Fields.record_of_holds ?_ _ _ (.refl _) (by decide)
  refine (Fields.holds_field ?_ b.minInterval.decoder_encode).map Backoff.mk
    |>.seq (Fields.holds_field ?_ b.maxInterval.decoder_encode)
    |>.seq (Fields.holds_field ?_ (Decode.word32_toNat b.base))
  all_goals rfl

end Backoff

namespace RetryLimits

theorem plain_encode (room : Nat) (l : RetryLimits) : l.encode.Plain (room + 1) := by
  refine .object ?_
  simp only [List.forall_mem_cons]
  exact ⟨.word32 _, .word32 _, .word32 _, .word32 _, nofun⟩

theorem decoder_encode (l : RetryLimits) : decoder (.ofValue l.encode) = .ok l := by
  unfold decoder encode
  refine Fields.record_of_holds ?_ _ _ (.refl _) (by decide)
  refine (Fields.holds_field ?_ (Decode.word32_toNat _)).map RetryLimits.mk
    |>.seq (Fields.holds_field ?_ (Decode.word32_toNat _))
    |>.seq (Fields.holds_field ?_ (Decode.word32_toNat _))
    |>.seq (Fields.holds_field ?_ (Decode.word32_toNat _))
  all_goals rfl

end RetryLimits

namespace RetryBudget

theorem plain_encode (room : Nat) (b : RetryBudget) : b.encode.Plain (room + 3) := by
  refine .object ?_
  simp only [List.forall_mem_cons]
  exact ⟨.orNull fun backoff _ => backoff.plain_encode room, b.limits.plain_encode (room + 1),
    .word32 _, .word32 _, .word32 _, .word32 _, nofun⟩

theorem decoder_encode (b : RetryBudget) : decoder (.ofValue b.encode) = .ok b := by
  unfold decoder encode
  dsimp only
  refine Fields.record_of_holds ?_ _ _ (.refl _) (by decide)
  refine (Fields.holds_field ?_ (Decode.optional_orNull (fun backoff _ => backoff.decoder_encode)
      nofun)).map RetryBudget.mk
    |>.seq (Fields.holds_field ?_ b.limits.decoder_encode)
    |>.seq (Fields.holds_field ?_ (Decode.word32_toNat _))
    |>.seq (Fields.holds_field ?_ (Decode.word32_toNat _))
    |>.seq (Fields.holds_field ?_ (Decode.word32_toNat _))
    |>.seq (Fields.holds_field ?_ (Decode.word32_toNat _))
  all_goals rfl

end RetryBudget

/-! ### Runs -/

namespace Flags

theorem plain_encode (room : Nat) (f : Flags) : f.encode.Plain (room + 1) := by
  refine .object fun m there => ?_
  rcases List.mem_append.1 there with there | there
  · obtain ⟨flag, -, rfl⟩ := List.mem_map.1 there
    exact .bool flag.2
  · rw [List.mem_singleton.1 there]
    exact .word64 f.generation

theorem decoder_encode (f : Flags) : decoder (.ofValue f.encode) = .ok f := by
  unfold decoder encode
  dsimp only
  refine Fields.record_of_holds ?_ _ _ (.refl _) (by decide)
  refine (Fields.holds_field ?_ (Decode.bool_bool _)).map Flags.mk
    |>.seq (Fields.holds_field ?_ (Decode.bool_bool _))
    |>.seq (Fields.holds_field ?_ (Decode.bool_bool _))
    |>.seq (Fields.holds_field ?_ (Decode.bool_bool _))
    |>.seq (Fields.holds_field ?_ (Decode.bool_bool _))
    |>.seq (Fields.holds_field ?_ (Decode.bool_bool _))
    |>.seq (Fields.holds_field ?_ (Decode.bool_bool _))
    |>.seq (Fields.holds_field ?_ (Decode.bool_bool _))
    |>.seq (Fields.holds_field ?_ (Decode.bool_bool _))
    |>.seq (Fields.holds_field ?_ (Decode.bool_bool _))
    |>.seq (Fields.holds_field ?_ (Decode.bool_bool _))
    |>.seq (Fields.holds_field ?_ (Decode.word64_toNat _))
  all_goals rfl

end Flags

/-- The numbers of an input are numbers that its written form has room for. -/
structure RunInput.InRange (r : RunInput) : Prop where
  attempt : r.attempt < 2 ^ 32
  job : ∀ id, r.jobId = some id → -(2 ^ 63 : Nat) ≤ id ∧ id < (2 ^ 63 : Nat)

namespace RunInput

theorem plain_encode (room : Nat) {r : RunInput} (range : r.InRange) :
    r.encode.Plain (room + 1) := by
  refine .object ?_
  simp only [List.forall_mem_cons]
  exact ⟨.string _, .orNull fun id there => .int (range.job id there).1
      (Int.lt_trans (range.job id there).2 (by decide)),
    .nat32 range.attempt, .bool _, .bool _, .bool _, nofun⟩

theorem decoder_encode {r : RunInput} (range : r.InRange) :
    decoder (.ofValue r.encode) = .ok r := by
  unfold decoder encode
  refine Fields.record_of_holds ?_ _ _ (.refl _) (by decide)
  refine (Fields.holds_field ?_ (Decode.uuid_render _)).map RunInput.mk
    |>.seq (Fields.holds_field ?_ (Decode.optional_orNull
      (fun id there => Decode.int64_int (range.job id there).1 (range.job id there).2) nofun))
    |>.seq (Fields.holds_field ?_ (Decode.nat32_nat range.attempt))
    |>.seq (Fields.holds_field ?_ (Decode.bool_bool _))
    |>.seq (Fields.holds_field ?_ (Decode.bool_bool _))
    |>.seq (Fields.holds_field ?_ (Decode.bool_bool _))
  all_goals rfl

end RunInput

namespace SyncOutput

theorem plain_encode (room : Nat) (o : SyncOutput) : o.encode.Plain (room + 1) := by
  refine .present ?_
  simp only [List.forall_mem_cons]
  refine ⟨?_, fun _ => .optionalText, nofun⟩
  rintro v ⟨⟩
  exact .word64 o.bytesSynced

theorem decoder_encode (o : SyncOutput) : decoder (.ofValue o.encode) = .ok o := by
  unfold decoder encode
  refine Fields.record_of_holds ?_ _ _ (names_present _) (by decide)
  refine (Fields.holds_field ?_ (Decode.word64_toNat _)).map SyncOutput.mk
    |>.seq (Fields.holds_optionalText ?_)
  all_goals exact member?_present (by simp) _

end SyncOutput

/-- Every record that is kept is read back from the text it is written as. -/
theorem records_read_back :
    (∀ d : Launch.Descriptor, d.attempt < 2 ^ 32 →
      Json.read Launch.Descriptor.decoder d.encode.render = .ok d) ∧
    (∀ r : Launch.Resources, Json.read Launch.Resources.decoder r.encode.render = .ok r) ∧
    (∀ b : Backoff, Json.read Backoff.decoder b.encode.render = .ok b) ∧
    (∀ l : RetryLimits, Json.read RetryLimits.decoder l.encode.render = .ok l) ∧
    (∀ b : RetryBudget, Json.read RetryBudget.decoder b.encode.render = .ok b) ∧
    (∀ f : Flags, Json.read Flags.decoder f.encode.render = .ok f) ∧
    (∀ r : RunInput, r.InRange → Json.read RunInput.decoder r.encode.render = .ok r) ∧
    ∀ o : SyncOutput, Json.read SyncOutput.decoder o.encode.render = .ok o :=
  ⟨fun d small => read_render (d.plain_encode 125 small) (d.decoder_encode small),
    fun r => read_render (r.plain_encode 126) r.decoder_encode,
    fun b => read_render (b.plain_encode 125) b.decoder_encode,
    fun l => read_render (l.plain_encode 126) l.decoder_encode,
    fun b => read_render (b.plain_encode 124) b.decoder_encode,
    fun f => read_render (f.plain_encode 126) f.decoder_encode,
    fun r range => read_render (r.plain_encode 126 range) (r.decoder_encode range),
    fun o => read_render (o.plain_encode 126) o.decoder_encode⟩

def largestDescriptor : Launch.Descriptor :=
  { jobId := "\"7\"\n", attempt := 2 ^ 32 - 1, connectionId := some .zero, image := "\\é\x01",
    step := .write, files := .ofList [("b", ""), ("a", "1")], resources := { cpuLimit := some "2" } }

def smallestInput : RunInput :=
  { connectionId := .zero, jobId := some (-(2 ^ 63 : Nat)), attempt := 2 ^ 32 - 1 }

theorem records_read_back_extremes :
    largestDescriptor.attempt < 2 ^ 32 ∧
    Json.read Launch.Descriptor.decoder largestDescriptor.encode.render = .ok largestDescriptor ∧
    smallestInput.InRange ∧
    Json.read RunInput.decoder smallestInput.encode.render = .ok smallestInput := by
  have small : largestDescriptor.attempt < 2 ^ 32 := by decide
  have range : smallestInput.InRange := by
    refine ⟨by decide, ?_⟩
    rintro id ⟨⟩
    decide
  obtain ⟨descriptor, _, _, _, _, _, input, _⟩ := records_read_back
  exact ⟨small, descriptor _ small, range, input _ range⟩

end Sync

end ConnectorSync
