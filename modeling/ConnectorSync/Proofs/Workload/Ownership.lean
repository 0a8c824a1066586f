import ConnectorSync.Proofs.Workload.Handles

/-!
# Whose pods are removed

A handle removes pods by their name, when it is destroyed and when its launch fails. So it removes
none but its own as long as no other handle has a pod of the name, and only then.
-/

namespace ConnectorSync.Workload.Pod

open Launch Cluster

/-! ### Requests about one pod -/

section Parts

variable {key : PodKey}

theorem within_offerAll (ports : List Port) :
    (Attached.offerAll ports).Within (Owns key) fun _ => True := by
  induction ports with
  | nil => exact trivial
  | cons port ports ih => exact .request trivial fun _ => ih

theorem within_lease (config : Config) (d : Descriptor) (name : String) :
    (Attached.lease config d name).Within (Owns key)
      fun result => ∀ p, result = .ok p → p.key = ⟨config.ns, name⟩ := by
  refine .request trivial fun stdout => ?_
  cases stdout with
  | none => exact nofun
  | some stdout =>
    refine .request trivial fun stderr => ?_
    cases stderr with
    | none => exact (within_offerAll _).bind fun _ _ => nofun
    | some stderr =>
      refine .request trivial fun relay => ?_
      cases relay with
      | error fault => exact (within_offerAll _).bind fun _ _ => nofun
      | ok relay =>
        rintro p ⟨⟩
        rfl

theorem within_close (p : Attached) : p.close.Within (Owns key) fun _ => True := by
  refine .request trivial fun first => ?_
  split
  · exact (within_offerAll _).bind fun _ _ => trivial
  · exact trivial

theorem Attached.within_exitValue (p : Attached) :
    p.exitValue.Within (Owns key) fun _ => True := by
  refine .request trivial fun code => ?_
  cases code with
  | none => exact trivial
  | some code => exact (within_close p).bind fun _ _ => trivial

theorem Attached.within_waitFor (p : Attached) (limit : Option Duration) :
    (p.waitFor limit).Within (Owns key) fun _ => True := by
  refine .request trivial fun code => ?_
  cases code with
  | none => exact trivial
  | some code => exact (within_close p).bind fun _ _ => trivial

end Parts

theorem Keeper.Serves.within {k : Keeper} {t : Talk Unit} (h : k.Serves t) :
    t.Within (Owns k.key) fun _ => True := by
  cases h with
  | exitValue p => exact p.within_exitValue.bind fun _ _ => trivial
  | waitFor p limit => exact (p.within_waitFor limit).bind fun _ _ => trivial
  | destroy p =>
    exact .request rfl fun _ => .request trivial fun _ => (within_close p).bind fun _ _ => trivial
  | close p => exact (within_close p).bind fun _ _ => trivial
  | detachedExitValue p =>
    exact (p.within_exitValue.mono (fun _ => Looks.owns) fun _ _ => trivial).bind
      fun _ _ => trivial
  | detachedWaitFor p wait =>
    exact ((p.within_waitFor wait).mono (fun _ => Looks.owns) fun _ _ => trivial).bind
      fun _ _ => trivial
  | detachedDestroy p => exact .request rfl fun _ => trivial

/-! ### Launches -/

def Attached.Goes (key : PodKey) : Launching ⊕ Except Launch.Error Attached → Prop
  | .inl (.starting p _) | .inr (.ok p) => p.key = key
  | .inl .asked | .inr (.error _) => True

theorem Attached.within_create (config : Config) (d : Descriptor) (name : String)
    (stage : Launching) (own : Goes ⟨config.ns, name⟩ (.inl stage)) :
    (create config d name stage).Within (Owns ⟨config.ns, name⟩) (Goes ⟨config.ns, name⟩) := by
  cases stage with
  | asked =>
    refine (within_lease config d name).bind fun result named => ?_
    cases result with
    | error e => exact trivial
    | ok p => exact named p rfl
  | starting p stage =>
    have own : p.key = ⟨config.ns, name⟩ := own
    have within := (p.within_start config d stage).mono (fun _ => Startup.owns) fun _ _ => trivial
    rw [own] at within
    refine within.bind fun result _ => ?_
    rcases result with stage | (e | done)
    · exact own
    · exact .request own fun _ => (within_close p).bind fun _ _ => trivial
    · exact own

def Detached.Goes (key : PodKey) : Launching ⊕ Except Launch.Error Detached → Prop
  | .inr (.ok p) => p.key = key
  | .inl _ | .inr (.error _) => True

theorem Detached.within_create (config : Config) (d : Descriptor) (name : String)
    (stage : Launching) :
    (create config d name stage).Within (Owns ⟨config.ns, name⟩) (Goes ⟨config.ns, name⟩) := by
  have within := ((attach config name d.image d.workloadId).within_launch config d stage).mono
    (fun _ => Startup.owns) fun _ _ => trivial
  refine within.bind fun result _ => ?_
  rcases result with stage | (e | done)
  · exact trivial
  · exact .request rfl fun _ => trivial
  · exact rfl

def Handle.Goes (h : Handle) : Stage ⊕ Except Launch.Error Keeper → Prop
  | .inl (.attached (.starting p _)) => p.key = h.key
  | .inr (.ok k) => k.key = h.key
  | _ => True

theorem within_launch {h : Handle} (stage : Stage) (own : h.Goes (.inl stage)) :
    (h.launch stage).Within (Owns h.key) h.Goes := by
  cases stage with
  | attached stage =>
    have own : Attached.Goes h.key (.inl stage) := by
      cases stage with
      | asked => exact trivial
      | starting p stage => exact own
    refine (Attached.within_create h.config h.descriptor h.name stage own).bind
      fun result own => ?_
    rcases result with (_ | p) | (e | p)
    · exact trivial
    · exact own
    · exact trivial
    · exact own
  | detached stage =>
    refine (Detached.within_create h.config h.descriptor h.name stage).bind fun result own => ?_
    rcases result with stage | (e | p)
    · exact trivial
    · exact trivial
    · exact own

/-! ### Runs -/

variable {ι : Type} {handles : ι → Handle}

def Standing.Owns (h : Handle) : Standing → Prop
  | launching rest => rest.Within (Pod.Owns h.key) h.Goes
  | failed _ => True
  | kept k talks => k.key = h.key ∧ ∀ t ∈ talks, t.Within (Pod.Owns h.key) fun _ => True

/-- Pods have the names of the handles that created them, and were removed by handles of the same
name. -/
structure Ground.Owned (handles : ι → Handle) (g : Ground ι) : Prop where
  pods : ∀ key i, g.pods key = some i → key = (handles i).key
  removals : ∀ removal ∈ g.removals, (handles removal.1).key = (handles removal.2).key

structure Yard.Owned (handles : ι → Handle) (y : Yard ι) : Prop where
  standing : ∀ i, (y.standing i).Owns (handles i)
  ground : y.ground.Owned handles

theorem Ground.Owned.vanish {g : Ground ι} (h : g.Owned handles) (key : PodKey) :
    (g.vanish key).Owned handles :=
  ⟨fun k i there => h.pods k i (of_pods_vanish there).2, h.removals⟩

variable [DecidableEq ι] {y y' : Yard ι}

theorem Ground.Owned.answered {g g' : Ground ι} {i : ι} {r : Request} {a : r.Answer}
    (h : g.Owned handles) (answers : g.Answers i r a g') (own : Pod.Owns (handles i).key r) :
    g'.Owned handles := by
  cases answers with
  | created ns manifest key answer named free =>
    refine ⟨fun k j there => ?_, h.removals⟩
    rcases of_pods_place there with ⟨rfl, rfl⟩ | before
    · exact Option.some.inj (named.symm.trans own)
    · exact h.pods k j before
  | deleted key answer =>
    refine ⟨(h.vanish key).pods, fun removal mem => ?_⟩
    rcases List.mem_append.1 mem with now | before
    · obtain ⟨j, there, rfl⟩ := List.mem_map.1 now
      have own : key = (handles i).key := own
      exact own.symm.trans (h.pods key j (Option.mem_toList.1 there))
    · exact h.removals removal before
  | refused | spared | took | offered | released | plain => exact ⟨h.pods, h.removals⟩

theorem Yard.Owned.stand {ground : Ground ι} {i : ι} (s : Standing) (h : y.Owned handles)
    (own : s.Owns (handles i)) (owned : ground.Owned handles) :
    (y.stand i s ground).Owned handles := by
  refine ⟨fun k => ?_, owned⟩
  by_cases same : k = i
  · subst same
    rw [Yard.standing_stand_self]
    exact own
  · rw [Yard.standing_stand_of_ne y s ground same]
    exact h.standing k

/-- A handle creates and deletes pods of its own key only. -/
theorem Yard.Owned.step (h : y.Owned handles) (step : Step handles y y') : y'.Owned handles := by
  have own {i : ι} {s : Standing} (there : y.standing i = s) : s.Owns (handles i) :=
    there ▸ h.standing i
  cases step with
  | vanish key => exact ⟨h.standing, h.ground.vanish key⟩
  | answer there answers =>
    obtain ⟨allowed, rest⟩ := own there
    exact h.stand (.launching _) (rest _) (h.ground.answered answers allowed)
  | turn there => exact h.stand (.launching _) (within_launch _ (own there)) h.ground
  | fail there => exact h.stand (.failed _) trivial h.ground
  | keep there => exact h.stand (.kept _ _) ⟨own there, nofun⟩ h.ground
  | serve there serves =>
    obtain ⟨same, talks⟩ := own there
    refine h.stand (.kept _ _) ⟨same, fun t mem => ?_⟩ h.ground
    rcases List.mem_cons.1 mem with rfl | mem
    · exact same ▸ serves.within
    · exact talks t mem
  | talk there answers =>
    obtain ⟨same, talks⟩ := own there
    obtain ⟨allowed, rest⟩ := talks _ (List.mem_append_right _ List.mem_cons_self)
    refine h.stand (.kept _ _) ⟨same, fun t mem => ?_⟩ (h.ground.answered answers allowed)
    rcases List.mem_append.1 mem with before | mem
    · exact talks t (List.mem_append_left _ before)
    · rcases List.mem_cons.1 mem with rfl | later
      · exact rest _
      · exact talks t (List.mem_append_right _ (List.mem_cons_of_mem _ later))

theorem Yard.owned_reachable (h : y.Reachable handles) : y.Owned handles := by
  obtain ⟨pool, steps⟩ := h
  induction steps with
  | refl =>
    refine ⟨fun i => within_launch _ ?_, nofun, nofun⟩
    unfold Handle.first
    split <;> exact trivial
  | tail _ step ih => exact ih.step step

/-! ### Two handles of one name -/

theorem Ground.takes {g : Ground ι} (i : ι) (pool : g.pool = .ephemeral) :
    g.Answers i .takePort (some 0) (g.record i .takePort (some 0)) := by
  obtain ⟨pods, _, holding, removals⟩ := g
  obtain rfl := pool
  exact .took

/-- A launch comes to the creation of its pod, and when that fails to the deletion. -/
theorem Yard.reaches_create (handles : ι → Handle) {i : ι}
    (there : y.standing i = .launching ((handles i).launch (handles i).first))
    (pool : y.ground.pool = .ephemeral) : ∃ ns manifest next ground,
      Steps handles y (y.stand i (.launching (.ask (.cluster (.create ns manifest)) next)) ground) ∧
      podKey? ns manifest = some (handles i).key ∧ ground.pods = y.ground.pods ∧
      ground.pool = .ephemeral ∧
      ∀ e, ∃ next', next (.error e) = .ask (.cluster (.delete (handles i).key)) next' := by
  have begun := Steps.begun handles there
  unfold Handle.first at begun
  split at begun
  · have taken : Steps handles y (y.stand i (.launching _) _) :=
      Steps.answer (r := .takePort) begun (Ground.takes i pool)
    have taken : Steps handles y (y.stand i (.launching _) _) :=
      Steps.answer (r := .takePort) taken (Ground.takes i pool)
    have leased : Steps handles y (y.stand i (.launching _) _) :=
      Steps.answer (r := .listen ⟨0, 0⟩) (a := .ok ⟨0, 0⟩) taken (.plain _ _ rfl)
    exact ⟨_, _, _, _, leased.turn, podKey?_encode _ _, rfl, pool, fun e => ⟨_, rfl⟩⟩
  · exact ⟨_, _, _, _, begun, podKey?_encode _ _, rfl, pool, fun e => ⟨_, rfl⟩⟩

/-- The launch of one handle fails since a pod of its name is there, and it removes that pod. -/
theorem Yard.foreign_removal (handles : ι → Handle) {i j : ι} (other : i ≠ j)
    (same : (handles i).key = (handles j).key) :
    ∃ y : Yard ι, y.Reachable handles ∧ (i, j) ∈ y.ground.removals := by
  obtain ⟨ns, manifest, next, ground, created, named, pods, pool, -⟩ :=
    reaches_create handles (y := first handles .ephemeral) (i := j) rfl rfl
  -- `j` has created its pod, and the creation for `i` is rejected
  have free : ground.pods (handles j).key = none := by
    rw [pods]
    rfl
  have placed := created.answer (.created ns manifest _ (.ok ()) named free)
  obtain ⟨ns', manifest', next', ground', refused, -, pods', -, fails⟩ :=
    reaches_create handles
      (y := (first handles .ephemeral).stand j (.launching (next (.ok ())))
        (ground.place j (handles j).key)) (i := i) (standing_stand_of_ne _ _ _ other) pool
  have refused := refused.answer (.refused ns' manifest' (.rejected "the pod already exists"))
  obtain ⟨next'', deletes⟩ := fails (.rejected "the pod already exists")
  rw [deletes] at refused
  have removed := refused.answer (.deleted _ (.ok true))
  refine ⟨_, ⟨_, placed.trans removed⟩, ?_⟩
  have there : ground'.pods (handles i).key = some j := by
    rw [pods', same]
    exact Function.update_self ..
  show (i, j) ∈ (ground'.pods (handles i).key).toList.map (i, ·) ++ ground'.removals
  simp [there]

/-- Every pod that is removed by a handle is one that it created, in every run, just if no two
handles launch pods of one name. -/
theorem removes_own_iff :
    (∀ y : Yard ι, y.Reachable handles → ∀ removal ∈ y.ground.removals, removal.1 = removal.2) ↔
      Function.Injective fun i => (handles i).key := by
  constructor
  · intro own i j same
    by_contra other
    obtain ⟨y, reachable, mem⟩ := Yard.foreign_removal handles other same
    exact other (own y reachable _ mem)
  · intro distinct y reachable removal mem
    exact distinct ((Yard.owned_reachable reachable).ground.removals removal mem)

/-- A pod that one handle created is removed by the other. -/
theorem foreign_pod_removed : ∃ (handles : Bool → Handle) (y : Yard Bool), y.Reachable handles ∧
    ∃ removal ∈ y.ground.removals, removal.1 ≠ removal.2 := by
  obtain ⟨y, reachable, mem⟩ :=
    Yard.foreign_removal (fun _ => .sample) (i := true) (j := false) (by decide) rfl
  exact ⟨_, y, reachable, _, mem, by decide⟩

end ConnectorSync.Workload.Pod
