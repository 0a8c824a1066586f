import ConnectorSync.Proofs.Workload.Handles

/-!
# Launches that fail

What a handle has of its surroundings while it launches a pod, found request by request, whatever
the other handles do meanwhile. A launch that fails leaves nothing behind.
-/

namespace ConnectorSync.Workload.Pod

open Launch Cluster

variable {ι : Type}

namespace Ground

variable {g : Ground ι} {i : ι} {key : PodKey} {h : Holding}

def Has (i : ι) (h : Holding) (own : PodKey → Prop) (g : Ground ι) : Prop :=
  g.holding i = h ∧ ∀ key, g.pods key = some i → own key

structure Starts (i : ι) (relayed : Bool) (key : PodKey) (leased : List Port) (g : Ground ι) :
    Prop where
  own : ∀ k, g.pods k = some i → k = key
  taken : (g.holding i).taken = leased
  offered : (g.holding i).offered = []
  released : (g.holding i).released = false
  spared : (g.holding i).spared = false
  quiet : relayed = false → (g.holding i).accepting = false ∧ (g.holding i).watching = false

/-- Nothing is left of what a handle had, but for a pod that was to be deleted and left there. -/
structure Undone (i : ι) (g : Ground ι) : Prop where
  offered : (g.holding i).offered = (g.holding i).taken
  accepting : (g.holding i).accepting = false
  watching : (g.holding i).watching = false
  gone : (g.holding i).spared = false → ∀ key, g.pods key ≠ some i

theorem Has.mono {own own' : PodKey → Prop} (has : g.Has i h own)
    (mono : ∀ key, own key → own' key) : g.Has i h own' :=
  ⟨has.1, fun key there => mono key (has.2 key there)⟩

theorem Has.undone (has : g.Has i h fun _ => h.spared = true) (offered : h.offered = h.taken)
    (accepting : h.accepting = false) (watching : h.watching = false) : g.Undone i := by
  obtain ⟨rfl, pods⟩ := has
  refine ⟨offered, accepting, watching, fun honoured key there => ?_⟩
  rw [pods key there] at honoured
  cases honoured

theorem Has.starts {relayed : Bool} (has : g.Has i h fun _ => False) (offered : h.offered = [])
    (released : h.released = false) (spared : h.spared = false)
    (quiet : relayed = false → h.accepting = false ∧ h.watching = false) :
    g.Starts i relayed key h.taken := by
  obtain ⟨rfl, pods⟩ := has
  exact ⟨fun k there => (pods k there).elim, rfl, offered, released, spared, quiet⟩

theorem Starts.has {relayed : Bool} {leased : List Port} (h : g.Starts i relayed key leased) :
    g.Has i (g.holding i) (· = key) := ⟨rfl, h.own⟩

end Ground

variable [DecidableEq ι]

/-- What surrounds a handle. Others neither change what it has nor create pods in its name. -/
def around (i : ι) : Surroundings Request Request.Answer (Ground ι) where
  Happens g g' := g'.holding i = g.holding i ∧ ∀ key, g'.pods key = some i → g.pods key = some i
  Answers g r a g' := g.Answers i r a g'

namespace Ground

variable {g g' : Ground ι} {i j : ι} {key : PodKey} {r : Request} {a : r.Answer} {h : Holding}
  {own : PodKey → Prop}

/-! ### What others do -/

theorem happens_vanish (key : PodKey) : (around i).Happens g (g.vanish key) :=
  ⟨rfl, fun _ there => (of_pods_vanish there).2⟩

theorem happens_of_other (h : g.Answers j r a g') (other : i ≠ j) : (around i).Happens g g' := by
  cases h with
  | created ns manifest key answer named free =>
    refine ⟨rfl, fun k there => ?_⟩
    rcases of_pods_place there with ⟨-, same⟩ | before
    · exact absurd same other
    · exact before
  | refused => exact ⟨rfl, fun _ there => there⟩
  | deleted key answer => exact happens_vanish (g := g) key
  | spared | took | offered | released | plain =>
    exact ⟨Function.update_of_ne other .., fun _ there => there⟩

theorem lasts_has : (around i).Lasts (Has i h own) :=
  fun _ _ has happens => ⟨happens.1.trans has.1, fun key there => has.2 key (happens.2 key there)⟩

theorem lasts_starts {relayed : Bool} {leased : List Port} :
    (around i).Lasts (Starts i relayed key leased) := by
  rintro g g' starts ⟨same, fewer⟩
  refine ⟨fun k there => starts.own k (fewer k there), ?_, ?_, ?_, ?_, ?_⟩ <;> rw [same]
  · exact starts.taken
  · exact starts.offered
  · exact starts.released
  · exact starts.spared
  · exact starts.quiet

theorem lasts_undone : (around i).Lasts (Undone i) := by
  rintro g g' undone ⟨same, fewer⟩
  refine ⟨?_, ?_, ?_, ?_⟩ <;> rw [same]
  · exact undone.offered
  · exact undone.accepting
  · exact undone.watching
  · exact fun honoured key there => undone.gone honoured key (fewer key there)

/-! ### What a handle is answered -/

def leavesPods : Request → Bool
  | .cluster (.create ..) | .cluster (.delete _) => false
  | _ => true

theorem Has.answered (has : g.Has i h own) (answers : g.Answers i r a g') (apart : leavesPods r) :
    g'.Has i (h.after r a) own := by
  obtain ⟨rfl, pods⟩ := has
  cases answers with
  | created | refused | deleted | spared => cases apart
  | took | offered | released | plain => exact ⟨Function.update_self .., pods⟩

theorem answer_release {a : Bool} (has : g.Has i h own) (answers : g.Answers i .release a g') :
    a = !h.released := by
  cases answers with
  | released => rw [has.1]
  | plain _ _ isPlain => cases isPlain

theorem Has.deleted {a : Except Cluster.Error Bool} (has : g.Has i h (· = key))
    (answers : g.Answers i (.cluster (.delete key)) a g') (honoured : h.spared = false) :
    ∃ spared, g'.Has i { h with spared } fun _ => spared = true := by
  obtain ⟨rfl, pods⟩ := has
  cases answers with
  | deleted =>
    refine ⟨false, ?_, fun k there => ?_⟩
    · show g.holding i = _
      rw [← honoured]
    · obtain ⟨other, before⟩ := of_pods_vanish (g := g) there
      exact absurd (pods k before) other
  | spared => exact ⟨true, Function.update_self .., fun _ _ => rfl⟩
  | plain _ _ isPlain => cases isPlain

/-- What a launch may ask once it goes for its pod changes nothing else. -/
theorem Starts.answered {relayed : Bool} {leased : List Port}
    (starts : g.Starts i relayed key leased) (answers : g.Answers i r a g')
    (allowed : Startup relayed key r) : g'.Starts i relayed key leased := by
  cases answers with
  | created ns manifest k answer named free =>
    have same : k = key := Option.some.inj (named.symm.trans allowed)
    refine ⟨fun k' there => ?_, starts.taken, starts.offered, starts.released, starts.spared,
      starts.quiet⟩
    rcases of_pods_place there with ⟨here, -⟩ | before
    · exact here.trans same
    · exact starts.own k' before
  | refused => exact starts
  | deleted | spared | took | offered | released => exact allowed.elim
  | plain _ _ isPlain =>
    have holding : (g.record i r a).holding i = (g.holding i).after r a := Function.update_self ..
    have after : (g.holding i).after r a = g.holding i ∨
        relayed = true ∧ (g.holding i).after r a = { g.holding i with watching := true } := by
      cases r with
      | setWatch => exact .inr ⟨allowed, rfl⟩
      | cluster | time | breakDown | pause | exitCode | connect => exact .inl rfl
      | _ => exact allowed.elim
    -- only a watch changes what the handle has, and only a launch with relays sets one
    rcases after with same | ⟨isRelayed, same⟩
    · exact lasts_starts starts ⟨holding.trans same, fun _ there => there⟩
    · rw [same] at holding
      refine ⟨starts.own, ?_, ?_, ?_, ?_, ?_⟩ <;> rw [holding]
      · exact starts.taken
      · exact starts.offered
      · exact starts.released
      · exact starts.spared
      · intro unrelayed
        cases unrelayed.symm.trans isRelayed

end Ground

/-! ### Parts of a launch -/

section Parts

open Ground

variable {g : Ground ι} {i : ι} {h : Holding} {own : PodKey → Prop} {key : PodKey}

theorem leads_offerAll (ports : List Port) (has : g.Has i h own) :
    (around i).Leads (fun _ g => g.Has i { h with offered := h.offered ++ ports } own)
      (Attached.offerAll ports) g := by
  induction ports generalizing g h with
  | nil =>
    show g.Has i { h with offered := h.offered ++ [] } own
    rw [List.append_nil]
    exact has
  | cons port ports ih =>
    refine .request lasts_has has fun t a u has answers => ?_
    have given : u.Has i { h with offered := h.offered ++ [port] } own := has.answered answers rfl
    have rest := ih given
    simpa only [List.append_assoc, List.singleton_append] using rest

theorem leads_close (p : Attached) (has : g.Has i h own) (fresh : h.released = false) :
    (around i).Leads (fun _ g => g.Has i { h with
        offered := h.offered ++ p.leased
        accepting := false
        watching := false
        released := true } own) p.close g := by
  refine .request lasts_has has fun t a u has answers => ?_
  have first : a = true := by
    rw [answer_release has answers, fresh]
    rfl
  subst first
  exact (leads_offerAll p.leased (has.answered answers rfl)).bind fun _ _ has => has

/-- Two ports are held and listened on, or none. -/
theorem leads_lease (config : Config) (d : Descriptor) (name : String)
    (bare : g.Has i {} fun _ => False) :
    (around i).Leads (fun result g => match result with
      | .error _ => g.Undone i
      | .ok p => p.key = ⟨config.ns, name⟩ ∧ g.Starts i true p.key p.leased)
      (Attached.lease config d name) g := by
  have failed {ports : List Port} {g : Ground ι}
      (has : g.Has i { taken := ports } fun _ => False) :
      (around i).Leads (fun _ g => g.Undone i) (Attached.offerAll ports) g := by
    refine (leads_offerAll ports has).mono fun _ t has => ?_
    exact (has.mono nofun).undone rfl rfl rfl
  refine .request lasts_has bare fun t a u has answers => ?_
  have has := has.answered answers rfl
  cases a with
  | none => exact (has.mono nofun).undone rfl rfl rfl
  | some stdout =>
    refine .request lasts_has has fun t a u has answers => ?_
    have has := has.answered answers rfl
    cases a with
    | none => exact (failed has).bind fun _ _ undone => undone
    | some stderr =>
      refine .request lasts_has has fun t a u has answers => ?_
      have has := has.answered answers rfl
      cases a with
      | error fault => exact (failed has).bind fun _ _ undone => undone
      | ok relay => exact ⟨rfl, has.starts rfl rfl rfl nofun⟩

/-- What a launch asks once it goes for its pod leaves it with what it has. -/
theorem leads_startup {α : Type} {relayed : Bool} {leased : List Port} {t : Talk α}
    (within : t.Within (Startup relayed key) fun _ => True)
    (starts : g.Starts i relayed key leased) :
    (around i).Leads (fun _ g => g.Starts i relayed key leased) t g :=
  (Surroundings.Leads.of_within within lasts_starts
    (fun allowed starts answers => starts.answered answers allowed) starts).mono fun _ _ h => h.2

/-- A pod whose launch fails is deleted. -/
theorem leads_delete {relayed : Bool} {leased : List Port}
    (starts : g.Starts i relayed key leased) :
    (around i).Leads (fun _ g => ∃ h : Holding, g.Has i h (fun _ => h.spared = true) ∧
        h.taken = leased ∧ h.offered = [] ∧ h.released = false ∧
        (relayed = false → h.accepting = false ∧ h.watching = false))
      (askCluster (.delete key)) g := by
  refine .ask lasts_starts starts fun t a u starts answers => ?_
  obtain ⟨spared, has⟩ := starts.has.deleted answers starts.spared
  exact ⟨_, has, starts.taken, starts.offered, starts.released, starts.quiet⟩

end Parts

/-! ### Launches -/

def Handle.Launched (h : Handle) (i : ι) : Stage ⊕ Except Launch.Error Keeper → Ground ι → Prop
  | .inl (.attached .asked), g => g.Has i {} fun _ => False
  | .inl (.attached (.starting p _)), g | .inr (.ok (.attached p)), g =>
    p.key = h.key ∧ g.Starts i true p.key p.leased
  | .inl (.detached _), g => g.Starts i false h.key []
  | .inr (.ok (.detached p)), g => p.key = h.key ∧ g.Starts i false p.key []
  | .inr (.error _), g => g.Undone i

section Launches

open Ground

variable {g : Ground ι} {i : ι} {h : Handle}

theorem lasts_launched (result : Stage ⊕ Except Launch.Error Keeper) :
    (around i).Lasts (h.Launched i result) := by
  rcases result with (stage | _) | (_ | (p | p))
  · cases stage with
    | asked => exact lasts_has
    | starting p stage => exact (Surroundings.lasts_const _).and lasts_starts
  · exact lasts_starts
  · exact lasts_undone
  · exact (Surroundings.lasts_const _).and lasts_starts
  · exact (Surroundings.lasts_const _).and lasts_starts

theorem leads_attached (stage : Attached.Launching)
    (begun : h.Launched i (.inl (.attached stage)) g) :
    (around i).Leads (fun result g => match result with
      | .inl stage => h.Launched i (.inl (.attached stage)) g
      | .inr result => h.Launched i (.inr (result.map .attached)) g)
      (Attached.create h.config h.descriptor h.name stage) g := by
  cases stage with
  | asked =>
    refine (leads_lease h.config h.descriptor h.name begun).bind fun result t leased => ?_
    cases result with
    | error e => exact leased
    | ok p => exact leased
  | starting p stage =>
    obtain ⟨own, starts⟩ := begun
    have within := p.within_start h.config h.descriptor stage
    refine (leads_startup within starts).bind fun result t starts => ?_
    rcases result with stage | (e | done)
    · exact ⟨own, starts⟩
    · refine (leads_delete starts).bind fun _ t left => ?_
      obtain ⟨held, has, taken, offered, released, -⟩ := left
      refine (leads_close p has released).bind fun _ t has => ?_
      exact Has.undone has (by simp [taken, offered]) rfl rfl
    · exact ⟨own, starts⟩

theorem leads_detached (stage : Detached.Launching)
    (begun : h.Launched i (.inl (.detached stage)) g) :
    (around i).Leads (fun result g => match result with
      | .inl stage => h.Launched i (.inl (.detached stage)) g
      | .inr result => h.Launched i (.inr (result.map .detached)) g)
      (Detached.create h.config h.descriptor h.name stage) g := by
  have within := (Detached.attach h.config h.name h.descriptor.image
    h.descriptor.workloadId).within_launch h.config h.descriptor stage
  refine (leads_startup within begun).bind fun result t starts => ?_
  rcases result with stage | (e | done)
  · exact starts
  · refine (leads_delete starts).bind fun _ t left => ?_
    obtain ⟨held, has, taken, offered, -, quiet⟩ := left
    obtain ⟨accepting, watching⟩ := quiet rfl
    exact Has.undone has (by rw [offered, taken]) accepting watching
  · exact ⟨rfl, starts⟩

theorem leads_launch (stage : Stage) (begun : h.Launched i (.inl stage) g) :
    (around i).Leads (h.Launched i) (h.launch stage) g := by
  cases stage with
  | attached stage =>
    refine (leads_attached stage begun).bind fun result t launched => ?_
    cases result with
    | inl stage => exact launched
    | inr result => exact launched
  | detached stage =>
    refine (leads_detached stage begun).bind fun result t launched => ?_
    cases result with
    | inl stage => exact launched
    | inr result => exact launched

end Launches

/-! ### Runs -/

def Standing.Stands (h : Handle) (i : ι) (g : Ground ι) : Standing → Prop
  | launching rest => (around i).Leads (h.Launched i) rest g
  | failed _ => g.Undone i
  | kept .. => True

section Runs

variable {handles : ι → Handle} {y y' : Yard ι} {i : ι}

theorem Standing.Stands.happens {h : Handle} {g g' : Ground ι} {s : Standing}
    (stands : s.Stands h i g) (happens : (around i).Happens g g') : s.Stands h i g' := by
  cases s with
  | launching rest => exact Surroundings.Leads.happens lasts_launched stands happens
  | failed e => exact Ground.lasts_undone stands happens
  | kept k talks => exact trivial

/-- A step of one handle is something that happens to the others. -/
theorem Yard.stands_stand {ground : Ground ι} {j : ι} (s : Standing)
    (stands : ∀ k, (y.standing k).Stands (handles k) k y.ground)
    (own : s.Stands (handles j) j ground)
    (others : ∀ k, k ≠ j → (around k).Happens y.ground ground) (k : ι) :
    ((y.stand j s ground).standing k).Stands (handles k) k ground := by
  by_cases same : k = j
  · subst same
    rw [standing_stand_self]
    exact own
  · rw [standing_stand_of_ne y s ground same]
    exact (stands k).happens (others k same)

theorem Yard.stands_step (stands : ∀ k, (y.standing k).Stands (handles k) k y.ground)
    (step : Step handles y y') (k : ι) : (y'.standing k).Stands (handles k) k y'.ground := by
  have still (j k : ι) (_ : k ≠ j) : (around k).Happens y.ground y.ground :=
    ⟨rfl, fun _ there => there⟩
  have own {i : ι} {s : Standing} (there : y.standing i = s) : s.Stands (handles i) i y.ground :=
    there ▸ stands i
  cases step with
  | vanish key => exact (stands k).happens (Ground.happens_vanish key)
  | answer there answers =>
    exact stands_stand (.launching _) stands (Surroundings.Leads.answered (own there) answers)
      (fun k other => Ground.happens_of_other answers other) k
  | turn there => exact stands_stand (.launching _) stands (leads_launch _ (own there)) (still _) k
  | fail there =>
    have undone := own there
    exact stands_stand (.failed _) stands undone (still _) k
  | keep there => exact stands_stand (.kept _ _) stands trivial (still _) k
  | serve there serves => exact stands_stand (.kept _ _) stands trivial (still _) k
  | talk there answers =>
    exact stands_stand (.kept _ _) stands trivial
      (fun k other => Ground.happens_of_other answers other) k

theorem Yard.stands_reachable (h : y.Reachable handles) (k : ι) :
    (y.standing k).Stands (handles k) k y.ground := by
  obtain ⟨pool, steps⟩ := h
  induction steps generalizing k with
  | refl =>
    refine leads_launch _ ?_
    unfold Handle.first
    split
    · exact ⟨rfl, nofun⟩
    · exact ⟨nofun, rfl, rfl, rfl, rfl, fun _ => ⟨rfl, rfl⟩⟩
  | tail _ step ih => exact stands_step ih step k

/-- A launch that has failed leaves nothing behind, wherever it failed: no pod of it is there unless
one was not deleted when that was asked, the ports that it took are given back, each once, and
nothing of it listens or watches any more. -/
theorem failed_leaves_nothing {e : Launch.Error} (h : y.Reachable handles)
    (failed : y.standing i = .failed e) (honoured : (y.ground.holding i).spared = false) :
    (∀ key, y.ground.pods key ≠ some i) ∧
      (y.ground.holding i).offered = (y.ground.holding i).taken ∧
      (y.ground.holding i).accepting = false ∧ (y.ground.holding i).watching = false := by
  have undone : y.ground.Undone i := by
    have stands := Yard.stands_reachable h i
    rw [failed] at stands
    exact stands
  exact ⟨undone.gone honoured, undone.offered, undone.accepting, undone.watching⟩

end Runs

/-- The launch of a pod that is gone when it is looked at. -/
def Yard.vanished : Yard Unit :=
  .drive (fun _ => .sample) none () 20 (.first (fun _ => .sample) (.bounded [9877, 9878]))

theorem reachable_vanished : Yard.vanished.Reachable fun _ => .sample :=
  ⟨_, Yard.steps_drive (fun _ => .sample) none () 20 _⟩

theorem failed_leaves_nothing_vanished :
    Yard.vanished.standing () = .failed (.terminatedDuringStartup "source-check-1-0") ∧
      (Yard.vanished.ground.holding ()).taken = [9877, 9878] ∧
      (∀ key, Yard.vanished.ground.pods key ≠ some ()) ∧
      (Yard.vanished.ground.holding ()).offered = [9877, 9878] ∧
      (Yard.vanished.ground.holding ()).accepting = false ∧
      (Yard.vanished.ground.holding ()).watching = false := by
  have failed := Yard.standing_of_failure? (y := Yard.vanished) (i := ())
    (e := .terminatedDuringStartup "source-check-1-0") (by decide +kernel)
  have taken : (Yard.vanished.ground.holding ()).taken = [9877, 9878] := by decide +kernel
  obtain ⟨gone, offered, quiet⟩ :=
    failed_leaves_nothing reachable_vanished failed (by decide +kernel)
  exact ⟨failed, taken, gone, offered.trans taken, quiet⟩

end ConnectorSync.Workload.Pod
