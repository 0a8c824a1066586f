import Mathlib.Logic.Function.Basic
import ConnectorSync.Cluster.Simulated
import ConnectorSync.Proofs.Surroundings
import ConnectorSync.Workload.Pod.Attached
import ConnectorSync.Workload.Pod.Detached

/-!
# Handles over one cluster

Any number of handles launch pods in one cluster, lease ports from one pool, and are then asked
about what they keep, all at once. Two of them may launch pods of the same name. The cluster answers
as it likes, but it creates no pod of a name that is there and grants no deletion without effect.
-/

namespace ConnectorSync.Workload.Pod

open Launch Cluster

/-! ### Handles -/

structure Handle where
  mode : KubeMode
  config : Config
  descriptor : Descriptor
  name : String

inductive Keeper
  | attached (p : Attached)
  | detached (p : Detached)

def Keeper.key : Keeper → PodKey
  | attached p => p.key
  | detached p => p.key

inductive Stage
  | attached (stage : Attached.Launching)
  | detached (stage : Detached.Launching)

namespace Handle

def key (h : Handle) : PodKey := ⟨h.config.ns, h.name⟩

def first (h : Handle) : Stage :=
  match h.mode with
  | .attached => .attached .asked
  | .detached => .detached .asked

def launch (h : Handle) : Turns Stage (Except Launch.Error Keeper)
  | .attached stage => do
    match ← Attached.create h.config h.descriptor h.name stage with
    | .inl stage => return .inl (.attached stage)
    | .inr result => return .inr (result.map .attached)
  | .detached stage => do
    match ← Detached.create h.config h.descriptor h.name stage with
    | .inl stage => return .inl (.detached stage)
    | .inr result => return .inr (result.map .detached)

end Handle

/-- What can be asked of a keeper, but for the answer. A wait for a detached pod is asked turn by
turn. -/
inductive Keeper.Serves : Keeper → Talk Unit → Prop
  | exitValue (p : Attached) : Serves (.attached p) (do let _ ← p.exitValue)
  | waitFor (p : Attached) (limit : Option Duration) :
    Serves (.attached p) (do let _ ← p.waitFor limit)
  | destroy (p : Attached) : Serves (.attached p) p.destroy
  | close (p : Attached) : Serves (.attached p) (do let _ ← p.close)
  | detachedExitValue (p : Detached) : Serves (.detached p) (do let _ ← p.exitValue)
  | detachedWaitFor (p : Detached) (wait : Wait) : Serves (.detached p) (do let _ ← p.waitFor wait)
  | detachedDestroy (p : Detached) : Serves (.detached p) p.destroy

/-- Where a handle stands: what is left of its launch, or of what it is asked. -/
inductive Standing
  | launching (rest : Talk (Stage ⊕ Except Launch.Error Keeper))
  | failed (e : Launch.Error)
  | kept (k : Keeper) (talks : List (Talk Unit))

/-! ### What handles share -/

structure Holding where
  taken : List Port := []
  offered : List Port := []
  accepting : Bool := false
  watching : Bool := false
  released : Bool := false
  /-- Whether a pod that the handle wanted deleted was left there. -/
  spared : Bool := false
  deriving DecidableEq

def Holding.after (h : Holding) : (r : Request) → r.Answer → Holding
  | .takePort, some port => { h with taken := h.taken ++ [port] }
  | .offerPort port, _ => { h with offered := h.offered ++ [port] }
  | .listen _, .ok _ => { h with accepting := true }
  | .setWatch, _ => { h with watching := true }
  | .release, _ => { h with accepting := false, watching := false, released := true }
  | _, _ => h

/-- The pod that is created from a manifest. -/
def podKey? (ns : String) (manifest : Json.Value) : Option PodKey :=
  (Simulated.nameOf? manifest).map fun name => ⟨ns, name⟩

/-- Whether a request has nothing to do with the pods, the ports or the release of its handle. -/
def Request.isPlain : Request → Bool
  | .cluster (.create ..) | .cluster (.delete _) | .takePort | .offerPort _ | .release => false
  | _ => true

structure Ground (ι : Type) where
  pods : PodKey → Option ι := fun _ => none
  pool : PortPool
  holding : ι → Holding := fun _ => {}
  /-- By whom a pod was removed and who had created it, latest first. -/
  removals : List (ι × ι) := []

namespace Ground

variable {ι : Type}

def place (g : Ground ι) (i : ι) (key : PodKey) : Ground ι :=
  { g with pods := Function.update g.pods key (some i) }

def vanish (g : Ground ι) (key : PodKey) : Ground ι :=
  { g with pods := Function.update g.pods key none }

theorem of_pods_place {g : Ground ι} {i j : ι} {key k : PodKey}
    (there : (g.place i key).pods k = some j) : k = key ∧ j = i ∨ g.pods k = some j := by
  have there : Function.update g.pods key (some i) k = some j := there
  by_cases same : k = key
  · subst same
    rw [Function.update_self] at there
    exact .inl ⟨rfl, (Option.some.inj there).symm⟩
  · rw [Function.update_of_ne same] at there
    exact .inr there

theorem of_pods_vanish {g : Ground ι} {j : ι} {key k : PodKey}
    (there : (g.vanish key).pods k = some j) : k ≠ key ∧ g.pods k = some j := by
  have there : Function.update g.pods key none k = some j := there
  by_cases same : k = key
  · subst same
    rw [Function.update_self] at there
    cases there
  · rw [Function.update_of_ne same] at there
    exact ⟨same, there⟩

variable [DecidableEq ι]

def record (g : Ground ι) (i : ι) (r : Request) (a : r.Answer) : Ground ι :=
  { g with holding := Function.update g.holding i ((g.holding i).after r a) }

def remove (g : Ground ι) (i : ι) (key : PodKey) : Ground ι :=
  { g.vanish key with removals := (g.pods key).toList.map (i, ·) ++ g.removals }

def spare (g : Ground ι) (i : ι) : Ground ι :=
  { g with holding := Function.update g.holding i { g.holding i with spared := true } }

/-- How a handle's request can be answered. A creation or deletion may have its effect although the
answer is an error. -/
inductive Answers (g : Ground ι) (i : ι) : (r : Request) → r.Answer → Ground ι → Prop
  | created (ns : String) (manifest : Json.Value) (key : PodKey)
    (answer : Except Cluster.Error Unit) (named : podKey? ns manifest = some key)
    (free : g.pods key = none) :
    Answers g i (.cluster (.create ns manifest)) answer (g.place i key)
  | refused (ns : String) (manifest : Json.Value) (e : Cluster.Error) :
    Answers g i (.cluster (.create ns manifest)) (.error e) g
  | deleted (key : PodKey) (answer : Except Cluster.Error Bool) :
    Answers g i (.cluster (.delete key)) answer (g.remove i key)
  | spared (key : PodKey) (e : Cluster.Error) :
    Answers g i (.cluster (.delete key)) (.error e) (g.spare i)
  | took : Answers g i .takePort g.pool.take.1
    ({ g with pool := g.pool.take.2 }.record i .takePort g.pool.take.1)
  | offered (port : Port) : Answers g i (.offerPort port) ()
    ({ g with pool := g.pool.offer port }.record i (.offerPort port) ())
  | released : Answers g i .release (!(g.holding i).released)
    (g.record i .release (!(g.holding i).released))
  | plain (r : Request) (answer : r.Answer) (isPlain : r.isPlain) :
    Answers g i r answer (g.record i r answer)

end Ground

/-! ### Runs -/

structure Yard (ι : Type) where
  standing : ι → Standing
  ground : Ground ι

namespace Yard

variable {ι : Type}

def failure? (y : Yard ι) (i : ι) : Option Launch.Error :=
  match y.standing i with
  | .failed e => some e
  | _ => none

theorem standing_of_failure? {y : Yard ι} {i : ι} {e : Launch.Error} (h : y.failure? i = some e) :
    y.standing i = .failed e := by
  unfold failure? at h
  split at h
  · next there =>
    cases h
    exact there
  · cases h

variable [DecidableEq ι]

def stand (y : Yard ι) (i : ι) (s : Standing) (ground : Ground ι) : Yard ι :=
  ⟨Function.update y.standing i s, ground⟩

@[simp] theorem stand_stand (y : Yard ι) (i : ι) (s s' : Standing) (ground ground' : Ground ι) :
    (y.stand i s ground).stand i s' ground' = y.stand i s' ground' := by
  simp [stand]

@[simp] theorem standing_stand_self (y : Yard ι) (i : ι) (s : Standing) (ground : Ground ι) :
    (y.stand i s ground).standing i = s := Function.update_self ..

theorem standing_stand_of_ne {i k : ι} (y : Yard ι) (s : Standing) (ground : Ground ι)
    (other : k ≠ i) : (y.stand i s ground).standing k = y.standing k :=
  Function.update_of_ne other ..

theorem stand_self {y : Yard ι} {i : ι} {s : Standing} (there : y.standing i = s) :
    y.stand i s y.ground = y := by
  simp [stand, ← there]

/-- Every launch has begun, and there is no pod yet. -/
def first (handles : ι → Handle) (pool : PortPool) : Yard ι where
  standing i := .launching ((handles i).launch (handles i).first)
  ground := { pool }

inductive Step (handles : ι → Handle) : Yard ι → Yard ι → Prop
  | vanish (y : Yard ι) (key : PodKey) : Step handles y { y with ground := y.ground.vanish key }
  | answer {y : Yard ι} {i : ι} {r : Request} {a : r.Answer} {ground : Ground ι}
    {next : r.Answer → Talk (Stage ⊕ Except Launch.Error Keeper)}
    (there : y.standing i = .launching (.ask r next)) (h : y.ground.Answers i r a ground) :
    Step handles y (y.stand i (.launching (next a)) ground)
  | turn {y : Yard ι} {i : ι} {stage : Stage}
    (there : y.standing i = .launching (.done (.inl stage))) :
    Step handles y (y.stand i (.launching ((handles i).launch stage)) y.ground)
  | fail {y : Yard ι} {i : ι} {e : Launch.Error}
    (there : y.standing i = .launching (.done (.inr (.error e)))) :
    Step handles y (y.stand i (.failed e) y.ground)
  | keep {y : Yard ι} {i : ι} {k : Keeper}
    (there : y.standing i = .launching (.done (.inr (.ok k)))) :
    Step handles y (y.stand i (.kept k []) y.ground)
  | serve {y : Yard ι} {i : ι} {k : Keeper} {talks : List (Talk Unit)} {t : Talk Unit}
    (there : y.standing i = .kept k talks) (serves : k.Serves t) :
    Step handles y (y.stand i (.kept k (t :: talks)) y.ground)
  | talk {y : Yard ι} {i : ι} {k : Keeper} {before later : List (Talk Unit)} {r : Request}
    {next : r.Answer → Talk Unit} {a : r.Answer} {ground : Ground ι}
    (there : y.standing i = .kept k (before ++ .ask r next :: later))
    (h : y.ground.Answers i r a ground) :
    Step handles y (y.stand i (.kept k (before ++ next a :: later)) ground)

abbrev Steps (handles : ι → Handle) : Yard ι → Yard ι → Prop :=
  Relation.ReflTransGen (Step handles)

def Reachable (handles : ι → Handle) (y : Yard ι) : Prop :=
  ∃ pool, Steps handles (first handles pool) y

section Launching

variable {handles : ι → Handle} {y : Yard ι} {i : ι} {g : Ground ι}

variable (handles) in
theorem Steps.begun {s : Standing} (there : y.standing i = s) :
    Steps handles y (y.stand i s y.ground) := by
  rw [stand_self there]

theorem Steps.answer {r : Request} {next : r.Answer → Talk (Stage ⊕ Except Launch.Error Keeper)}
    {a : r.Answer} {g' : Ground ι}
    (steps : Steps handles y (y.stand i (.launching (.ask r next)) g))
    (answers : g.Answers i r a g') : Steps handles y (y.stand i (.launching (next a)) g') := by
  have step : Step handles _ ((y.stand i (.launching (.ask r next)) g).stand i _ g') :=
    .answer (standing_stand_self ..) answers
  rw [stand_stand] at step
  exact steps.tail step

theorem Steps.turn {stage : Stage}
    (steps : Steps handles y (y.stand i (.launching (.done (.inl stage))) g)) :
    Steps handles y (y.stand i (.launching ((handles i).launch stage)) g) := by
  have step : Step handles _ ((y.stand i (.launching (.done (.inl stage))) g).stand i _ g) :=
    .turn (standing_stand_self ..)
  rw [stand_stand] at step
  exact steps.tail step

end Launching

end Yard

/-! ### Runs that can be computed -/

section Computed

variable {ι : Type} [DecidableEq ι]

namespace Ground

/-- What is answered where no request fails but the creation of a pod that is there, and a look at a
pod tells what is given. -/
def reply (look : Option PodStatus) (g : Ground ι) (i : ι) :
    (r : Request) → Option (r.Answer × Ground ι)
  | .cluster (.create ns manifest) => (podKey? ns manifest).map fun key =>
    if g.pods key = none then (.ok (), g.place i key)
    else (.error (.rejected "the pod already exists"), g)
  | .cluster (.delete key) => some (.ok (g.pods key).isSome, g.remove i key)
  | .cluster (.read key) => recorded (.cluster (.read key)) (.ok look)
  | .cluster (.copy key file) => recorded (.cluster (.copy key file)) (.ok ())
  | .takePort => some (g.pool.take.1,
    { g with pool := g.pool.take.2 }.record i .takePort g.pool.take.1)
  | .offerPort port => some ((), { g with pool := g.pool.offer port }.record i (.offerPort port) ())
  | .release => some (!(g.holding i).released, g.record i .release (!(g.holding i).released))
  | .listen ports => recorded (.listen ports) (.ok ports)
  | .setWatch => recorded .setWatch ()
  | .pause span => recorded (.pause span) ()
  | .time => recorded .time .zero
  | .exitCode => recorded .exitCode none
  | _ => none
where
  recorded (r : Request) (a : r.Answer) : Option (r.Answer × Ground ι) := some (a, g.record i r a)

theorem answers_reply {look : Option PodStatus} {g g' : Ground ι} {i : ι} {r : Request}
    {a : r.Answer} (h : g.reply look i r = some (a, g')) : g.Answers i r a g' := by
  cases r with
  | cluster r =>
    cases r with
    | create ns manifest =>
      obtain ⟨key, named, h⟩ := Option.map_eq_some_iff.1 h
      split at h
      · next free =>
        cases h
        exact .created ns manifest key (.ok ()) named free
      · cases h
        exact .refused ns manifest _
    | delete key =>
      cases h
      exact .deleted key _
    | read | copy =>
      cases h
      exact .plain _ _ rfl
    | tail => cases h
  | takePort =>
    cases h
    exact .took
  | offerPort port =>
    cases h
    exact .offered port
  | release =>
    cases h
    exact .released
  | listen | setWatch | pause | time | exitCode =>
    cases h
    exact .plain _ _ rfl
  | _ => cases h

end Ground

namespace Yard

def drive (handles : ι → Handle) (look : Option PodStatus) (i : ι) : Nat → Yard ι → Yard ι
  | 0, y => y
  | n + 1, y =>
    match y.standing i with
    | .launching (.ask r next) =>
      match y.ground.reply look i r with
      | some (a, ground) => drive handles look i n (y.stand i (.launching (next a)) ground)
      | none => y
    | .launching (.done (.inl stage)) =>
      drive handles look i n (y.stand i (.launching ((handles i).launch stage)) y.ground)
    | .launching (.done (.inr (.error e))) =>
      drive handles look i n (y.stand i (.failed e) y.ground)
    | .launching (.done (.inr (.ok k))) => drive handles look i n (y.stand i (.kept k []) y.ground)
    | .failed _ | .kept .. => y

theorem steps_drive (handles : ι → Handle) (look : Option PodStatus) (i : ι) (n : Nat)
    (y : Yard ι) : Steps handles y (y.drive handles look i n) := by
  induction n generalizing y with
  | zero => exact .refl
  | succ n ih =>
    unfold drive
    split
    · next r next there =>
      split
      · next a ground replied => exact .head (.answer there (Ground.answers_reply replied)) (ih _)
      · exact .refl
    · next stage there => exact .head (.turn there) (ih _)
    · next e there => exact .head (.fail there) (ih _)
    · next k there => exact .head (.keep there) (ih _)
    · exact .refl
    · exact .refl

end Yard

end Computed

def Handle.sample : Handle where
  mode := .attached
  config := {}
  descriptor := { jobId := "1", attempt := 0, image := "source", step := .check }
  name := "source-check-1-0"

/-! ### Requests of a launch -/

open Json in
theorem podKey?_encode (ns : String) (m : Manifest) :
    podKey? ns m.encode = some ⟨ns, m.name⟩ := by
  have name : Simulated.nameOf? m.encode = some m.name := by
    have metadata : m.encode.member? "metadata" =
        some (.present [("annotations", m.annotations.map (.ofMap .string)),
          ("labels", some (.ofMap .string m.labels)), ("name", some (.string m.name)),
          ("namespace", some (.string m.ns))]) := by
      show (StringMap.ofList _).find? "metadata" = _
      simp [StringMap.ofList, StringMap.find?_insert]
    unfold Simulated.nameOf?
    rw [metadata]
    cases m.annotations <;> simp [Value.present, Value.member?]
  simp [podKey?, name]

/-- What a launch may ask once it goes for its pod, with relays or without. -/
def Startup (relayed : Bool) (key : PodKey) : Request → Prop
  | .cluster (.create ns manifest) => podKey? ns manifest = some key
  | .cluster (.read _) | .cluster (.copy ..) | .time | .breakDown | .pause _ => True
  | .setWatch | .exitCode | .connect .. => relayed = true
  | _ => False

def Owns (key : PodKey) : Request → Prop
  | .cluster (.create ns manifest) => podKey? ns manifest = some key
  | .cluster (.delete other) => other = key
  | _ => True

theorem Startup.owns {relayed : Bool} {key : PodKey} {r : Request} (h : Startup relayed key r) :
    Owns key r := by
  cases r with
  | cluster r =>
    cases r with
    | create => exact h
    | delete => exact h.elim
    | _ => exact trivial
  | _ => exact trivial

section Parts

variable {relayed : Bool} {key : PodKey}

theorem within_createPod {allowed : Request → Prop} {manifest : Manifest}
    (create : allowed (.cluster (.create key.ns manifest.encode))) :
    (createPod key manifest).Within allowed fun _ => True :=
  ⟨create, fun _ => trivial⟩

theorem Startup.create {manifest : Manifest} (named : manifest.name = key.name) :
    Startup relayed key (.cluster (.create key.ns manifest.encode)) := by
  show podKey? key.ns manifest.encode = some key
  rw [podKey?_encode, named]

theorem within_deadlineAfter {allowed : Request → Prop} (time : allowed .time)
    (broken : allowed .breakDown) (span : Duration) :
    (deadlineAfter (ask .time) (ask .breakDown) span).Within allowed fun _ => True := by
  refine .request time fun now => ?_
  cases momentAfter now span with
  | some moment => exact trivial
  | none => exact ⟨broken, nofun⟩

theorem within_upload (files : List CopiedFile) :
    (upload key files).Within (Startup relayed key) fun _ => True := by
  induction files with
  | nil => exact trivial
  | cons file files ih =>
    refine .request trivial fun answer => ?_
    cases answer with
    | error e => exact trivial
    | ok done => exact ih

theorem within_awaitStatus {allowed : Request → Prop} (read : allowed (.cluster (.read key)))
    (time : allowed .time) (pause : allowed (.pause startupPause)) (ready : PodStatus → Bool)
    (patience deadline : Duration) :
    (awaitStatus key ready patience deadline).Within allowed fun _ => True := by
  refine .request read fun answer => ?_
  rcases answer with e | (_ | status)
  · exact trivial
  · exact trivial
  · dsimp only
    split
    · exact trivial
    split
    · exact trivial
    · refine .request time fun now => ?_
      split
      · exact trivial
      · exact ⟨pause, fun _ => trivial⟩

theorem Attached.within_connect {allowed : Request → Prop}
    (connect : ∀ address port, allowed (.connect address port))
    (pause : allowed (.pause startupPause)) (address : String) (port : Port)
    (last : Option Files.Fault) (tries : Nat) :
    (Attached.connect address port last tries).Within allowed fun _ => True := by
  induction tries generalizing last with
  | zero => exact trivial
  | succ tries ih =>
    refine .request (connect address port) fun answer => ?_
    cases answer with
    | ok done => exact trivial
    | error fault => exact .request pause fun _ => ih (some fault)

theorem Attached.within_connectStdin {allowed : Request → Prop}
    (connect : ∀ address port, allowed (.connect address port))
    (pause : allowed (.pause startupPause)) (p : Attached) (config : Config) (d : Descriptor)
    (status : PodStatus) :
    (p.connectStdin config d status).Within allowed fun _ => True := by
  unfold connectStdin
  split
  · split
    · exact trivial
    · exact within_connect connect pause ..
  · exact trivial

theorem Attached.within_start (p : Attached) (config : Config) (d : Descriptor)
    (stage : Starting) :
    (p.start config d stage).Within (Startup true p.key) fun _ => True := by
  cases stage with
  | asked =>
    refine (within_createPod (Startup.create rfl)).bind fun result _ => ?_
    cases result with
    | error e => exact trivial
    | ok done =>
      refine .request rfl fun _ => ?_
      exact (within_deadlineAfter trivial trivial _).bind fun deadline _ => trivial
  | initializing deadline =>
    refine (within_awaitStatus trivial trivial trivial ..).bind fun result _ => ?_
    rcases result with deadline | (e | status)
    · exact trivial
    · exact trivial
    · refine (within_upload _).bind fun result _ => ?_
      cases result with
      | error e => exact trivial
      | ok done => exact (within_deadlineAfter trivial trivial _).bind fun deadline _ => trivial
  | running deadline =>
    refine (within_awaitStatus trivial trivial trivial ..).bind fun result _ => ?_
    rcases result with deadline | (e | status)
    · exact trivial
    · cases e with
      | terminatedDuringStartup pod =>
        refine .request rfl fun code => ?_
        split <;> exact trivial
      | _ => exact trivial
    · exact (within_connectStdin (fun _ _ => rfl) trivial ..).bind fun result _ => trivial

theorem Detached.within_launch (p : Detached) (config : Config) (d : Descriptor)
    (stage : Launching) :
    (p.launch config d stage).Within (Startup false p.key) fun _ => True := by
  cases stage with
  | asked =>
    refine (within_createPod (Startup.create rfl)).bind fun result _ => ?_
    cases result with
    | error e => exact trivial
    | ok done => exact (within_deadlineAfter trivial trivial _).bind fun deadline _ => trivial
  | starting deadline =>
    refine (within_awaitStatus trivial trivial trivial ..).bind fun result _ => ?_
    rcases result with deadline | (e | status)
    · exact trivial
    · exact trivial
    · exact (within_upload _).bind fun result _ => trivial

end Parts

/-! ### Requests about the end of a detached pod -/

def Looks (key : PodKey) : Request → Prop
  | .document place => ∃ status, place = Documents.statusKey key.ns key.name status
  | .cluster (.read _) | .cluster (.tail ..) => True
  | .exitCode | .complete _ | .time | .breakDown | .pause _ => True
  | _ => False

theorem Looks.owns {key own : PodKey} {r : Request} (h : Looks key r) : Owns own r := by
  cases r with
  | cluster r =>
    cases r with
    | create | delete => exact h.elim
    | _ => exact trivial
  | _ => exact trivial

section Looks

theorem within_ranOutOfMemory (key : PodKey) (lines : Nat) :
    (ranOutOfMemory key lines).Within (Looks key) fun _ => True := by
  refine .request trivial fun answer => ?_
  cases answer <;> exact trivial

theorem within_resolveStatus (key : PodKey) :
    (Documents.resolveStatus (fun place => ask (.document place)) key.ns key.name).Within (Looks key)
      fun _ => True := by
  unfold Documents.resolveStatus
  induction Documents.Status.precedence with
  | nil => exact trivial
  | cons status rest ih =>
    refine .request ⟨status, rfl⟩ fun answer => ?_
    rcases answer with e | (_ | document)
    · exact trivial
    · exact ih
    · exact trivial

theorem Detached.within_status (p : Detached) : p.status.Within (Looks p.key) fun _ => True :=
  (within_resolveStatus p.key).bind fun _ _ => trivial

theorem Detached.within_resolveExit (p : Detached) :
    p.resolveExit.Within (Looks p.key) fun _ => True := by
  have report : (do return (← askCluster (.read p.key)).mapError Workload.Error.cluster :
      Talk (Except Workload.Error (Option PodStatus))).Within (Looks p.key) fun _ => True :=
    .request trivial fun _ => trivial
  unfold resolveExit
  refine .bindRun p.within_status fun found => ?_
  split
  · exact trivial
  · refine .bindRun report fun pod => ?_
    cases pod with
    | none => exact trivial
    | some pod =>
      cases ended : pod.isTerminal with
      | false =>
        simp only [ended]
        exact trivial
      | true =>
        simp only [ended]
        refine .bindRun p.within_status fun found => ?_
        split
        · exact trivial
        · refine .liftRun (within_ranOutOfMemory p.key p.oomLogLines) fun ranOut => ?_
          split <;> exact trivial

theorem Detached.within_exitValue (p : Detached) :
    p.exitValue.Within (Looks p.key) fun _ => True := by
  refine .request trivial fun code => ?_
  cases code with
  | some code => exact trivial
  | none =>
    refine p.within_resolveExit.bind fun result _ => ?_
    cases result with
    | error e => exact trivial
    | ok code => exact .request trivial fun _ => .request trivial fun _ => trivial

theorem Detached.within_waitFor (p : Detached) (wait : Wait) :
    (p.waitFor wait).Within (Looks p.key) fun _ => True := by
  have turn : (p.awaitExit wait).Within (Looks p.key) fun _ => True := by
    cases wait with
    | begun limit =>
      exact (within_deadlineAfter trivial trivial limit).bind fun _ _ => trivial
    | «until» deadline =>
      refine p.within_exitValue.bind fun result _ => ?_
      cases result with
      | ok code => exact trivial
      | error e =>
        refine .request trivial fun now => ?_
        split
        · exact trivial
        · exact .request trivial fun _ => trivial
  refine turn.bind fun result _ => ?_
  rcases result with wait | (_ | _)
  · exact trivial
  · exact trivial
  · exact p.within_exitValue.bind fun _ _ => trivial

end Looks

end ConnectorSync.Workload.Pod
