import Mathlib.Data.List.Count
import ConnectorSync.Proofs.Text.Bytes
import ConnectorSync.Proofs.Workload.Handles

/-!
# What is copied to a pod

A launch copies the files of its descriptor, then the identity of the pod, then the empty file by
which the init container knows that all are there. The names of the descriptor's files are free, so
one of them can be a name that the launch uses itself.
-/

namespace ConnectorSync.Workload.Pod

open Launch Cluster

/-! ### Copies and what they leave -/

abbrev Transfers := List (PodKey × CopiedFile)

def transferred : (r : Request) → r.Answer → Transfers
  | .cluster (.copy key file), .ok () => [(key, file)]
  | _, _ => []

def transfers : Surroundings Request Request.Answer Transfers where
  Happens _ _ := False
  Answers sent r a sent' := sent' = sent ++ transferred r a

def remotePath (name : String) : String := configDir ++ "/" ++ name

theorem remotePath_inj {name other : String} : remotePath name = remotePath other ↔ name = other :=
  String.append_right_inj (configDir ++ "/")

/-- What a path holds: what was copied to it last. -/
def heldAt? (files : List CopiedFile) (path : String) : Option Bytes :=
  (files.reverse.find? (·.path = path)).map (·.contents)

theorem heldAt?_append (files later : List CopiedFile) (path : String) :
    heldAt? (files ++ later) path = (heldAt? later path).or (heldAt? files path) := by
  simp only [heldAt?, List.reverse_append, List.find?_append]
  cases later.reverse.find? (·.path = path) <;> rfl

theorem heldAt?_singleton (name wanted : String) (contents : Bytes) :
    heldAt? [inputFile name contents] (remotePath wanted) =
      if name = wanted then some contents else none := by
  by_cases same : name = wanted
  · subst same
    simp [heldAt?, inputFile, remotePath]
  · have other : configDir ++ "/" ++ name ≠ remotePath wanted := fun h => same (remotePath_inj.1 h)
    simp [heldAt?, inputFile, other, same]

/-- The files of a map have different names, so each of them is held. -/
theorem heldAt?_entries (files : StringMap String) (wanted : String) :
    heldAt? (files.entries.map fun (name, contents) => inputFile name (Text.bytes contents))
      (remotePath wanted) = (files.find? wanted).map Text.bytes := by
  have path (e : String × String) :
      decide ((inputFile e.1 (Text.bytes e.2)).path = remotePath wanted) = decide (e.1 = wanted) :=
    decide_eq_decide.2 remotePath_inj
  simp only [heldAt?, StringMap.find?, ← List.map_reverse, List.find?_map, Function.comp_def, path,
    StringMap.find?_reverse, Option.map_map]
  rfl

theorem heldAt?_uploads (d : Descriptor) (info : Info) (wanted : String) :
    heldAt? (uploads d info) (remotePath wanted) =
      if wanted = uploadedFile then some []
      else if wanted = podInfoFile then some (Text.bytes info.encode.render)
      else (d.files.find? wanted).map Text.bytes := by
  have files : uploads d info =
      (d.files.entries.map fun (name, contents) => inputFile name (Text.bytes contents)) ++
        [inputFile podInfoFile (Text.bytes info.encode.render)] ++ [inputFile uploadedFile []] := by
    rw [uploads, List.append_assoc, List.singleton_append]
  rw [files, heldAt?_append, heldAt?_append, heldAt?_singleton, heldAt?_singleton, heldAt?_entries]
  by_cases last : wanted = uploadedFile
  · simp [last]
  · by_cases own : wanted = podInfoFile
    · simp [own, uploadedFile, podInfoFile]
    · simp [last, own, Ne.symm last, Ne.symm own]

theorem paths_uploads (d : Descriptor) (info : Info) :
    (uploads d info).map (·.path) =
      (d.files.keys ++ [podInfoFile, uploadedFile]).map remotePath := by
  simp [uploads, StringMap.keys, inputFile, remotePath]

theorem count_uploaded (d : Descriptor) (info : Info) :
    ((uploads d info).map (·.path)).count (remotePath uploadedFile) =
      d.files.keys.count uploadedFile + 1 := by
  rw [paths_uploads, List.count_map_of_injective _ _ fun _ _ => remotePath_inj.1, List.count_append]
  rfl

/-! ### What a launch copies -/

/-- The files that a launch owes its pod: its descriptor's and the identity of the pod, each under
its name, and only then the one that lets the init container go. -/
structure Delivered (d : Descriptor) (info : Info) (files : List CopiedFile) : Prop where
  once : (files.map (·.path)).count (remotePath uploadedFile) = 1
  last : (files.map (·.path)).getLast? = some (remotePath uploadedFile)
  identity : heldAt? files (remotePath podInfoFile) = some (Text.bytes info.encode.render)
  inputs : ∀ name contents, d.files.find? name = some contents →
    heldAt? files (remotePath name) = some (Text.bytes contents)

theorem delivered_uploads_iff (d : Descriptor) (info : Info) :
    Delivered d info (uploads d info) ↔
      d.files.find? uploadedFile = none ∧
        ∀ contents, d.files.find? podInfoFile = some contents → contents = info.encode.render := by
  have own : heldAt? (uploads d info) (remotePath podInfoFile) =
      some (Text.bytes info.encode.render) := heldAt?_uploads d info podInfoFile
  constructor
  · intro h
    constructor
    · have none : d.files.keys.count uploadedFile = 0 :=
        Nat.add_right_cancel ((count_uploaded d info).symm.trans h.once)
      exact StringMap.find?_eq_none.2 (List.count_eq_zero.1 none)
    · intro contents found
      have held := own.symm.trans (h.inputs podInfoFile contents found)
      exact (Text.bytes_inj.1 (Option.some.inj held)).symm
  · rintro ⟨none, same⟩
    have absent : d.files.keys.count uploadedFile = 0 :=
      List.count_eq_zero.2 (StringMap.find?_eq_none.1 none)
    refine ⟨by rw [count_uploaded, absent], ?_, own, fun name contents found => ?_⟩
    · rw [paths_uploads]
      simp
    · rw [heldAt?_uploads]
      by_cases isLast : name = uploadedFile
      · subst isLast
        cases none.symm.trans found
      by_cases isOwn : name = podInfoFile
      · subst isOwn
        rw [if_neg isLast, if_pos rfl, same contents found]
      · rw [if_neg isLast, if_neg isOwn, found, Option.map_some]

/-! ### Launches -/

namespace Handle

def info (h : Handle) : Info := infoOf h.config h.name h.descriptor.image

def uploads (h : Handle) : List CopiedFile := Pod.uploads h.descriptor h.info

def allSent (h : Handle) : Transfers := h.uploads.map (h.key, ·)

inductive Launches (h : Handle) :
    Stage → Transfers → Except Launch.Error Keeper → Transfers → Prop
  | turn {stage next : Stage} {s t u : Transfers} {result : Except Launch.Error Keeper}
    (steps : transfers.Steps ⟨h.launch stage, s⟩ ⟨.done (.inl next), t⟩)
    (rest : Launches h next t result u) : Launches h stage s result u
  | last {stage : Stage} {s t : Transfers} {result : Except Launch.Error Keeper}
    (steps : transfers.Steps ⟨h.launch stage, s⟩ ⟨.done (.inr result), t⟩) :
    Launches h stage s result t

inductive Uploads (h : Handle) : Transfers → Prop
  | copied {sent : Transfers}
    (steps : transfers.Steps ⟨upload h.key h.uploads, []⟩ ⟨.done (.ok ()), sent⟩) : Uploads h sent
  | launched {sent : Transfers} {k : Keeper} (launches : h.Launches h.first [] (.ok k) sent) :
    Uploads h sent

end Handle

theorem lasts_transfers (P : Transfers → Prop) : transfers.Lasts P := fun _ _ _ step => step.elim

theorem leads_upload (key : PodKey) (files : List CopiedFile) (sent : Transfers) :
    transfers.Leads (fun result sent' => result = .ok () → sent' = sent ++ files.map (key, ·))
      (upload key files) sent := by
  induction files generalizing sent with
  | nil => exact fun _ => (List.append_nil sent).symm
  | cons file rest ih =>
    refine .request (lasts_transfers (· = sent)) rfl ?_
    rintro _ answer _ rfl rfl
    cases answer with
    | error e => exact nofun
    | ok done =>
      refine (ih _).mono fun result sent' went succeeded => ?_
      rw [went succeeded, List.append_assoc]
      rfl

def Quiet (r : Request) : Prop := ∀ a, transferred r a = []

theorem leads_quiet {α : Type} {d : Talk α} {Q : α → Prop} {sent : Transfers}
    (quiet : d.Within Quiet Q) :
    transfers.Leads (fun a sent' => Q a ∧ sent' = sent) d sent := by
  refine .of_within quiet (lasts_transfers (· = sent)) ?_ rfl
  rintro _ r a _ still rfl rfl
  rw [still a, List.append_nil]

theorem leads_anyhow {α : Type} {d : Talk α} {Q : α → Prop} {sent : Transfers}
    (within : d.Within (fun _ => True) Q) : transfers.Leads (fun a _ => Q a) d sent :=
  (Surroundings.Leads.of_within within (lasts_transfers fun _ => True) (fun _ _ _ => trivial)
    trivial).mono fun _ _ ended => ended.1

section Quiet

theorem quiet_offerAll (ports : List Port) :
    (Attached.offerAll ports).Within Quiet fun _ => True := by
  induction ports with
  | nil => exact trivial
  | cons port rest ih => exact .request (fun _ => rfl) fun _ => ih

theorem quiet_lease (config : Config) (d : Descriptor) (name : String) :
    (Attached.lease config d name).Within Quiet fun result =>
      ∀ p, result = .ok p → p.key = ⟨config.ns, name⟩ ∧ p.info = infoOf config name d.image := by
  refine .request (fun _ => rfl) fun stdout => ?_
  cases stdout with
  | none => exact nofun
  | some stdout =>
    refine .request (fun _ => rfl) fun stderr => ?_
    cases stderr with
    | none => exact (quiet_offerAll _).bind fun _ _ => nofun
    | some stderr =>
      refine .request (fun _ => rfl) fun answer => ?_
      cases answer with
      | error fault => exact (quiet_offerAll _).bind fun _ _ => nofun
      | ok relay =>
        rintro p ⟨⟩
        exact ⟨rfl, rfl⟩

theorem quiet_createPod (key : PodKey) (manifest : Manifest) :
    (createPod key manifest).Within Quiet fun _ => True :=
  within_createPod fun _ => rfl

theorem quiet_deadlineAfter (span : Duration) :
    (deadlineAfter (ask .time) (ask .breakDown) span).Within Quiet fun _ => True :=
  within_deadlineAfter (fun _ => rfl) (fun _ => rfl) span

theorem quiet_awaitStatus (key : PodKey) (ready : PodStatus → Bool)
    (patience deadline : Duration) :
    (awaitStatus key ready patience deadline).Within Quiet fun _ => True :=
  within_awaitStatus (fun _ => rfl) (fun _ => rfl) (fun _ => rfl) ready patience deadline

end Quiet

variable {h : Handle} {sent : Transfers}

def Handle.Sent (h : Handle) (sent : Transfers) : Stage ⊕ Except Launch.Error Keeper → Prop
  | .inl (.attached .asked) => sent = []
  | .inl (.attached (.starting p stage)) =>
    (p.key = h.key ∧ p.info = h.info) ∧
      match stage with
      | .asked | .initializing _ => sent = []
      | .running _ => sent = h.allSent
  | .inl (.detached _) => sent = []
  | .inr (.ok _) => sent = h.allSent
  | .inr (.error _) => True

/-- The copying of a pod that is kept as the handle's own. -/
theorem leads_ownUpload {key : PodKey} {info : Info} (sameKey : key = h.key)
    (sameInfo : info = h.info) :
    transfers.Leads (fun result sent => result = .ok () → sent = h.allSent)
      (upload key (Pod.uploads h.descriptor info)) [] := by
  subst sameKey sameInfo
  exact leads_upload h.key h.uploads []

def Handle.Started (h : Handle) (sent : Transfers) :
    Attached.Starting ⊕ Except Launch.Error Unit → Prop
  | .inl .asked | .inl (.initializing _) => sent = []
  | .inl (.running _) | .inr (.ok ()) => sent = h.allSent
  | .inr (.error _) => True

theorem Attached.leads_start {p : Attached} {stage : Starting} (sameKey : p.key = h.key)
    (sameInfo : p.info = h.info) (begun : h.Started sent (.inl stage)) :
    transfers.Leads (fun result sent => h.Started sent result) (p.start h.config h.descriptor stage)
      sent := by
  cases stage with
  | asked =>
    refine (leads_quiet (quiet_createPod ..)).bind ?_
    rintro result sent ⟨-, rfl⟩
    cases result with
    | error e => exact trivial
    | ok done =>
      refine .request (lasts_transfers (· = sent)) rfl ?_
      rintro _ _ _ rfl rfl
      refine (leads_quiet (quiet_deadlineAfter _)).bind ?_
      rintro deadline _ ⟨-, rfl⟩
      exact (List.append_nil _).trans begun
  | initializing deadline =>
    obtain rfl : sent = [] := begun
    refine (leads_quiet (quiet_awaitStatus ..)).bind ?_
    rintro (deadline | (e | status)) _ ⟨-, rfl⟩
    · exact rfl
    · exact trivial
    refine (leads_ownUpload sameKey sameInfo).bind fun result sent went => ?_
    cases result with
    | error e => exact trivial
    | ok done =>
      refine (leads_quiet (quiet_deadlineAfter _)).bind ?_
      rintro deadline _ ⟨-, rfl⟩
      exact went rfl
  | running deadline =>
    refine (leads_quiet (quiet_awaitStatus ..)).bind ?_
    rintro (deadline | (e | status)) sent ⟨-, rfl⟩
    · exact begun
    · cases e with
      | terminatedDuringStartup pod =>
        refine .request (lasts_transfers (· = sent)) rfl ?_
        rintro _ code _ rfl rfl
        cases code with
        | none => exact trivial
        | some code => exact (List.append_nil _).trans begun
      | _ => exact trivial
    · refine (leads_quiet (within_connectStdin (fun _ _ _ => rfl) (fun _ => rfl) ..)).bind ?_
      rintro result _ ⟨-, rfl⟩
      cases result with
      | error e => exact trivial
      | ok done => exact begun

def Handle.Went {σ α : Type} (h : Handle) (stage : σ → Stage) (kept : α → Keeper)
    (result : σ ⊕ Except Launch.Error α) (sent : Transfers) : Prop :=
  h.Sent sent (result.map stage (·.map kept))

theorem Attached.leads_create {stage : Launching} (begun : h.Sent sent (.inl (.attached stage))) :
    transfers.Leads (h.Went .attached .attached) (create h.config h.descriptor h.name stage)
      sent := by
  cases stage with
  | asked =>
    refine (leads_quiet (quiet_lease ..)).bind ?_
    rintro (e | p) _ ⟨own, rfl⟩
    · exact trivial
    · exact ⟨own p rfl, begun⟩
  | starting p stage =>
    obtain ⟨⟨sameKey, sameInfo⟩, begun⟩ := begun
    have started : h.Started sent (.inl stage) := by cases stage <;> exact begun
    refine (leads_start sameKey sameInfo started).bind ?_
    rintro (stage | (e | done)) sent went
    · exact ⟨⟨sameKey, sameInfo⟩, by cases stage <;> exact went⟩
    · refine (leads_anyhow (Q := (· = .inr (.error e))) ?_).mono ?_
      · exact .request trivial fun _ => (Dialogue.Within.anything _).bind fun _ _ => rfl
      · rintro _ sent rfl
        exact trivial
    · exact went

theorem Detached.leads_launch {p : Detached} {stage : Launching} (sameKey : p.key = h.key)
    (sameInfo : p.info = h.info) (begun : sent = []) :
    transfers.Leads
      (fun result sent => match result with
        | .inl _ => sent = []
        | .inr (.ok ()) => sent = h.allSent
        | .inr (.error _) => True)
      (p.launch h.config h.descriptor stage) sent := by
  subst begun
  cases stage with
  | asked =>
    refine (leads_quiet (quiet_createPod ..)).bind ?_
    rintro (e | done) _ ⟨-, rfl⟩
    · exact trivial
    · refine (leads_quiet (quiet_deadlineAfter _)).bind ?_
      rintro deadline _ ⟨-, rfl⟩
      exact rfl
  | starting deadline =>
    refine (leads_quiet (quiet_awaitStatus ..)).bind ?_
    rintro (deadline | (e | status)) _ ⟨-, rfl⟩
    · exact rfl
    · exact trivial
    · refine (leads_ownUpload sameKey sameInfo).bind fun result sent went => ?_
      cases result with
      | error e => exact trivial
      | ok done => exact went rfl

theorem Detached.leads_create {stage : Launching} (begun : sent = []) :
    transfers.Leads (h.Went .detached .detached) (create h.config h.descriptor h.name stage)
      sent := by
  refine (leads_launch rfl rfl begun).bind ?_
  rintro (stage | (e | done)) sent went
  · exact went
  · refine (leads_anyhow (Q := (· = .inr (.error e))) ?_).mono ?_
    · exact .request trivial fun _ => rfl
    · rintro _ sent rfl
      exact trivial
  · exact went

theorem Handle.leads_launch {stage : Stage} (begun : h.Sent sent (.inl stage)) :
    transfers.Leads (fun result sent => h.Sent sent result) (h.launch stage) sent := by
  cases stage with
  | attached stage =>
    refine (Attached.leads_create begun).bind ?_
    rintro (stage | result) sent went <;> exact went
  | detached stage =>
    refine (Detached.leads_create begun).bind ?_
    rintro (stage | result) sent went <;> exact went

theorem Handle.Launches.haveSent {stage : Stage} {result : Except Launch.Error Keeper}
    {sent sent' : Transfers} (launches : h.Launches stage sent result sent')
    (begun : h.Sent sent (.inl stage)) : h.Sent sent' (.inr result) := by
  induction launches with
  | turn steps rest ih => exact ih ((leads_launch begun).ended (fun _ => lasts_transfers _) steps)
  | last steps => exact (leads_launch begun).ended (fun _ => lasts_transfers _) steps

theorem Handle.Uploads.haveSent (uploads : h.Uploads sent) : sent = h.allSent := by
  cases uploads with
  | copied steps =>
    exact (leads_upload h.key h.uploads []).ended (fun _ => lasts_transfers _) steps rfl
  | launched launches =>
    refine launches.haveSent ?_
    rw [Handle.first]
    split <;> exact rfl

/-- What a handle has copied is what it owes its pod, exactly if no file of its descriptor has the
name by which the init container is let go and none stands in for the identity of the pod. -/
theorem uploads_delivered_iff (h : Handle) (sent : Transfers) (uploads : h.Uploads sent) :
    Delivered h.descriptor h.info (sent.map (·.2)) ↔
      h.descriptor.files.find? uploadedFile = none ∧
        ∀ contents, h.descriptor.files.find? podInfoFile = some contents →
          contents = h.info.encode.render := by
  have files : sent.map (·.2) = Pod.uploads h.descriptor h.info := by
    rw [uploads.haveSent, Handle.allSent, List.map_map]
    exact List.map_id' _
  rw [files, delivered_uploads_iff]

/-! ### Launches that can be computed -/

def obliging (look : PodStatus) (sent : Transfers) : (r : Request) → Option (r.Answer × Transfers)
  | .cluster (.create ..) => some (.ok (), sent)
  | .cluster (.read _) => some (.ok (some look), sent)
  | .cluster (.copy key file) => some (.ok (), sent ++ [(key, file)])
  | .takePort => some (some 9877, sent)
  | .listen ports => some (.ok ports, sent)
  | .setWatch => some ((), sent)
  | .time => some (.zero, sent)
  | _ => none

theorem answers_obliging {look : PodStatus} {sent sent' : Transfers} {r : Request} {a : r.Answer}
    (replied : obliging look sent r = some (a, sent')) : transfers.Answers sent r a sent' := by
  cases r with
  | cluster r =>
    cases r with
    | create | read =>
      cases replied
      exact (List.append_nil sent).symm
    | copy =>
      cases replied
      exact rfl
    | delete | tail => cases replied
  | takePort | listen | setWatch | time =>
    cases replied
    exact (List.append_nil sent).symm
  | _ => cases replied

def driven (h : Handle) (look : PodStatus) : Nat → Stage → Transfers → Option Transfers
  | 0, _, _ => none
  | turns + 1, stage, sent =>
    match Surroundings.served (obliging look) 100 ⟨h.launch stage, sent⟩ with
    | ⟨.done (.inl next), sent⟩ => driven h look turns next sent
    | ⟨.done (.inr (.ok _)), sent⟩ => some sent
    | _ => none

theorem launches_of_driven {look : PodStatus} {turns : Nat} {stage : Stage} {sent' : Transfers}
    (succeeded : driven h look turns stage sent = some sent') :
    ∃ k, h.Launches stage sent (.ok k) sent' := by
  induction turns generalizing stage sent with
  | zero => cases succeeded
  | succ turns ih =>
    have sound {s : Transfers} {r : Request} {a : r.Answer} {t : Transfers}
        (replied : obliging look s r = some (a, t)) : transfers.Answers s r a t :=
      answers_obliging replied
    have steps := Surroundings.steps_served sound 100 ⟨h.launch stage, sent⟩
    rw [driven] at succeeded
    split at succeeded
    · next next sent reached =>
      obtain ⟨k, rest⟩ := ih succeeded
      exact ⟨k, .turn (reached ▸ steps) rest⟩
    · next k sent reached =>
      cases succeeded
      exact ⟨k, .last (reached ▸ steps)⟩
    · cases succeeded

def readyPod : PodStatus where
  phase := .running
  initContainers := [{ name := initContainer, running := true }]
  containers := [{ name := mainContainer, running := true, ready := true }]

theorem Handle.uploads_of_driven (turns : Nat) (h : Handle)
    (succeeded : driven h readyPod turns h.first [] = some h.allSent) : h.Uploads h.allSent :=
  (launches_of_driven succeeded).elim fun _ launches => .launched launches

def Handle.reading (files : List (String × String)) : Handle where
  mode := .attached
  config := {}
  descriptor :=
    { jobId := "7", attempt := 1, image := "source", step := .read, files := .ofList files }
  name := "source-read-7-1"

def Handle.configured : Handle := reading [(configFile, "x")]

theorem uploads_delivered_configured :
    Handle.configured.Uploads Handle.configured.allSent ∧
      Delivered Handle.configured.descriptor Handle.configured.info
        (Handle.configured.allSent.map (·.2)) := by
  have launched : Handle.configured.Uploads Handle.configured.allSent :=
    Handle.uploads_of_driven 4 _ (by decide +kernel)
  exact ⟨launched, (uploads_delivered_iff _ _ launched).2 ⟨by decide +kernel, by decide +kernel⟩⟩

/-- A handle whose descriptor has a file of the name by which the init container is let go. -/
def Handle.untimely : Handle := reading [(uploadedFile, "")]

/-- The launch succeeds, though the init container is let go before anything else is copied. -/
theorem untimely_not_delivered :
    Handle.untimely.Uploads Handle.untimely.allSent ∧
      Handle.untimely.allSent.map (·.2.path) =
        [remotePath uploadedFile, remotePath podInfoFile, remotePath uploadedFile] ∧
      ¬ Delivered Handle.untimely.descriptor Handle.untimely.info
        (Handle.untimely.allSent.map (·.2)) := by
  refine ⟨Handle.uploads_of_driven 4 _ (by decide +kernel), by decide +kernel,
    fun delivered => ?_⟩
  have twice : ((Handle.untimely.allSent.map (·.2)).map (·.path)).count
      (remotePath uploadedFile) = 2 := by decide +kernel
  exact absurd (twice.symm.trans delivered.once) (by decide)

end ConnectorSync.Workload.Pod
