import ConnectorSync.Docker.Container
import ConnectorSync.Proofs.Surroundings

/-!
# Stages of a creation

The creation of a container looks for the image, makes the directory, writes the input files one
after another and starts the client. It may fail at each of these; if the client does not start, the
directory is removed.
-/

namespace ConnectorSync.Docker

open Files Launch

variable {State : Type} {Answers : State → (r : Request) → r.Answer → State → Prop}

/-- What holds while a container is created: before anything is done to the files, once some of the
input files are written, and when the creation fails. -/
structure Creation (Answers : State → (r : Request) → r.Answer → State → Prop) (dir : String)
    (files : List (String × String)) where
  always : State → Prop
  ready : State → Prop
  upTo : List (String × String) → State → Prop
  failed : Launch.Error → State → Prop
  always_of_ready {s : State} (h : ready s) : always s
  always_of_upTo {done : List (String × String)} {s : State} (h : upTo done s) : always s
  always_of_failed {e : Launch.Error} {s : State} (h : failed e s) : always s
  look {s t : State} {c : Host.Command} {reply : Except Fault Host.Ended} (h : ready s)
    (answers : Answers s (.host (.run c)) reply t) : ready t
  /-- There is no image, or it cannot be looked for. -/
  refuse {s : State} {e : Launch.Error} (h : ready s) (notIo : ∀ fault, e ≠ .io fault) : failed e s
  make {s t : State} (h : ready s)
    (answers : Answers s (.host (.createDirectories dir)) (.ok ()) t) : upTo [] t
  unmade {s t : State} {fault : Fault} (h : ready s)
    (answers : Answers s (.host (.createDirectories dir)) (.error fault) t) : failed (.io fault) t
  write {done rest : List (String × String)} {name text : String} {s t : State}
    (split : files = done ++ (name, text) :: rest) (h : upTo done s)
    (answers : Answers s (.host (.writeFile (join dir name) (Text.bytes text))) (.ok ()) t) :
    upTo (done ++ [(name, text)]) t
  unwritten {done rest : List (String × String)} {name text : String} {s t : State}
    {fault : Fault} (split : files = done ++ (name, text) :: rest) (h : upTo done s)
    (answers : Answers s (.host (.writeFile (join dir name) (Text.bytes text))) (.error fault) t) :
    failed (.io fault) t
  start {s t : State} {c : Host.Command} {reply : Except Fault Host.Child} (h : upTo files s)
    (answers : Answers s (.host (.spawn c)) reply t) : upTo files t
  clean {s t : State} {message : String} {reply : Except Fault Unit} (h : upTo files s)
    (answers : Answers s (.host (.removeDirectory dir)) reply t) : failed (.startFailed message) t

namespace Creation

open Surroundings (still)

variable {dir : String} {files : List (String × String)} {s : State}

def written (p : Creation Answers dir files) : Except Fault Unit → State → Prop
  | .ok () => p.upTo files
  | .error fault => p.failed (.io fault)

def created (p : Creation Answers dir files) : Except Launch.Error Container → State → Prop
  | .ok c => fun s => c.jobRoot = dir ∧ p.upTo files s
  | .error e => p.failed e

theorem writeFiles (p : Creation Answers dir files) {done rest : List (String × String)}
    (split : files = done ++ rest) (h : p.upTo done s) :
    (still Answers).Throughout p.always p.written (onHost (Docker.writeFiles dir rest)) s := by
  induction rest generalizing done s with
  | nil =>
    rw [List.append_nil] at split
    exact .done (p.always_of_upTo h) (split ▸ h)
  | cons file rest ih =>
    obtain ⟨name, text⟩ := file
    rw [Docker.writeFiles, onHost_ask_bind]
    refine .request (p.always_of_upTo h) fun reply t answers => ?_
    cases reply with
    | error fault =>
      have failed := p.unwritten split h answers
      exact .done (p.always_of_failed failed) failed
    | ok =>
      exact ih (by rw [split, List.append_assoc, List.singleton_append]) (p.write split h answers)

theorem materialize {d : Descriptor} (p : Creation Answers dir d.files.entries) (h : p.ready s) :
    (still Answers).Throughout p.always p.written (onHost (Docker.materialize dir d)) s := by
  rw [Docker.materialize, onHost_ask_bind]
  refine .request (p.always_of_ready h) fun reply t answers => ?_
  cases reply with
  | error fault =>
    have failed := p.unmade h answers
    exact .done (p.always_of_failed failed) failed
  | ok => exact p.writeFiles (List.nil_append _).symm (p.make h answers)

theorem cleanUp (p : Creation Answers dir files) (h : p.upTo files s) (message : String) :
    (still Answers).Throughout p.always p.created (onHost (removeJobRoot dir) >>= fun _ =>
      return .error (.startFailed message)) s := by
  rw [removeJobRoot, onHost_ask_bind, bind_assoc]
  refine .request (p.always_of_upTo h) fun reply t answers => ?_
  have failed : p.failed (.startFailed message) t := p.clean h answers
  exact .done (p.always_of_failed failed) failed

theorem create {config : Launch.Config} {d : Descriptor}
    (p : Creation Answers (jobRoot config.workspaceRoot d) d.files.entries) (h : p.ready s)
    (name : String) :
    (still Answers).Throughout p.always p.created (Container.create config d name) s := by
  have stops {e : Launch.Error} {s : State} (failed : p.failed e s) :
      (still Answers).Throughout p.always p.created (.done (.error e)) s :=
    .done (p.always_of_failed failed) failed
  unfold Container.create Container.hasImage
  simp only [bind_assoc, pure_bind]
  refine .request (p.always_of_ready h) fun reply t answers => ?_
  have looked := p.look h answers
  rcases reply with fault | ended
  · exact stops (p.refuse looked fun _ => nofun)
  cases good : ended.isGood with
  | false =>
    simp only [Except.map, good]
    exact stops (p.refuse looked fun _ => nofun)
  | true =>
    simp only [Except.map, good]
    refine .bind (p.materialize looked) fun reply t filled => ?_
    cases reply with
    | error fault => exact stops filled
    | ok =>
      refine .request (p.always_of_upTo filled) fun reply u answers => ?_
      have started := p.start filled answers
      cases reply with
      | ok child => exact .done (p.always_of_upTo started) ⟨rfl, started⟩
      | error fault => exact p.cleanUp started fault.message

end Creation

end ConnectorSync.Docker
