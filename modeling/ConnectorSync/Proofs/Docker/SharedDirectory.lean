import ConnectorSync.Proofs.Docker.InputFiles

/-!
# The directory that both connectors share

Launching the destination of an attempt writes over the configuration of a source that runs already.
A write that fails may leave a part of the source's file, and a destination that does not start takes
the source's files away, or some of them.
-/

namespace ConnectorSync.Docker

open Launch Sync Files Execution

variable {c : Connection} {context : AttemptContext}

/-! ### What is known of the source's files -/

section Stages

variable (config : Launch.Config) (c : Connection) (context : AttemptContext)

abbrev overwriting : Event :=
  .wrote (directory config c context) configFile c.destination.config.render

def Housed (past : List Event) : Prop :=
  ∀ source, .launched 0 source ∈ past → source.jobRoot = directory config c context

/-- Whether the source's files are in place is told by what has happened. -/
structure Known (s : Course) : Prop where
  housed : Housed config c context s.past
  told : InPlace s.tree (directory config c context) (descriptor c .source .read context) ↔
    Unharmed s (directory config c context) (descriptor c .source .read context) ∧
      (overwriting config c context ∈ s.past →
        c.source.config.render = c.destination.config.render)

structure Standing (text : String) (s : Course) : Prop where
  housed : Housed config c context s.past
  others : ∀ file ∈ (descriptor c .source .read context).files.entries, file.1 ≠ configFile →
    Holds s.tree (directory config c context) file
  configured : Holds s.tree (directory config c context) (configFile, text)
  unharmed : Unharmed s (directory config c context) (descriptor c .source .read context)
  same_iff : (overwriting config c context ∈ s.past →
    c.source.config.render = c.destination.config.render) ↔ text = c.source.config.render

/-- While the source is there, what becomes of its files is told by what has happened. -/
def Exact (s : Course) : Prop :=
  ∀ source, .launched 0 source ∈ s.past → .ending 0 ∉ s.past →
    (InPlace s.tree source.jobRoot (descriptor c .source .read context) ↔
      Unharmed s source.jobRoot (descriptor c .source .read context) ∧
        (.wrote source.jobRoot configFile c.destination.config.render ∈ s.past →
          c.source.config.render = c.destination.config.render))

end Stages

section

variable {config : Launch.Config} {t : Files.Tree} {s u : Course} {e : Event} {text : String}

theorem config_mem_sourceFiles : (configFile, c.source.config.render) ∈
    (descriptor c .source .read context).files.entries := by
  simp [sourceFiles]

theorem Housed.snoc (h : Housed config c context s.past)
    (notLaunch : ∀ source, .launched 0 source ≠ e) :
    Housed config c context (s.past ++ [e]) := by
  intro source mem
  rcases List.mem_append.1 mem with mem | mem
  · exact h source mem
  · exact absurd (List.mem_singleton.1 mem) (notLaunch source)

theorem Known.exact (h : Known config c context s) : Exact c context s := by
  intro source launched _
  rw [h.housed source launched]
  exact h.told

/-- An event is told of if the files that it leaves in place are those that it spares. -/
theorem Known.after (h : Known config c context s) (aside : e.isAside)
    (same : t.workingDirectory = s.tree.workingDirectory)
    (holds : ∀ file ∈ (descriptor c .source .read context).files.entries,
      Holds t (directory config c context) file ↔
        Holds s.tree (directory config c context) file ∧
          e.Spares t (directory config c context) file) :
    Known config c context (s.after t e) where
  housed := h.housed.snoc fun _ => launched_ne_of_isAside aside
  told := by
    have written : overwriting config c context ∈ (s.after t e).past ↔
        overwriting config c context ∈ s.past := by
      simp [Course.after, wrote_ne_of_isAside aside]
    have inPlace : InPlace t (directory config c context) (descriptor c .source .read context) ↔
        InPlace s.tree (directory config c context) (descriptor c .source .read context) ∧
          ∀ file ∈ (descriptor c .source .read context).files.entries,
            e.Spares t (directory config c context) file := by
      constructor
      · intro inPlace
        exact ⟨fun file mem => ((holds file mem).1 (inPlace file mem)).1,
          fun file mem => ((holds file mem).1 (inPlace file mem)).2⟩
      · rintro ⟨before, spares⟩ file mem
        exact (holds file mem).2 ⟨before file mem, spares file mem⟩
    rw [written, unharmed_after_iff same]
    show InPlace t _ _ ↔ _
    rw [inPlace, h.told]
    exact and_right_comm

theorem Known.idles (h : Known config c context s) (idles : s.Idles u) :
    Known config c context u := by
  obtain ⟨aside, nothing, same⟩ := idles
  refine h.after aside same.workingDirectory fun file _ => ?_
  rw [holds_of_sameFiles same]
  exact (and_iff_left (spares_of_nothing nothing)).symm

theorem Known.leftPart {name : String} {contents part : Bytes} {fault : Fault}
    (h : Known config c context s) (isName : IsName name)
    (held : ∀ file ∈ (descriptor c .source .read context).files.entries, file.1 = name →
      Holds s.tree (directory config c context) file)
    (makes : (Host.Effect.put (join (directory config c context) name) part).Makes s.tree t) :
    Known config c context (s.after t (.ofHost
      (.writeFile (join (directory config c context) name) contents) (.error fault)
      (.put (join (directory config c context) name) part))) := by
  have ends := endsInPiece_directory config c context
  refine h.after rfl makes.workingDirectory fun file mem => ?_
  rw [spares_leftPart_iff]
  by_cases here : file.1 = name
  · have whole := held file mem here
    obtain ⟨name', text⟩ := file
    obtain rfl : name' = name := here
    rw [holds_put makes]
    exact ⟨fun same => ⟨whole, fun _ => same⟩, fun left => left.2 rfl⟩
  · have isOther := isName_sourceFile mem
    rw [holds_put_other ends isName isOther here makes]
    refine (and_iff_left fun same => ?_).symm
    exact absurd (join_inj ends isOther isName same) here

theorem Known.removed {reply : Except Fault Unit} {gone : Place → Bool}
    (h : Known config c context s) :
    Known config c context (s.after (s.tree.without gone)
      (.ofHost (.removeDirectory (directory config c context)) reply (.removed gone))) := by
  refine h.after rfl rfl fun file mem => ?_
  rw [spares_removed_iff,
    holds_without (endsInPiece_directory config c context) (isName_sourceFile mem)]
  rfl

theorem Standing.inPlace_iff (h : Standing config c context text s) :
    InPlace s.tree (directory config c context) (descriptor c .source .read context) ↔
      text = c.source.config.render := by
  constructor
  · intro inPlace
    exact holds_inj h.configured (inPlace _ config_mem_sourceFiles)
  · rintro rfl ⟨name, text⟩ mem
    by_cases isConfig : name = configFile
    · rcases mem_sourceFiles mem with ⟨rfl, -⟩ | ⟨rfl, rfl⟩ | rfl
      · exact absurd isConfig (by decide)
      · exact h.configured
      · exact absurd isConfig (by decide)
    · exact h.others _ mem isConfig

theorem Standing.known (h : Standing config c context text s) : Known config c context s where
  housed := h.housed
  told := by
    rw [h.inPlace_iff, h.same_iff]
    exact (and_iff_right h.unharmed).symm

theorem Standing.idles (h : Standing config c context text s) (idles : s.Idles u) :
    Standing config c context text u := by
  obtain ⟨aside, nothing, same⟩ := idles
  refine ⟨h.housed.snoc fun _ => launched_ne_of_isAside aside, fun file mem other => ?_,
    (holds_of_sameFiles same).2 h.configured, ?_, ?_⟩
  · exact (holds_of_sameFiles same).2 (h.others file mem other)
  · exact (unharmed_after_iff same.workingDirectory).2
      ⟨h.unharmed, fun file _ => spares_of_nothing nothing⟩
  · rw [← h.same_iff]
    simp [Course.after, wrote_ne_of_isAside aside]

/-! ### The launch of the source -/

structure Unlaunched (config : Launch.Config) (c : Connection) (context : AttemptContext)
    (s : Course) : Prop where
  notLaunched (source : Container) : .launched 0 source ∉ s.past
  unharmed : Unharmed s (directory config c context) (descriptor c .source .read context)
  same : overwriting config c context ∈ s.past →
    c.source.config.render = c.destination.config.render

theorem unlaunched_first (t : Files.Tree) : Unlaunched config c context { tree := t } where
  notLaunched _ := List.not_mem_nil
  unharmed _ _ _ mem := absurd mem List.not_mem_nil
  same mem := absurd mem List.not_mem_nil

theorem notLaunched_after (h : ∀ source, .launched 0 source ∉ s.past)
    (notLaunch : ∀ source, .launched 0 source ≠ e) :
    ∀ source, .launched 0 source ∉ (s.after t e).past := by
  intro source
  simp [Course.after, h source, notLaunch source]

theorem Unlaunched.idles (h : Unlaunched config c context s) (idles : s.Idles u) :
    Unlaunched config c context u := by
  obtain ⟨aside, nothing, same⟩ := idles
  refine ⟨notLaunched_after h.notLaunched fun _ => launched_ne_of_isAside aside, ?_, ?_⟩
  · exact (unharmed_after_iff same.workingDirectory).2
      ⟨h.unharmed, fun file _ => spares_of_nothing nothing⟩
  · simpa [Course.after, wrote_ne_of_isAside aside] using h.same

theorem wrote_inj {dir name other text text' : String} (ends : EndsInPiece dir)
    (isName : IsName name) (isOther : IsName other)
    (same : Event.wrote dir name text = Event.wrote dir other text') :
    name = other ∧ text = text' := by
  have put := congrArg Event.effect same
  simp only [Event.wrote, Event.ofHost, Host.Effect.put.injEq] at put
  exact ⟨join_inj ends isName isOther put.1, Text.bytes_inj.1 put.2⟩

/-- Writing a file of the source's counts as the destination's only if the texts are the same. -/
theorem Unlaunched.wrote {name : String} (h : Unlaunched config c context s)
    (mem : (name, text) ∈ (descriptor c .source .read context).files.entries)
    (same : t.workingDirectory = s.tree.workingDirectory) :
    Unlaunched config c context (s.after t (.wrote (directory config c context) name text)) where
  notLaunched := notLaunched_after h.notLaunched nofun
  unharmed := (unharmed_after_iff same).2 ⟨h.unharmed, fun file _ => spares_wrote text⟩
  same written := by
    rcases List.mem_append.1 written with before | now
    · exact h.same before
    have ends := endsInPiece_directory config c context
    obtain ⟨(isConfig : configFile = name), isDestination⟩ :=
      wrote_inj ends isName_configFile (isName_sourceFile mem) (List.mem_singleton.1 now)
    rcases mem_sourceFiles mem with ⟨rfl, -⟩ | ⟨-, isSource⟩ | rfl
    · exact absurd isConfig (by decide)
    · exact isSource.symm.trans isDestination.symm
    · exact absurd isConfig (by decide)

theorem exists_of_written {dir name : String}
    (answers : Answers s (.keeper (.host (.writeFile (join dir name) (Text.bytes text)))) (.ok ())
      u) :
    ∃ tree, (Host.Effect.put (join dir name) (Text.bytes text)).Makes s.tree tree ∧
      u = s.after tree (.wrote dir name text) := by
  obtain ⟨effect, tree, host, rfl⟩ := exists_of_host answers
  obtain ⟨-, rfl⟩ | ⟨fault, failed, -⟩ := host.of_writeFile
  · exact ⟨tree, host.makes, rfl⟩
  · cases failed

/-- The source's files are written one after another, and nothing else happens to them. -/
def sourceCreation (config : Launch.Config) (c : Connection) (context : AttemptContext) :
    Creation KeeperAnswers (directory config c context)
      (descriptor c .source .read context).files.entries where
  always s := ∀ source, .launched 0 source ∉ s.past
  ready s := Unlaunched config c context s
  upTo done s := Unlaunched config c context s ∧
    ∀ file ∈ done, Holds s.tree (directory config c context) file
  failed _ s := ∀ source, .launched 0 source ∉ s.past
  always_of_ready h := h.notLaunched
  always_of_upTo h := h.1.notLaunched
  always_of_failed h := h
  look h answers := h.idles (idles_of_run answers)
  refuse h _ := h.notLaunched
  make h answers := ⟨h.idles (idles_of_createDirectories answers), nofun⟩
  unmade h answers := (h.idles (idles_of_createDirectories answers)).notLaunched
  write {done rest name text s u} split h answers := by
    have ordered := (descriptor c .source .read context).files.ordered
    rw [split, List.pairwise_append] at ordered
    have names : ∀ file ∈ done ++ (name, text) :: rest, IsName file.1 := fun file mem =>
      isName_sourceFile (split ▸ mem)
    have mem : (name, text) ∈ (descriptor c .source .read context).files.entries := by
      simp [split]
    have isName : IsName name := isName_sourceFile mem
    have ends := endsInPiece_directory config c context
    obtain ⟨tree, makes, rfl⟩ := exists_of_written answers
    refine ⟨h.1.wrote mem makes.workingDirectory, fun file mem => ?_⟩
    rcases List.mem_append.1 mem with before | now
    · have less := ordered.2.2 file before (name, text) List.mem_cons_self
      exact (holds_put_other ends isName (names file (List.mem_append_left _ before))
        (String.ne_of_lt less) makes).2 (h.2 file before)
    · rw [List.mem_singleton.1 now]
      exact (holds_put makes text).2 rfl
  unwritten _ h answers := by
    obtain ⟨effect, tree, -, rfl⟩ := exists_of_host answers
    exact notLaunched_after h.1.notLaunched nofun
  start h answers := by
    have idles := idles_of_spawn answers
    refine ⟨h.1.idles idles, fun file mem => ?_⟩
    obtain ⟨-, -, same⟩ := idles
    exact (holds_of_sameFiles same).2 (h.2 file mem)
  clean h answers := by
    obtain ⟨effect, tree, -, rfl⟩ := exists_of_host answers
    exact notLaunched_after h.1.notLaunched nofun

theorem standing_of_launch {source : Container} (h : Unlaunched config c context s)
    (home : source.jobRoot = directory config c context)
    (inPlace : InPlace s.tree (directory config c context) (descriptor c .source .read context)) :
    Standing config c context c.source.config.render
      (s.after s.tree (.launched 0 source)) where
  housed := by
    intro other mem
    rcases List.mem_append.1 mem with before | now
    · exact absurd before (h.notLaunched other)
    · have asked := congrArg Event.ask (List.mem_singleton.1 now)
      simp only [Event.launched, Ask.launched.injEq, true_and] at asked
      rw [asked, home]
  others file mem _ := inPlace file mem
  configured := inPlace _ config_mem_sourceFiles
  unharmed := (unharmed_after_iff rfl).2 ⟨h.unharmed, fun file _ => spares_of_nothing rfl⟩
  same_iff := by
    refine iff_of_true (fun written => ?_) rfl
    rcases List.mem_append.1 written with before | now
    · exact h.same before
    · exact nomatch List.mem_singleton.1 now

/-! ### The launch of the destination -/

/-- The catalog is the same for both connectors, so writing it once more changes no file. -/
theorem Standing.catalog (h : Standing config c context text s)
    (makes : (Host.Effect.put (join (directory config c context) catalogFile)
      (Text.bytes c.catalog.render)).Makes s.tree t) :
    Standing config c context text
      (s.after t (.wrote (directory config c context) catalogFile c.catalog.render)) where
  housed := h.housed.snoc nofun
  others file mem other := by
    have ends := endsInPiece_directory config c context
    obtain ⟨name, text⟩ := file
    by_cases isCatalog : name = catalogFile
    · rcases mem_sourceFiles mem with ⟨rfl, rfl⟩ | ⟨rfl, -⟩ | rfl
      · exact (holds_put makes _).2 rfl
      · exact absurd isCatalog (by decide)
      · exact absurd isCatalog (by decide)
    · exact (holds_put_other ends isName_catalogFile (isName_sourceFile mem) isCatalog makes).2
        (h.others _ mem other)
  configured := by
    have differ : configFile ≠ catalogFile := by decide
    exact (holds_put_other (endsInPiece_directory config c context) isName_catalogFile
      isName_configFile differ makes).2 h.configured
  unharmed := (unharmed_after_iff makes.workingDirectory).2
    ⟨h.unharmed, fun file _ => spares_wrote _⟩
  same_iff := by
    have other : overwriting config c context ≠
        .wrote (directory config c context) catalogFile c.catalog.render := by
      intro same
      have isConfig : configFile = catalogFile := (wrote_inj
        (endsInPiece_directory config c context) isName_configFile isName_catalogFile same).1
      exact absurd isConfig (by decide)
    rw [← h.same_iff]
    simp [Course.after, other]

theorem Standing.overwrite (h : Standing config c context text s)
    (makes : (Host.Effect.put (join (directory config c context) configFile)
      (Text.bytes c.destination.config.render)).Makes s.tree t) :
    Standing config c context c.destination.config.render
      (s.after t (overwriting config c context)) where
  housed := h.housed.snoc nofun
  others file mem other := (holds_put_other (endsInPiece_directory config c context)
    isName_configFile (isName_sourceFile mem) other makes).2 (h.others file mem other)
  configured := (holds_put makes _).2 rfl
  unharmed := (unharmed_after_iff makes.workingDirectory).2
    ⟨h.unharmed, fun file _ => spares_wrote _⟩
  same_iff := by
    have written : overwriting config c context ∈
        (s.after t (overwriting config c context)).past := by
      simp [Course.after]
    exact ⟨fun same => (same written).symm, fun same _ => same.symm⟩

/-- The destination's files are written over the source's. While its configuration is not, the
source's is there. -/
structure Overwriting (config : Launch.Config) (c : Connection) (context : AttemptContext)
    (done : List (String × String)) (s : Course) : Prop where
  standing : ∃ text, Standing config c context text s ∧
    (configFile ∉ done.map Prod.fst → text = c.source.config.render)

theorem Overwriting.known {done : List (String × String)}
    (h : Overwriting config c context done s) : Known config c context s := by
  obtain ⟨text, standing, -⟩ := h
  exact standing.known

theorem Overwriting.write {done rest : List (String × String)} {name : String}
    (h : Overwriting config c context done s)
    (split : (descriptor c .destination .write context).files.entries =
      done ++ (name, text) :: rest)
    (answers : Answers s (.keeper (.host (.writeFile (join (directory config c context) name)
      (Text.bytes text)))) (.ok ()) u) :
    Overwriting config c context (done ++ [(name, text)]) u := by
  obtain ⟨text', standing, unwritten⟩ := h
  obtain ⟨tree, makes, rfl⟩ := exists_of_written answers
  have mem : (name, text) ∈ (descriptor c .destination .write context).files.entries := by
    simp [split]
  simp only [destinationFiles, List.mem_cons, List.not_mem_nil, or_false, Prod.mk.injEq] at mem
  -- Only the catalog and the configuration are written for a destination.
  rcases mem with ⟨rfl, rfl⟩ | ⟨rfl, rfl⟩
  · refine ⟨text', standing.catalog makes, fun not => unwritten fun written => not ?_⟩
    rw [List.map_append]
    exact List.mem_append_left _ written
  · exact ⟨_, standing.overwrite makes, fun not => absurd (by simp) not⟩

/-- A write that fails leaves the files in place that it leaves whole. -/
theorem Overwriting.fail {done rest : List (String × String)} {name : String} {fault : Fault}
    (h : Overwriting config c context done s)
    (split : (descriptor c .destination .write context).files.entries =
      done ++ (name, text) :: rest)
    (answers : Answers s (.keeper (.host (.writeFile (join (directory config c context) name)
      (Text.bytes text)))) (.error fault) u) :
    Known config c context u := by
  obtain ⟨effect, tree, host, rfl⟩ := exists_of_host answers
  obtain ⟨ok, -⟩ | ⟨_, -, rfl | ⟨part, rfl⟩⟩ := host.of_writeFile
  · cases ok
  · exact h.known.idles (.idle rfl rfl host.makes)
  obtain ⟨text', standing, unwritten⟩ := h
  have ordered := (descriptor c .destination .write context).files.ordered
  rw [split, List.pairwise_append] at ordered
  have mem : (name, text) ∈ (descriptor c .destination .write context).files.entries := by
    simp [split]
  simp only [destinationFiles, List.mem_cons, List.not_mem_nil, or_false, Prod.mk.injEq] at mem
  rcases mem with ⟨rfl, rfl⟩ | ⟨rfl, rfl⟩
  · refine standing.known.leftPart isName_catalogFile (fun file mem isCatalog => ?_) host.makes
    exact standing.others file mem (by rw [isCatalog]; decide)
  · have notYet : configFile ∉ done.map Prod.fst := by
      rintro written
      obtain ⟨file, before, isConfig⟩ := List.mem_map.1 written
      exact String.ne_of_lt (ordered.2.2 file before _ List.mem_cons_self) isConfig
    obtain rfl := unwritten notYet
    refine standing.known.leftPart isName_configFile (fun file mem isConfig => ?_) host.makes
    exact (standing.inPlace_iff.2 rfl) file mem

/-- The destination's files are written over the source's, which go when it does not start. -/
def destinationCreation (config : Launch.Config) (c : Connection) (context : AttemptContext) :
    Creation KeeperAnswers (directory config c context)
      (descriptor c .destination .write context).files.entries where
  always s := Known config c context s
  ready s := Standing config c context c.source.config.render s
  upTo done s := Overwriting config c context done s
  failed _ s := Known config c context s
  always_of_ready h := h.known
  always_of_upTo h := h.known
  always_of_failed h := h
  look h answers := h.idles (idles_of_run answers)
  refuse h _ := h.known
  make h answers := ⟨_, h.idles (idles_of_createDirectories answers), fun _ => rfl⟩
  unmade h answers := (h.idles (idles_of_createDirectories answers)).known
  write split h answers := h.write split answers
  unwritten split h answers := h.fail split answers
  start h answers := by
    obtain ⟨text, standing, unwritten⟩ := h
    exact ⟨text, standing.idles (idles_of_spawn answers), unwritten⟩
  clean h answers := by
    obtain ⟨effect, tree, host, rfl⟩ := exists_of_host answers
    obtain ⟨gone, rfl, -⟩ := host.of_removeDirectory
    obtain rfl : tree = _ := host.makes
    exact h.known.removed

/-! ### The run of an attempt -/

theorem exact_of_notLaunched (notLaunched : ∀ source, .launched 0 source ∉ s.past) :
    Exact c context s :=
  fun source launched => absurd launched (notLaunched source)

/-- From its destruction on, the source's files are no matter any more. -/
theorem throughout_destroy {α : Type} {cs : List Container}
    {k : Except Workload.Error Unit → Doing α} (h : Known config c context s) :
    around.Throughout (Exact c context) (fun _ _ => True)
      (overContainers config cs (demand (.destroy 0) >>= k)) s := by
  show around.Throughout _ _ (overContainers config cs (.ask (.destroy 0) k)) s
  rw [overContainers]
  refine .request h.exact fun reply t answers => ?_
  rw [eq_of_apart answers fun _ same => by cases same]
  have afterwards {s : Course} (ending : .ending 0 ∈ s.past) : Exact c context s :=
    fun _ _ running => absurd ending running
  have kept {s : Course} (ending : .ending 0 ∈ s.past) (d : Session α) :
      around.Throughout (fun s => .ending 0 ∈ s.past) (fun _ s => .ending 0 ∈ s.past) d s :=
    .of_keeps (fun mem answers => mem_past_of_answers mem answers) d ending
  have ending : .ending 0 ∈ (s.after s.tree ⟨.ending 0, reply, .nothing⟩).past :=
    List.mem_append_right _ (List.mem_singleton_self _)
  exact .mono (kept ending _) (fun _ => afterwards) fun _ _ _ => trivial

theorem throughout_execute (config : Launch.Config) (isSync : context.isReset = false)
    (t : Files.Tree) :
    around.Throughout (Exact c context) (fun _ _ => True)
      (overContainers config [] (execute (some c) context)) { tree := t } := by
  unfold execute launchSource
  simp only [isSync, Bool.false_eq_true, if_false, bind_assoc]
  refine throughout_launch (sourceCreation config c context) (fun _ => exact_of_notLaunched)
    (exact_of_notLaunched nofun) ?_ ?_ ?_
  · intro suffix
    exact (unlaunched_first t).idles (.idle rfl rfl (.refl _))
  · intro e s notLaunched
    exact .done (exact_of_notLaunched notLaunched) trivial
  intro source s home filled
  have standing := standing_of_launch filled.1 home filled.2
  refine throughout_launch (destinationCreation config c context) (fun _ h => h.exact)
    standing.known.exact ?_ ?_ ?_
  · intro suffix
    exact standing.idles (.idle rfl rfl (.refl _))
  · intro e t known
    exact throughout_destroy known
  intro destination t _ overwritten
  have known := overwritten.known.idles (.idle (e := .launched 1 destination) rfl rfl (.refl _))
  refine throughout_quiet (within_pump (some 0) 1) (fun _ h => h.exact) ?_ known ?_
  · intro s d reply known
    exact known.idles (.idle rfl rfl (.refl _))
  · intro result t known
    exact throughout_destroy known

/-- From the creation of the source's container to its destruction, its input files are in its
directory as they were given to it exactly as long as no removal has taken one of them, a write to
one of them that failed has left the whole of it, and the destination's configuration either was not
written there or is the source's. -/
theorem inputsInPlace_iff {t : Files.Tree} {source : Container}
    {s : Scene (Except ActivityError AttemptOutcome)} (isSync : context.isReset = false)
    (steps : around.Steps (first config (some c) context t) s)
    (launched : .launched 0 source ∈ s.state.past) (running : .ending 0 ∉ s.state.past) :
    InPlace s.state.tree source.jobRoot (descriptor c .source .read context) ↔
      Unharmed s.state source.jobRoot (descriptor c .source .read context) ∧
        (.wrote source.jobRoot configFile c.destination.config.render ∈ s.state.past →
          c.source.config.render = c.destination.config.render) := by
  have reached := (throughout_execute config isSync t).steps steps
  exact reached.now source launched running

end

/-! ### An attempt whose destination was launched -/

/-- A connection of two connectors with different configurations. -/
def sampleConnection : Connection where
  id := Uuid.zero
  source := { image := "source", config := .object [("user", .string "reader")] }
  destination := { image := "destination", config := .object [("user", .string "writer")] }

def sampleContext : AttemptContext := ⟨sampleConnection.id, 1, 1, false⟩

/-- The moment when the destination's files are written, in an empty workspace. -/
def sampleScene : Scene (Except ActivityError AttemptOutcome) :=
  Surroundings.served reply 12
    (first { workspaceRoot := "/w" } (some sampleConnection) sampleContext {})

theorem sampleScene_steps :
    around.Steps (first { workspaceRoot := "/w" } (some sampleConnection) sampleContext {})
      sampleScene :=
  Surroundings.steps_served answers_reply 12 _

theorem sampleScene_launched :
    ∃ source, .launched 0 source ∈ sampleScene.state.past ∧ source.jobRoot = "/w/1/1" := by
  have launched : (launches sampleScene.state.past).map (fun l => (l.1, l.2.jobRoot)) =
      [(0, "/w/1/1")] := by decide +kernel
  obtain ⟨⟨h, source⟩, mem, same⟩ := List.mem_map.1 (launched ▸ List.mem_singleton_self _)
  obtain ⟨rfl, home⟩ := Prod.mk.inj same
  exact ⟨source, launched_mem_iff.2 mem, home⟩

theorem sampleScene_running : .ending 0 ∉ sampleScene.state.past := by
  rw [ending_mem_iff]
  decide +kernel

theorem inputsInPlace_iff_of_sample :
    ∃ source, sampleContext.isReset = false ∧ .launched 0 source ∈ sampleScene.state.past ∧
      .ending 0 ∉ sampleScene.state.past ∧
      (InPlace sampleScene.state.tree source.jobRoot
          (descriptor sampleConnection .source .read sampleContext) ↔
        Unharmed sampleScene.state source.jobRoot
            (descriptor sampleConnection .source .read sampleContext) ∧
          (.wrote source.jobRoot configFile sampleConnection.destination.config.render ∈
              sampleScene.state.past →
            sampleConnection.source.config.render =
              sampleConnection.destination.config.render)) := by
  obtain ⟨source, launched, -⟩ := sampleScene_launched
  exact ⟨source, rfl, launched, sampleScene_running,
    inputsInPlace_iff rfl sampleScene_steps launched sampleScene_running⟩

/-- The source does not keep its input files: once the destination's are written, it finds the
configuration of the destination. -/
theorem sourceConfig_overwritten :
    ¬ ∀ (config : Launch.Config) (c : Connection) (context : AttemptContext) (t : Files.Tree)
      (source : Container) (s : Scene (Except ActivityError AttemptOutcome)),
      context.isReset = false → around.Steps (first config (some c) context t) s →
      .launched 0 source ∈ s.state.past → .ending 0 ∉ s.state.past →
      InPlace s.state.tree source.jobRoot (descriptor c .source .read context) := by
  intro kept
  obtain ⟨source, launched, home⟩ := sampleScene_launched
  have inPlace := kept _ _ _ _ source _ rfl sampleScene_steps launched sampleScene_running
  have holds := inPlace (configFile, sampleConnection.source.config.render) config_mem_sourceFiles
  rw [home] at holds
  have other : sampleScene.state.tree.entry?
      (sampleScene.state.tree.placeOf (join "/w/1/1" configFile)) ≠
      some (.file (Text.bytes sampleConnection.source.config.render)) := by decide +kernel
  exact other holds

end ConnectorSync.Docker
