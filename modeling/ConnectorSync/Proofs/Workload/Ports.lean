import Mathlib.Algebra.Order.Group.Multiset
import Mathlib.Algebra.Order.Sub.Unbundled.Basic
import ConnectorSync.Proofs.Workload.Launches

/-!
# Ports that are given back once

Attached pods lease two ports each from one pool. A handle gives the ports it holds back all at once,
by the launch that fails or by the first of its callers that closes it. So a port is held by one
handle at a time, however launches and callers of any number of handles take turns.
-/

namespace ConnectorSync.Workload.Pod

open Launch

/-! ### What a talk does with ports -/

section Talks

variable {α β : Type}

/-- A talk gives ports back, one after the other, and has then ended. -/
def Returns (Ends : α → Prop) : List Port → Talk α → Prop
  | [], .done a => Ends a
  | port :: left, .ask (.offerPort given) next => given = port ∧ Returns Ends left (next ())
  | _, _ => False

/-- The ports that a talk gives back before it asks anything else. -/
def pending : Talk α → List Port
  | .ask (.offerPort port) next => port :: pending (next ())
  | _ => []

/-- A talk minds the ports that its handle holds. It leases more only if it may, and gives back all
there are and then ends; if it has to ask for the release first, only if it is the first to ask. -/
def Minds (leasing : Prop) (Held : List Port → α → Prop) (Ends : α → Prop) :
    List Port → Talk α → Prop
  | held, .done a => Held held a
  | held, .ask .takePort next => leasing ∧ Minds leasing Held Ends held (next none) ∧
      ∀ port, Minds leasing Held Ends (held ++ [port]) (next (some port))
  | held, .ask (.offerPort port) next => leasing ∧ Returns Ends held (.ask (.offerPort port) next)
  | held, .ask .release next => Returns Ends held (next true) ∧
      (¬ leasing → Minds leasing Held Ends held (next false))
  | held, .ask _ next => ∀ a, Minds leasing Held Ends held (next a)

def Untouched : Request → Prop
  | .takePort | .offerPort _ | .release => False
  | _ => True

variable {leasing : Prop} {Held : List Port → α → Prop} {Ends : α → Prop} {held left : List Port}
  {d : Talk α}

theorem minds_untouched {r : Request} {next : r.Answer → Talk α} (untouched : Untouched r) :
    Minds leasing Held Ends held (.ask r next) ↔ ∀ a, Minds leasing Held Ends held (next a) := by
  cases r with
  | takePort | offerPort | release => exact untouched.elim
  | _ => exact .rfl

theorem Returns.pending (h : Returns Ends left d) : pending d = left := by
  induction left generalizing d with
  | nil =>
    cases d with
    | done a => rfl
    | ask r next => exact h.elim
  | cons port left ih =>
    cases d with
    | done a => exact h.elim
    | ask r next =>
      cases r with
      | offerPort given =>
        obtain ⟨rfl, h⟩ := h
        exact congrArg (given :: ·) (ih h)
      | _ => exact h.elim

theorem Minds.pending (idle : ¬ leasing) (h : Minds leasing Held Ends held d) : pending d = [] := by
  cases d with
  | done a => rfl
  | ask r next =>
    cases r with
    | offerPort port => exact absurd h.1 idle
    | _ => rfl

theorem Returns.bind {Ends' : β → Prop} {f : α → Talk β} (h : Returns Ends left d)
    (ends : ∀ a, Ends a → ∃ b, f a = .done b ∧ Ends' b) : Returns Ends' left (d >>= f) := by
  induction left generalizing d with
  | nil =>
    cases d with
    | done a =>
      obtain ⟨b, same, ended⟩ := ends a h
      show Returns Ends' [] (f a)
      rw [same]
      exact ended
    | ask r next => exact h.elim
  | cons port left ih =>
    cases d with
    | done a => exact h.elim
    | ask r next =>
      cases r with
      | offerPort given => exact ⟨h.1, ih h.2⟩
      | _ => exact h.elim

theorem Minds.bind {Held' : List Port → β → Prop} {Ends' : β → Prop} {f : α → Talk β}
    (h : Minds leasing Held Ends held d)
    (go : ∀ held a, Held held a → Minds leasing Held' Ends' held (f a))
    (ends : ∀ a, Ends a → ∃ b, f a = .done b ∧ Ends' b) :
    Minds leasing Held' Ends' held (d >>= f) := by
  induction d generalizing held with
  | done a => exact go held a h
  | ask r next ih =>
    cases r with
    | takePort =>
      obtain ⟨may, empty, leased⟩ := h
      exact ⟨may, ih none empty, fun port => ih (some port) (leased port)⟩
    | offerPort port => exact ⟨h.1, h.2.bind ends⟩
    | release => exact ⟨h.1.bind ends, fun idle => ih false (h.2 idle)⟩
    | _ => exact fun a => ih a (h a)

theorem minds_of_within {Found : α → Prop} (h : d.Within Untouched Found) :
    Minds leasing (fun now a => now = held ∧ Found a) Ends held d := by
  induction d with
  | done a => exact ⟨rfl, h⟩
  | ask r next ih => exact (minds_untouched h.1).2 fun a => ih a (h.2 a)

end Talks

/-! ### Launches and calls -/

section Calls

theorem returns_offerAll (ports : List Port) :
    Returns (fun _ => True) ports (Attached.offerAll ports) := by
  induction ports with
  | nil => exact trivial
  | cons port ports ih => exact ⟨rfl, ih⟩

theorem minds_close {leasing : Prop} {Held : List Port → Bool → Prop} (p : Attached)
    (later : ¬ leasing → Held p.leased false) :
    Minds leasing Held (fun _ => True) p.leased p.close := by
  refine ⟨?_, later⟩
  exact (returns_offerAll p.leased).bind fun _ _ => ⟨true, rfl, trivial⟩

theorem minds_lease (config : Config) (d : Descriptor) (name : String) :
    Minds True (fun held result => match result with
      | .error _ => held = []
      | .ok p => p.leased = held) (fun result => ∃ e, result = .error e) []
      (Attached.lease config d name) := by
  refine ⟨trivial, rfl, fun stdout => ⟨trivial, ?_, fun stderr => ?_⟩⟩
  · refine ⟨trivial, (returns_offerAll [stdout]).bind fun _ _ => ?_⟩
    exact ⟨_, rfl, _, rfl⟩
  · intro relay
    cases relay with
    | ok relay => exact rfl
    | error fault =>
      refine ⟨trivial, (returns_offerAll [stdout, stderr]).bind fun _ _ => ?_⟩
      exact ⟨_, rfl, _, rfl⟩

theorem Startup.untouched {relayed : Bool} {key : Cluster.PodKey} {r : Request}
    (h : Startup relayed key r) : Untouched r := by
  cases r with
  | takePort | offerPort | release => exact h.elim
  | _ => exact trivial

theorem Looks.untouched {key : Cluster.PodKey} {r : Request} (h : Looks key r) : Untouched r := by
  cases r with
  | takePort | offerPort | release => exact h.elim
  | _ => exact trivial

def Attached.Launching.leased : Attached.Launching → List Port
  | .asked => []
  | .starting p _ => p.leased

def Stage.leased : Stage → List Port
  | .attached stage => stage.leased
  | .detached _ => []

def Keeper.leased : Keeper → List Port
  | .attached p => p.leased
  | .detached _ => []

def Leased (held : List Port) : Stage ⊕ Except Launch.Error Keeper → Prop
  | .inl stage => stage.leased = held
  | .inr (.ok k) => k.leased = held
  | .inr (.error _) => held = []

def Fails {α β : Type} (result : α ⊕ Except Launch.Error β) : Prop := ∃ e, result = .inr (.error e)

theorem Attached.minds_create (config : Config) (d : Descriptor) (name : String)
    (stage : Launching) :
    Minds True (fun held result => Leased held (result.map .attached (·.map .attached))) Fails
      stage.leased (create config d name stage) := by
  cases stage with
  | asked =>
    refine (minds_lease config d name).bind (fun held result leased => ?_) fun result failed => ?_
    · cases result with
      | error e => exact leased
      | ok p => exact leased
    · obtain ⟨e, rfl⟩ := failed
      exact ⟨_, rfl, e, rfl⟩
  | starting p stage =>
    have start := (p.within_start config d stage).mono (fun _ => Startup.untouched) fun _ h => h
    refine (minds_of_within start).bind (fun held result same => ?_) fun _ => False.elim
    obtain ⟨rfl, -⟩ := same
    rcases result with stage | (e | done)
    · exact rfl
    · intro deleted
      have close : Minds True (fun _ _ => False) (fun _ => True) p.leased p.close :=
        minds_close p fun idle => idle trivial
      exact close.bind (fun _ _ => False.elim) fun _ _ => ⟨_, rfl, e, rfl⟩
    · exact rfl

theorem Detached.minds_create (config : Config) (d : Descriptor) (name : String)
    (stage : Launching) :
    Minds True (fun held result => Leased held (result.map .detached (·.map .detached))) Fails
      [] (create config d name stage) := by
  have launch := ((attach config name d.image d.workloadId).within_launch config d stage).mono
    (fun _ => Startup.untouched) fun _ h => h
  refine (minds_of_within launch).bind (fun held result same => ?_) fun _ => False.elim
  obtain ⟨rfl, -⟩ := same
  rcases result with stage | (e | done)
  · exact rfl
  · exact fun deleted => rfl
  · exact rfl

theorem minds_launch (h : Handle) (stage : Stage) :
    Minds True Leased Fails stage.leased (h.launch stage) := by
  cases stage with
  | attached stage =>
    refine (Attached.minds_create h.config h.descriptor h.name stage).bind
      (fun held result leased => ?_) fun result failed => ?_
    · rcases result with stage | (e | p)
      · exact leased
      · exact leased
      · exact leased
    · obtain ⟨e, rfl⟩ := failed
      exact ⟨_, rfl, e, rfl⟩
  | detached stage =>
    refine (Detached.minds_create h.config h.descriptor h.name stage).bind
      (fun held result leased => ?_) fun result failed => ?_
    · rcases result with stage | (e | p)
      · exact leased
      · exact leased
      · exact leased
    · obtain ⟨e, rfl⟩ := failed
      exact ⟨_, rfl, e, rfl⟩

abbrev MindsCall {α : Type} : List Port → Talk α → Prop :=
  Minds False (fun _ _ => True) fun _ => True

theorem mindsCall_close (p : Attached) : MindsCall p.leased p.close :=
  minds_close p fun _ => trivial

theorem MindsCall.ending {α β : Type} {held : List Port} {d : Talk α} {f : α → Talk β}
    (h : MindsCall held d) (ends : ∀ a, ∃ b, f a = .done b) : MindsCall held (d >>= f) := by
  refine Minds.bind h (fun held a _ => ?_) fun a _ => ?_
  · obtain ⟨b, same⟩ := ends a
    rw [same]
    exact trivial
  · obtain ⟨b, same⟩ := ends a
    exact ⟨b, same, trivial⟩

theorem mindsCall_looks {α : Type} {held : List Port} {key : Cluster.PodKey} {d : Talk α}
    (h : d.Within (Looks key) fun _ => True) : MindsCall held d := by
  induction d with
  | done a => exact trivial
  | ask r next ih => exact (minds_untouched h.1.untouched).2 fun a => ih a (h.2 a)

theorem minds_serves {k : Keeper} {t : Talk Unit} (h : k.Serves t) : MindsCall k.leased t := by
  cases h with
  | exitValue p =>
    refine MindsCall.ending (fun code => ?_) fun _ => ⟨(), rfl⟩
    cases code with
    | none => exact trivial
    | some code => exact (mindsCall_close p).ending fun _ => ⟨_, rfl⟩
  | waitFor p limit =>
    refine MindsCall.ending (fun code => ?_) fun _ => ⟨(), rfl⟩
    cases code with
    | none => exact trivial
    | some code => exact (mindsCall_close p).ending fun _ => ⟨_, rfl⟩
  | destroy p =>
    intro deleted completed
    exact (mindsCall_close p).ending fun _ => ⟨(), rfl⟩
  | close p => exact (mindsCall_close p).ending fun _ => ⟨(), rfl⟩
  | detachedExitValue p => exact (mindsCall_looks p.within_exitValue).ending fun _ => ⟨(), rfl⟩
  | detachedWaitFor p wait => exact (mindsCall_looks (p.within_waitFor wait)).ending fun _ => ⟨(), rfl⟩
  | detachedDestroy p => exact fun deleted => trivial

end Calls

/-! ### What a handle has given back -/

structure Holding.SamePorts (h h' : Holding) : Prop where
  taken : h'.taken = h.taken
  offered : h'.offered = h.offered
  released : h'.released = h.released

def Standing.Accounts (h : Holding) : Standing → Prop
  | launching rest =>
    (h.released = false ∧ h.offered = [] ∧ Minds True Leased Fails h.taken rest) ∨
      ∃ left, Returns Fails left rest ∧ (h.offered ++ left).Perm h.taken
  | failed _ => h.offered.Perm h.taken
  | kept k talks => k.leased = h.taken ∧
    (∀ t ∈ talks, MindsCall h.taken t ∨ Returns (fun _ => True) (pending t) t) ∧
    (h.released = false → h.offered = [] ∧ talks.flatMap pending = []) ∧
    (h.released = true → (h.offered ++ talks.flatMap pending).Perm h.taken)

section Answers

variable {ι : Type} [DecidableEq ι] {g g' : Ground ι} {i j : ι} {r : Request} {a : r.Answer}
  {h h' : Holding} {s : Standing}

theorem Standing.Accounts.congr (acc : s.Accounts h) (same : h.SamePorts h') : s.Accounts h' := by
  obtain ⟨taken, offered, released⟩ := same
  cases s with
  | launching rest | failed e | kept k talks =>
    simpa only [Accounts, taken, offered, released] using acc

theorem Ground.holding_record_self (g : Ground ι) (i : ι) (r : Request) (a : r.Answer) :
    (g.record i r a).holding i = (g.holding i).after r a :=
  Function.update_self ..

theorem samePorts_of_answers (answers : g.Answers i r a g') :
    ((g.holding i).after r a).SamePorts (g'.holding i) := by
  cases answers with
  | created | refused | deleted => exact ⟨rfl, rfl, rfl⟩
  | spared =>
    have holding : (g.spare i).holding i = { g.holding i with spared := true } :=
      Function.update_self ..
    rw [holding]
    exact ⟨rfl, rfl, rfl⟩
  | took | offered | released | plain =>
    rw [Ground.holding_record_self]
    exact ⟨rfl, rfl, rfl⟩

theorem samePorts_after (untouched : Untouched r) : h.SamePorts (h.after r a) := by
  cases r with
  | takePort | offerPort | release => exact untouched.elim
  | listen ports => cases a <;> exact ⟨rfl, rfl, rfl⟩
  | _ => exact ⟨rfl, rfl, rfl⟩

theorem first_of_release {a : Bool} (answers : g.Answers i .release a g') :
    a = !(g.holding i).released := by
  cases answers with
  | released => rfl
  | plain _ _ isPlain => cases isPlain

theorem Returns.of_ask {α : Type} {Ends : α → Prop} {left : List Port}
    {next : r.Answer → Talk α} (returns : Returns Ends left (.ask r next)) :
    ∃ port rest, left = port :: rest ∧ r = .offerPort port ∧ (h.after r a).taken = h.taken ∧
      (h.after r a).released = h.released ∧ (h.after r a).offered = h.offered ++ [port] ∧
      Returns Ends rest (next a) := by
  cases left with
  | nil => exact returns.elim
  | cons port rest =>
    cases r with
    | offerPort given =>
      obtain ⟨rfl, returns⟩ := returns
      exact ⟨given, rest, rfl, rfl, rfl, rfl, rfl, returns⟩
    | _ => exact returns.elim

theorem accounts_launching {next : r.Answer → Talk (Stage ⊕ Except Launch.Error Keeper)}
    (acc : (Standing.launching (.ask r next)).Accounts (g.holding i))
    (answers : g.Answers i r a g') : (Standing.launching (next a)).Accounts (g'.holding i) := by
  have same := samePorts_of_answers answers
  have offers {left : List Port} (returns : Returns Fails left (.ask r next))
      (perm : ((g.holding i).offered ++ left).Perm (g.holding i).taken) :
      (Standing.launching (next a)).Accounts (g'.holding i) := by
    obtain ⟨port, rest, rfl, -, taken, -, offered, returns⟩ :=
      returns.of_ask (h := g.holding i) (a := a)
    refine .congr (.inr ⟨rest, returns, ?_⟩) same
    rw [taken, offered, List.append_assoc]
    exact perm
  rcases acc with ⟨shut, bare, minds⟩ | ⟨left, returns, perm⟩
  · by_cases untouched : Untouched r
    · have minds := (minds_untouched untouched).1 minds a
      have acc : (Standing.launching (next a)).Accounts (g.holding i) := .inl ⟨shut, bare, minds⟩
      exact (acc.congr (samePorts_after untouched)).congr same
    · cases r with
      | takePort =>
        cases a with
        | none =>
          refine .congr ?_ same
          exact .inl ⟨shut, bare, minds.2.1⟩
        | some port =>
          refine .congr ?_ same
          exact .inl ⟨shut, bare, minds.2.2 port⟩
      | offerPort port => exact offers minds.2 (by rw [bare, List.nil_append])
      | release =>
        have first : a = true := by
          rw [first_of_release answers, shut]
          rfl
        subst first
        refine .congr (.inr ⟨_, minds.1, ?_⟩) same
        show ((g.holding i).offered ++ _).Perm (g.holding i).taken
        rw [bare, List.nil_append]
      | _ => exact absurd trivial untouched
  · exact offers returns perm

theorem perm_gather (given before own later : List Port) :
    (given ++ (before ++ (own ++ later))).Perm ((given ++ own) ++ (before ++ later)) := by
  rw [List.append_assoc]
  exact (List.perm_append_comm_assoc before own later).append_left given

/-- One talk goes on. What it gives back next passes over to what was given back, unless it is the
first to close, which then has all ports to give back. -/
theorem Standing.Accounts.replace {k : Keeper} {before later : List (Talk Unit)} {t t' : Talk Unit}
    (acc : (Standing.kept k (before ++ t :: later)).Accounts h) (taken : h'.taken = h.taken)
    (own : MindsCall h'.taken t' ∨ Returns (fun _ => True) (pending t') t')
    (goesOn : h'.released = h.released ∧ h'.offered ++ pending t' = h.offered ++ pending t ∨
      h.released = false ∧ h'.released = true ∧ h'.offered = h.offered ∧ pending t' = h.taken) :
    (Standing.kept k (before ++ t' :: later)).Accounts h' := by
  obtain ⟨leased, talks, shut, released⟩ := acc
  simp only [List.flatMap_append, List.flatMap_cons] at shut released
  refine ⟨leased.trans taken.symm, fun other listed => ?_, ?_, ?_⟩
  · have others (there : other ∈ before ∨ other ∈ later) :
        MindsCall h'.taken other ∨ Returns (fun _ => True) (pending other) other := by
      rw [taken]
      refine talks other ?_
      simpa using there.imp_right .inr
    rcases List.mem_append.1 listed with ahead | here
    · exact others (.inl ahead)
    · rcases List.mem_cons.1 here with rfl | behind
      · exact own
      · exact others (.inr behind)
  · intro open'
    rw [List.flatMap_append, List.flatMap_cons]
    rcases goesOn with ⟨same, gathered⟩ | ⟨-, closed, -⟩
    · rw [same] at open'
      obtain ⟨bare, nothing⟩ := shut open'
      simp only [List.append_eq_nil_iff] at nothing ⊢
      rw [bare, nothing.2.1, List.append_nil, List.append_eq_nil_iff] at gathered
      exact ⟨gathered.1, nothing.1, gathered.2, nothing.2.2⟩
    · rw [closed] at open'
      cases open'
  · intro closed
    rw [List.flatMap_append, List.flatMap_cons, taken]
    refine (perm_gather ..).trans ?_
    rcases goesOn with ⟨same, gathered⟩ | ⟨open', -, offered, all⟩
    · rw [gathered]
      exact (perm_gather ..).symm.trans (released (same.symm.trans closed))
    · obtain ⟨bare, nothing⟩ := shut open'
      simp only [List.append_eq_nil_iff] at nothing
      rw [offered, bare, all, nothing.1, nothing.2.2]
      simp

theorem accounts_talk {k : Keeper} {before later : List (Talk Unit)}
    {next : r.Answer → Talk Unit}
    (acc : (Standing.kept k (before ++ .ask r next :: later)).Accounts (g.holding i))
    (answers : g.Answers i r a g') :
    (Standing.kept k (before ++ next a :: later)).Accounts (g'.holding i) := by
  have same := samePorts_of_answers answers
  rcases acc.2.1 (.ask r next) (by simp) with minds | returns
  · have bare : pending (.ask r next) = [] := minds.pending id
    by_cases untouched : Untouched r
    · have minds := (minds_untouched untouched).1 minds a
      have still := samePorts_after (h := g.holding i) (a := a) untouched
      refine .congr (acc.replace still.taken (.inl ?_) (.inl ⟨still.released, ?_⟩)) same
      · rw [still.taken]
        exact minds
      · rw [still.offered, bare, minds.pending id]
    · cases r with
      | takePort | offerPort => exact minds.1.elim
      | release =>
        refine .congr ?_ same
        cases closed : (g.holding i).released with
        | true =>
          have second : a = false := by
            rw [first_of_release answers, closed]
            rfl
          subst second
          have minds := minds.2 id
          refine acc.replace rfl (.inl minds) (.inl ⟨closed.symm, ?_⟩)
          rw [bare, minds.pending id]
          rfl
        | false =>
          have first : a = true := by
            rw [first_of_release answers, closed]
            rfl
          subst first
          have all := minds.1.pending
          refine acc.replace rfl (.inr ?_) (.inr ⟨closed, rfl, rfl, all⟩)
          rw [all]
          exact minds.1
      | _ => exact absurd trivial untouched
  · obtain ⟨port, rest, all, -, taken, released, offered, returns⟩ :=
      returns.of_ask (h := g.holding i) (a := a)
    have left := returns.pending
    refine .congr (acc.replace taken (.inr ?_) (.inl ⟨released, ?_⟩)) same
    · rw [left]
      exact returns
    · rw [offered, left, all, List.append_assoc]
      rfl

end Answers

/-! ### Ports that are held apart -/

/-- The ports that were taken and not given back. -/
def Holding.held (h : Holding) : Multiset Port := (h.taken : Multiset Port) - h.offered

structure Apart {ι : Type} (free : List Port) (held : ι → Multiset Port) : Prop where
  distinct : free.Nodup
  each : ∀ i, (held i).Nodup
  others : ∀ i j, i ≠ j → ∀ port ∈ held i, port ∉ held j
  pool : ∀ i, ∀ port ∈ held i, port ∉ free

namespace Apart

variable {ι : Type} {free rest : List Port} {held : ι → Multiset Port} {port : Port} {i : ι}

theorem fewer (h : Apart (free ++ rest) held) : Apart free held :=
  ⟨(List.nodup_append.1 h.distinct).1, h.each, h.others,
    fun i port there listed => h.pool i port there (List.mem_append.2 (.inl listed))⟩

variable [DecidableEq ι]

theorem take (h : Apart (port :: rest) held) (i : ι) :
    Apart rest (Function.update held i (port ::ₘ held i)) := by
  obtain ⟨unlisted, distinct⟩ := List.nodup_cons.1 h.distinct
  have unheld (j : ι) : port ∉ held j := fun there => h.pool j port there List.mem_cons_self
  have arose {j : ι} {p : Port} (there : p ∈ Function.update held i (port ::ₘ held i) j) :
      p ∈ held j ∨ j = i ∧ p = port := by
    by_cases same : j = i
    · subst same
      rw [Function.update_self] at there
      exact (Multiset.mem_cons.1 there).symm.imp_right fun new => ⟨rfl, new⟩
    · rw [Function.update_of_ne same] at there
      exact .inl there
  refine ⟨distinct, fun j => ?_, fun j k other p atJ atK => ?_, fun j p there listed => ?_⟩
  · by_cases same : j = i
    · subst same
      rw [Function.update_self]
      exact Multiset.nodup_cons.2 ⟨unheld j, h.each j⟩
    · rw [Function.update_of_ne same]
      exact h.each j
  · rcases arose atJ with heldJ | ⟨rfl, rfl⟩ <;> rcases arose atK with heldK | ⟨rfl, new⟩
    · exact h.others j k other p heldJ heldK
    · exact unheld j (new ▸ heldJ)
    · exact unheld k heldK
    · exact other rfl
  · rcases arose there with before | ⟨-, rfl⟩
    · exact h.pool j p before (List.mem_cons_of_mem _ listed)
    · exact unlisted listed

theorem give (h : Apart free held) (there : port ∈ held i) :
    Apart (free ++ [port]) (Function.update held i ((held i).erase port)) := by
  have kept {j : ι} {p : Port} (left : p ∈ Function.update held i ((held i).erase port) j) :
      p ∈ held j ∧ p ≠ port := by
    by_cases same : j = i
    · subst same
      rw [Function.update_self] at left
      obtain ⟨different, before⟩ := (h.each j).mem_erase_iff.1 left
      exact ⟨before, different⟩
    · rw [Function.update_of_ne same] at left
      refine ⟨left, ?_⟩
      rintro rfl
      exact h.others j i same p left there
  refine ⟨?_, fun j => ?_, fun j k other p atJ atK => ?_, fun j p left listed => ?_⟩
  · exact List.nodup_append.2 ⟨h.distinct, List.nodup_singleton port, by
      rintro p listed q here rfl
      rw [List.mem_singleton.1 here] at listed
      exact h.pool i port there listed⟩
  · by_cases same : j = i
    · subst same
      rw [Function.update_self]
      exact (h.each j).erase port
    · rw [Function.update_of_ne same]
      exact h.each j
  · exact h.others j k other p (kept atJ).1 (kept atK).1
  · obtain ⟨before, different⟩ := kept left
    rcases List.mem_append.1 listed with inPool | new
    · exact h.pool j p before inPool
    · exact different (List.mem_singleton.1 new)

end Apart

def Ground.Separate {ι : Type} (g : Ground ι) : Prop :=
  ∃ free, g.pool = .bounded free ∧ Apart free fun i => (g.holding i).held

section Pool

variable {ι : Type} [DecidableEq ι] {g g' : Ground ι} {i : ι} {r : Request} {a : r.Answer}

theorem Holding.SamePorts.held {h h' : Holding} (same : h.SamePorts h') : h'.held = h.held := by
  rw [Holding.held, same.taken, same.offered, Holding.held]

theorem held_of_answers (answers : g.Answers i r a g') :
    (fun j => (g'.holding j).held) =
      Function.update (fun j => (g.holding j).held) i ((g.holding i).after r a).held := by
  funext j
  by_cases same : j = i
  · subst same
    rw [Function.update_self]
    exact (samePorts_of_answers answers).held
  · rw [Function.update_of_ne same, (Ground.happens_of_other answers same).1]

theorem pool_of_answers (answers : g.Answers i r a g') (pooled : r ≠ .takePort)
    (given : ∀ port, r ≠ .offerPort port) : g'.pool = g.pool := by
  cases answers with
  | took => exact absurd rfl pooled
  | offered port => exact absurd rfl (given port)
  | _ => rfl

theorem pool_of_take {a : Option Port} (answers : g.Answers i .takePort a g') :
    a = g.pool.take.1 ∧ g'.pool = g.pool.take.2 := by
  cases answers with
  | took => exact ⟨rfl, rfl⟩
  | plain _ _ isPlain => cases isPlain

theorem pool_of_offer {port : Port} {a : Unit} (answers : g.Answers i (.offerPort port) a g') :
    g'.pool = g.pool.offer port := by
  cases answers with
  | offered => rfl
  | plain _ _ isPlain => cases isPlain

theorem held_take {h : Holding} {port : Port} (le : (h.offered : Multiset Port) ≤ h.taken) :
    (h.after .takePort (some port)).held = port ::ₘ h.held := by
  have taken : ((h.taken ++ [port] : List Port) : Multiset Port) = {port} + h.taken := by
    rw [← Multiset.coe_add, add_comm]
    rfl
  show ((h.taken ++ [port] : List Port) : Multiset Port) - h.offered = port ::ₘ h.held
  rw [taken, add_tsub_assoc_of_le le]
  rfl

theorem held_offer {h : Holding} {port : Port} :
    (h.after (.offerPort port) ()).held = h.held.erase port := by
  have offered : ((h.offered ++ [port] : List Port) : Multiset Port) = h.offered + {port} := by
    rw [← Multiset.coe_add]
    rfl
  show (h.taken : Multiset Port) - (h.offered ++ [port] : List Port) = h.held.erase port
  rw [offered, ← tsub_tsub, Multiset.sub_singleton]
  rfl

theorem Ground.Separate.answered (separate : g.Separate) (answers : g.Answers i r a g')
    (took : r = .takePort → ((g.holding i).offered : Multiset Port) ≤ (g.holding i).taken)
    (offers : ∀ port, r = .offerPort port → port ∈ (g.holding i).held) : g'.Separate := by
  obtain ⟨free, pool, apart⟩ := separate
  have held := held_of_answers answers
  by_cases untouched : Untouched r
  · have same : g'.pool = g.pool := pool_of_answers answers
      (by rintro rfl; exact untouched) (by rintro port rfl; exact untouched)
    refine ⟨free, same.trans pool, ?_⟩
    rw [held, (samePorts_after (h := g.holding i) (a := a) untouched).held,
      Function.update_eq_self]
    exact apart
  · cases r with
    | release =>
      have same : g'.pool = g.pool := pool_of_answers answers nofun nofun
      refine ⟨free, same.trans pool, ?_⟩
      have still : ((g.holding i).after .release a).held = (g.holding i).held := rfl
      rw [held, still, Function.update_eq_self]
      exact apart
    | takePort =>
      obtain ⟨told, same⟩ := pool_of_take answers
      rw [pool] at told same
      cases free with
      | nil =>
        obtain rfl : a = none := told
        refine ⟨[], same, ?_⟩
        have still : ((g.holding i).after .takePort none).held = (g.holding i).held := rfl
        rw [held, still, Function.update_eq_self]
        exact apart
      | cons port rest =>
        obtain rfl : a = some port := told
        refine ⟨rest, same, ?_⟩
        rw [held, held_take (took rfl)]
        exact apart.take i
    | offerPort port =>
      have same := pool_of_offer answers
      rw [pool] at same
      have given := apart.give (offers port rfl)
      have held : (fun j => (g'.holding j).held) =
          Function.update (fun j => (g.holding j).held) i ((g.holding i).held.erase port) := by
        rw [held, held_offer]
      by_cases zero : port = 0
      · rw [PortPool.offer, if_pos zero] at same
        refine ⟨free, same, ?_⟩
        rw [held]
        exact given.fewer
      · rw [PortPool.offer, if_neg zero] at same
        refine ⟨free ++ [port], same, ?_⟩
        rw [held]
        exact given
    | _ => exact absurd trivial untouched

end Pool

/-! ### Runs -/

section Held

variable {h : Holding} {left : List Port}

theorem held_of_perm (perm : (h.offered ++ left).Perm h.taken) : h.held = left := by
  have taken : (h.taken : Multiset Port) = h.offered + left := by
    rw [Multiset.coe_add]
    exact (Multiset.coe_eq_coe.2 perm).symm
  rw [Holding.held, taken, add_tsub_cancel_left]

theorem offered_le_of_perm (perm : (h.offered ++ left).Perm h.taken) :
    (h.offered : Multiset Port) ≤ h.taken :=
  Multiset.coe_le.2 ((List.sublist_append_left h.offered left).subperm.trans perm.subperm)

theorem offered_le_of_bare (bare : h.offered = []) : (h.offered : Multiset Port) ≤ h.taken := by
  rw [bare]
  exact Multiset.zero_le _

theorem Standing.Accounts.offered_le {s : Standing} (acc : s.Accounts h) :
    (h.offered : Multiset Port) ≤ h.taken := by
  cases s with
  | launching rest =>
    rcases acc with ⟨-, bare, -⟩ | ⟨left, -, perm⟩
    · exact offered_le_of_bare bare
    · exact offered_le_of_perm perm
  | failed e => exact Multiset.coe_le.2 (List.Perm.subperm acc)
  | kept k talks =>
    obtain ⟨-, -, shut, released⟩ := acc
    cases closed : h.released with
    | false => exact offered_le_of_bare (shut closed).1
    | true => exact offered_le_of_perm (released closed)

theorem mem_held_of_launching {port : Port}
    {next : Unit → Talk (Stage ⊕ Except Launch.Error Keeper)}
    (acc : (Standing.launching (.ask (.offerPort port) next)).Accounts h) : port ∈ h.held := by
  have offers {left : List Port} (returns : Returns Fails left (.ask (.offerPort port) next))
      (perm : (h.offered ++ left).Perm h.taken) : port ∈ h.held := by
    rw [held_of_perm perm, ← returns.pending]
    exact List.mem_cons_self
  rcases acc with ⟨-, bare, minds⟩ | ⟨left, returns, perm⟩
  · exact offers minds.2 (by rw [bare, List.nil_append])
  · exact offers returns perm

theorem mem_held_of_talk {port : Port} {k : Keeper} {before later : List (Talk Unit)}
    {next : Unit → Talk Unit}
    (acc : (Standing.kept k (before ++ .ask (.offerPort port) next :: later)).Accounts h) :
    port ∈ h.held := by
  obtain ⟨-, -, shut, released⟩ := acc
  have asked : port ∈ (before ++ .ask (.offerPort port) next :: later).flatMap pending := by
    refine List.mem_flatMap.2 ⟨.ask (.offerPort port) next, by simp, ?_⟩
    exact List.mem_cons_self
  cases closed : h.released with
  | false =>
    rw [(shut closed).2] at asked
    cases asked
  | true =>
    rw [held_of_perm (released closed)]
    exact asked

end Held

structure Yard.Tidy {ι : Type} (y : Yard ι) : Prop where
  accounts : ∀ i, (y.standing i).Accounts (y.ground.holding i)
  separate : y.ground.Separate

theorem Yard.tidy_first {ι : Type} (handles : ι → Handle) {ports : List Port}
    (distinct : ports.Nodup) : (first handles (.bounded ports)).Tidy := by
  refine ⟨fun i => .inl ⟨rfl, rfl, ?_⟩, ports, rfl, distinct, ?_, ?_, ?_⟩
  · have bare : (handles i).first.leased = [] := by
      unfold Handle.first
      split <;> rfl
    have launch := minds_launch (handles i) (handles i).first
    rw [bare] at launch
    exact launch
  · exact fun _ => Multiset.nodup_zero
  · exact fun _ _ _ port held => absurd held (Multiset.notMem_zero port)
  · exact fun _ port held => absurd held (Multiset.notMem_zero port)

section Runs

variable {ι : Type} [DecidableEq ι] {handles : ι → Handle} {y y' : Yard ι}

theorem Yard.Tidy.stand {i : ι} {s : Standing} {ground : Ground ι} (tidy : y.Tidy)
    (own : s.Accounts (ground.holding i))
    (others : ∀ k, k ≠ i → ground.holding k = y.ground.holding k) (separate : ground.Separate) :
    (y.stand i s ground).Tidy := by
  refine ⟨fun k => ?_, separate⟩
  by_cases same : k = i
  · subst same
    rw [standing_stand_self]
    exact own
  · rw [standing_stand_of_ne y s ground same]
    show (y.standing k).Accounts (ground.holding k)
    rw [others k same]
    exact tidy.accounts k

theorem Yard.Tidy.rest {i : ι} {s : Standing} (tidy : y.Tidy)
    (own : s.Accounts (y.ground.holding i)) : (y.stand i s y.ground).Tidy :=
  tidy.stand own (fun _ _ => rfl) tidy.separate

theorem Yard.Tidy.answered {i : ι} {s : Standing} {r : Request} {a : r.Answer} {ground : Ground ι}
    (tidy : y.Tidy) (answers : y.ground.Answers i r a ground)
    (offers : ∀ port, r = .offerPort port → port ∈ (y.ground.holding i).held)
    (own : s.Accounts (ground.holding i)) : (y.stand i s ground).Tidy := by
  refine tidy.stand own (fun k other => (Ground.happens_of_other answers other).1) ?_
  exact tidy.separate.answered answers (fun _ => (tidy.accounts i).offered_le) offers

/-- A port changes hands only through the pool, whichever handle goes on. -/
theorem Yard.Tidy.step (tidy : y.Tidy) (step : Step handles y y') : y'.Tidy := by
  have own {i : ι} {s : Standing} (there : y.standing i = s) :
      s.Accounts (y.ground.holding i) := there ▸ tidy.accounts i
  cases step with
  | vanish key => exact ⟨tidy.accounts, tidy.separate⟩
  | answer there answers =>
    refine tidy.answered answers ?_ (accounts_launching (own there) answers)
    rintro port rfl
    exact mem_held_of_launching (own there)
  | @turn i stage there =>
    rcases own there with ⟨shut, bare, leased⟩ | ⟨left, returns, -⟩
    · refine tidy.rest (.inl ⟨shut, bare, ?_⟩)
      have leased : stage.leased = (y.ground.holding i).taken := leased
      rw [← leased]
      exact minds_launch (handles i) stage
    · cases left with
      | nil =>
        obtain ⟨e, same⟩ : Fails _ := returns
        cases same
      | cons port left => exact returns.elim
  | @fail i e there =>
    rcases own there with ⟨-, bare, leased⟩ | ⟨left, returns, perm⟩
    · have empty : (y.ground.holding i).taken = [] := leased
      refine tidy.rest ?_
      show ((y.ground.holding i).offered).Perm (y.ground.holding i).taken
      rw [bare, empty]
    · cases left with
      | nil =>
        rw [List.append_nil] at perm
        exact tidy.rest perm
      | cons port left => exact returns.elim
  | keep there =>
    rcases own there with ⟨shut, bare, leased⟩ | ⟨left, returns, -⟩
    · refine tidy.rest ⟨leased, nofun, fun _ => ⟨bare, rfl⟩, fun closed => ?_⟩
      rw [shut] at closed
      cases closed
    · cases left with
      | nil =>
        obtain ⟨e, same⟩ : Fails _ := returns
        cases same
      | cons port left => exact returns.elim
  | @serve i k talks t there serves =>
    obtain ⟨leased, minded, shut, released⟩ := own there
    have minds : MindsCall (y.ground.holding i).taken t := leased ▸ minds_serves serves
    have bare : pending t = [] := minds.pending id
    refine tidy.rest ⟨leased, fun other listed => ?_, ?_, ?_⟩
    · rcases List.mem_cons.1 listed with rfl | before
      · exact .inl minds
      · exact minded other before
    · rw [List.flatMap_cons, bare]
      exact shut
    · rw [List.flatMap_cons, bare]
      exact released
  | talk there answers =>
    refine tidy.answered answers ?_ (accounts_talk (own there) answers)
    rintro port rfl
    exact mem_held_of_talk (own there)

theorem Yard.Tidy.steps (tidy : y.Tidy) (steps : Steps handles y y') : y'.Tidy := by
  induction steps with
  | refl => exact tidy
  | tail _ step ih => exact ih.step step

/-- What a handle has given back of the ports it took. A launch gives nothing back unless it is about
to fail, and all of them by then; a kept pod gives nothing back until the first of its callers closes
it, and all of them from there on. -/
def Standing.GivesBack (h : Holding) : Standing → Prop
  | launching rest =>
    h.offered = [] ∨ ∃ left, Returns Fails left rest ∧ (h.offered ++ left).Perm h.taken
  | failed _ => h.offered.Perm h.taken
  | kept _ talks =>
    if h.released then (h.offered ++ talks.flatMap pending).Perm h.taken else h.offered = []

theorem Standing.Accounts.givesBack {h : Holding} {s : Standing} (acc : s.Accounts h) :
    s.GivesBack h := by
  cases s with
  | launching rest => exact acc.imp_left fun open' => open'.2.1
  | failed e => exact acc
  | kept k talks =>
    obtain ⟨-, -, shut, released⟩ := acc
    by_cases closed : h.released = true
    · rw [GivesBack, if_pos closed]
      exact released closed
    · rw [GivesBack, if_neg closed]
      exact (shut (Bool.eq_false_iff.2 closed)).1

/-- Handles that lease from one pool of distinct ports give each port that they took back once, when
their launch fails or when they are closed first, and not before; and no port is held by two of them,
however their launches and calls take turns. -/
theorem ports_given_back_once {ports : List Port} (distinct : ports.Nodup)
    (steps : Yard.Steps handles (.first handles (.bounded ports)) y) :
    (∀ i, (y.standing i).GivesBack (y.ground.holding i)) ∧
      (∀ i, (y.ground.holding i).held.Nodup) ∧
      ∀ i j, i ≠ j → ∀ port ∈ (y.ground.holding i).held, port ∉ (y.ground.holding j).held := by
  have tidy := (Yard.tidy_first handles distinct).steps steps
  obtain ⟨free, -, apart⟩ := tidy.separate
  exact ⟨fun i => (tidy.accounts i).givesBack, apart.each, apart.others⟩

end Runs

/-! ### Runs that can be computed -/

section Computed

variable {ι : Type} [DecidableEq ι]

def Yard.close (y : Yard ι) (i : ι) : Yard ι :=
  match y.standing i with
  | .kept (.attached p) talks =>
    y.stand i (.kept (.attached p) ((do let _ ← p.close) :: talks)) y.ground
  | _ => y

def Yard.converse (i : ι) : Nat → Yard ι → Yard ι
  | 0, y => y
  | n + 1, y =>
    match y.standing i with
    | .kept k (.ask r next :: later) =>
      match y.ground.reply none i r with
      | some (a, ground) => converse i n (y.stand i (.kept k (next a :: later)) ground)
      | none => y
    | _ => y

theorem Yard.steps_close (handles : ι → Handle) (y : Yard ι) (i : ι) :
    Steps handles y (y.close i) := by
  unfold close
  split
  · next p talks there => exact .single (.serve there (.close p))
  · exact .refl

theorem Yard.steps_converse (handles : ι → Handle) (i : ι) (n : Nat) (y : Yard ι) :
    Steps handles y (y.converse i n) := by
  induction n generalizing y with
  | zero => exact .refl
  | succ n ih =>
    unfold converse
    split
    · next k r next later there =>
      split
      · next a ground replied =>
        have there : y.standing i = .kept k ([] ++ .ask r next :: later) := there
        exact .head (.talk there (Ground.answers_reply replied)) (ih _)
      · exact .refl
    · exact .refl

end Computed

def started : Cluster.PodStatus where
  phase := .running
  initContainers := [{ name := initContainer, running := true }]
  containers := [{ name := mainContainer, running := true, ready := true }]

/-- The launch of one handle fails, another one leases the same ports for a pod that starts, and that
one is closed. -/
def Yard.inTurn : Yard Bool :=
  let handles (_ : Bool) : Handle := .sample
  ((((first handles (.bounded [9877, 9878])).drive handles none false 20).drive handles
    (some started) true 30).close true).converse true 3

theorem Yard.steps_inTurn :
    Steps (fun _ => .sample) (first (fun _ => .sample) (.bounded [9877, 9878])) inTurn :=
  (((steps_drive (fun _ => .sample) none false 20 _).trans
    (steps_drive (fun _ => .sample) (some started) true 30 _)).trans
    (steps_close (fun _ => .sample) _ true)).trans (steps_converse (fun _ => .sample) true 3 _)

theorem ports_given_back_once_inTurn :
    (∀ i, (Yard.inTurn.ground.holding i).taken = [9877, 9878]) ∧
      (Yard.inTurn.ground.holding true).released = true ∧
      (∀ i, (Yard.inTurn.standing i).GivesBack (Yard.inTurn.ground.holding i)) ∧
      ∀ i, (Yard.inTurn.ground.holding i).held = 0 := by
  obtain ⟨back, -, -⟩ := ports_given_back_once (by decide) Yard.steps_inTurn
  exact ⟨by decide +kernel, by decide +kernel, back, by decide +kernel⟩

end ConnectorSync.Workload.Pod
