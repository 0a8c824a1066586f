import Mathlib.Data.List.Nodup
import ConnectorSync.Launch.Config

/-!
# Ports on loan

A pool of ports and those of its ports that are out, while ports are taken and only what is out is
given back. A port is free or out, and not both; so none is handed out twice at a time. Port zero is
the exception to what comes back: a pool that begins with it hands it out and does not take it back.
-/

namespace ConnectorSync.Launch

inductive PortUse
  | take
  | offer (port : Port)
  deriving DecidableEq

/-- A pool and the ports that were taken from it and not given back. -/
structure Loans where
  pool : PortPool
  out : List Port := []

namespace Loans

def after (l : Loans) : PortUse → Loans
  | .take =>
    match l.pool.take with
    | (some port, pool) => ⟨pool, port :: l.out⟩
    | (none, pool) => ⟨pool, l.out⟩
  | .offer port => ⟨l.pool.offer port, l.out.erase port⟩

def run (l : Loans) (uses : List PortUse) : Loans := uses.foldl after l

def Permits (l : Loans) : PortUse → Prop
  | .take => True
  | .offer port => port ∈ l.out

/-- Each port that is given back is out by then. -/
def Honest (l : Loans) : List PortUse → Prop
  | [] => True
  | use :: uses => l.Permits use ∧ (l.after use).Honest uses

/-- The free ports and those that are out are as many as there were. -/
def Balanced (total : Nat) (l : Loans) : Prop := l.pool.available + l.out.length = total

instance (l : Loans) : (use : PortUse) → Decidable (l.Permits use)
  | .take => inferInstanceAs (Decidable True)
  | .offer port => inferInstanceAs (Decidable (port ∈ l.out))

instance decidableHonest (l : Loans) : (uses : List PortUse) → Decidable (l.Honest uses)
  | [] => inferInstanceAs (Decidable True)
  | use :: uses =>
    have := decidableHonest (l.after use) uses
    inferInstanceAs (Decidable (l.Permits use ∧ (l.after use).Honest uses))

instance (total : Nat) (l : Loans) : Decidable (l.Balanced total) :=
  inferInstanceAs (Decidable (_ = _))

structure Accounts (ports : List Port) (zeros : Nat) (l : Loans) : Prop where
  bounded : l.pool = .bounded l.pool.free
  perm : (l.pool.free ++ l.out ++ List.replicate zeros 0).Perm ports

variable {ports : List Port} {zeros : Nat} {l : Loans} {port : Port} {uses : List PortUse}

theorem out_of_take (taken : l.pool.take.1 = some port) :
    (l.after .take).out = port :: l.out := by
  simp only [after]
  split
  · next first pool same =>
    rw [same] at taken
    cases taken
    rfl
  · next pool same =>
    rw [same] at taken
    cases taken

theorem Accounts.take (h : l.Accounts ports zeros) : (l.after .take).Accounts ports zeros := by
  obtain ⟨pool, out⟩ := l
  obtain ⟨bounded, perm⟩ := h
  dsimp only at bounded perm
  rw [bounded]
  cases free : pool.free with
  | nil =>
    rw [free] at perm
    exact ⟨rfl, perm⟩
  | cons port rest =>
    rw [free] at perm
    refine ⟨rfl, .trans ?_ perm⟩
    exact List.Perm.append_right _ List.perm_middle

theorem Accounts.offer (h : l.Accounts ports zeros) (isOut : port ∈ l.out) :
    (l.after (.offer port)).Accounts ports
      (zeros + if PortUse.offer port = .offer 0 then 1 else 0) := by
  obtain ⟨pool, out⟩ := l
  obtain ⟨bounded, perm⟩ := h
  dsimp only at bounded perm isOut
  have back : (port :: out.erase port).Perm out := (List.perm_cons_erase isOut).symm
  unfold after
  dsimp only
  rw [bounded]
  by_cases zero : port = 0
  · subst zero
    simp only [PortPool.offer, if_true]
    refine ⟨rfl, .trans ?_ perm⟩
    exact List.perm_middle.trans (.append_right _ (List.perm_middle.symm.trans (.append_left _ back)))
  · simp only [PortPool.offer, if_neg zero, PortUse.offer.injEq, Nat.add_zero]
    refine ⟨rfl, .trans (.append_right _ ?_) perm⟩
    show (pool.free ++ [port] ++ out.erase port).Perm _
    rw [List.append_assoc]
    exact .append_left _ back

theorem Accounts.run (h : l.Accounts ports zeros) (honest : l.Honest uses) :
    (l.run uses).Accounts ports (zeros + uses.count (.offer 0)) := by
  induction uses generalizing l zeros with
  | nil => exact h
  | cons use uses ih =>
    obtain ⟨permitted, honest⟩ := honest
    cases use with
    | take => exact ih h.take honest
    | offer port =>
      have later := ih (h.offer permitted) honest
      show ((l.after (.offer port)).run uses).Accounts _ _
      rw [List.count_cons, Nat.add_comm (List.count _ _), ← Nat.add_assoc]
      simpa only [beq_iff_eq] using later

/-- Only ports of the pool are given back. -/
theorem Accounts.mem_of_offer (h : l.Accounts ports zeros) (honest : l.Honest uses)
    (given : .offer port ∈ uses) : port ∈ ports := by
  induction uses generalizing l zeros with
  | nil => cases given
  | cons use uses ih =>
    obtain ⟨permitted, honest⟩ := honest
    cases use with
    | take => exact ih h.take honest ((List.mem_cons.1 given).resolve_left nofun)
    | offer other =>
      rcases List.mem_cons.1 given with same | given
      · cases same
        exact h.perm.subset (List.mem_append_left _ (List.mem_append_right _ permitted))
      · exact ih (h.offer permitted) honest given

theorem Accounts.balanced_iff (h : l.Accounts ports zeros) :
    l.Balanced ports.length ↔ zeros = 0 := by
  have length := h.perm.length_eq
  simp only [List.length_append, List.length_replicate] at length
  unfold Balanced PortPool.available
  omega

theorem Accounts.not_out (h : l.Accounts ports zeros) (distinct : ports.Nodup)
    (taken : l.pool.take.1 = some port) : port ∉ l.out := by
  have distinct := List.Nodup.of_append_left (h.perm.nodup_iff.2 distinct)
  rw [h.bounded] at taken
  cases free : l.pool.free with
  | nil =>
    rw [free] at taken
    cases taken
  | cons first rest =>
    rw [free] at taken distinct
    cases taken
    exact fun isOut => (List.nodup_cons.1 distinct).1 (List.mem_append_right _ isOut)

end Loans

namespace PortPool

theorem nodup_range (start count : Nat) : (range start count).free.Nodup :=
  .filter _ (List.nodup_range.map fun _ _ same => Nat.add_left_cancel same)

theorem zero_mem_range {start count : Nat} : 0 ∈ (range start count).free ↔ start = 0 ∧ 0 < count := by
  show 0 ∈ List.filter _ _ ↔ _
  rw [List.mem_filter, List.mem_map]
  constructor
  · rintro ⟨⟨n, mem, same⟩, -⟩
    have same : start + n = 0 := same
    have less := List.mem_range.1 mem
    omega
  · rintro ⟨rfl, positive⟩
    exact ⟨⟨0, List.mem_range.2 positive, rfl⟩, by decide⟩

/-- A pool that begins with port zero hands that out first. -/
theorem take_range_zero {count : Nat} (positive : 0 < count) :
    (range 0 count).take.1 = some 0 := by
  obtain ⟨count, rfl⟩ := Nat.exists_eq_succ_of_ne_zero (Nat.ne_of_gt positive)
  unfold range
  rw [List.range_succ_eq_map, List.map_cons, List.filter_cons_of_pos (by decide)]
  rfl

end PortPool

open Loans

def Config.loans (c : Config) : Loans := { pool := c.ports }

theorem Config.accounts {c : Config} (bounded : 0 < c.relayPortCount) :
    c.loans.Accounts c.ports.free 0 := by
  refine ⟨?_, ?_⟩
  · show c.ports = .bounded c.ports.free
    rw [ports, if_neg (Nat.ne_of_gt bounded)]
    rfl
  · simp [loans]

/-- A port is never handed out while it is out. The free ports and those that are out are as many as
at first until port zero is given back, so they always are just if the pool begins with another
port. -/
theorem ports_balanced_iff (c : Config) (bounded : 0 < c.relayPortCount) :
    (∀ uses, c.loans.Honest uses →
      (∀ port, (c.loans.run uses).pool.take.1 = some port → port ∉ (c.loans.run uses).out) ∧
        ((c.loans.run uses).Balanced c.ports.available ↔ .offer 0 ∉ uses)) ∧
    ((∀ uses, c.loans.Honest uses → (c.loans.run uses).Balanced c.ports.available) ↔
      c.relayPortStart ≠ 0) := by
  have pool : c.ports = .range c.relayPortStart c.relayPortCount :=
    if_neg (Nat.ne_of_gt bounded)
  have distinct : c.ports.free.Nodup := pool ▸ PortPool.nodup_range _ _
  have first := c.accounts bounded
  have balanced {uses : List PortUse} (honest : c.loans.Honest uses) :
      (c.loans.run uses).Balanced c.ports.available ↔ .offer 0 ∉ uses := by
    rw [PortPool.available, (first.run honest).balanced_iff, Nat.zero_add, List.count_eq_zero]
  refine ⟨fun uses honest => ⟨fun port => (first.run honest).not_out distinct, balanced honest⟩, ?_⟩
  constructor
  · intro always zero
    have lent : c.ports.take.1 = some 0 := by
      rw [pool, zero]
      exact PortPool.take_range_zero bounded
    have honest : c.loans.Honest [.take, .offer 0] := by
      refine ⟨trivial, ?_, trivial⟩
      show 0 ∈ (c.loans.after .take).out
      rw [out_of_take lent]
      exact List.mem_cons_self
    exact (balanced honest).1 (always _ honest) (List.mem_cons_of_mem _ List.mem_cons_self)
  · intro positive uses honest
    refine (balanced honest).2 fun given => positive ?_
    have mem := first.mem_of_offer honest given
    rw [pool] at mem
    exact (PortPool.zero_mem_range.1 mem).1

theorem ports_balanced_of_defaults :
    ({} : Config).loans.Honest [.take, .take, .offer 9877] ∧
      (({} : Config).loans.run [.take, .take, .offer 9877]).Balanced 40 ∧
      (({} : Config).loans.run [.take, .take, .offer 9877]).pool.take.1 = some 9879 ∧
      9879 ∉ (({} : Config).loans.run [.take, .take, .offer 9877]).out := by
  have honest : ({} : Config).loans.Honest [.take, .take, .offer 9877] := by decide
  have next : (({} : Config).loans.run [.take, .take, .offer 9877]).pool.take.1 = some 9879 := by
    decide
  obtain ⟨runs, always⟩ := ports_balanced_iff {} (by decide)
  exact ⟨honest, always.2 (by decide) _ honest, next, (runs _ honest).1 _ next⟩

def portsFromZero : Environment where
  values := .ofList [("SYNCRUN_RELAY_PORT_START", Text.bytes "0"),
    ("SYNCRUN_RELAY_PORT_COUNT", Text.bytes "2")]

/-- Settings are accepted with which a pool has fewer ports once all that was taken is given back. -/
theorem pool_shrinks : ∃ (env : Environment) (c : Config) (uses : List PortUse),
    Config.ofEnvironment env = .ok c ∧ 0 < c.relayPortCount ∧ c.loans.Honest uses ∧
      (c.loans.run uses).out = [] ∧ (c.loans.run uses).pool.available < c.ports.available := by
  have read : (Config.ofEnvironment portsFromZero).toOption.map
      (fun c => (c.relayPortStart, c.relayPortCount)) = some (0, 2) := by
    decide +kernel
  obtain ⟨c, accepted, same⟩ := Option.map_eq_some_iff.1 read
  obtain ⟨start, count⟩ := Prod.mk.inj same
  have pool : c.ports = .range 0 2 := by
    rw [Config.ports, start, count]
    rfl
  have loans : c.loans = { pool := .range 0 2 } := by rw [Config.loans, pool]
  refine ⟨portsFromZero, c, [.take, .offer 0], ?_, by omega, ?_⟩
  · cases got : Config.ofEnvironment portsFromZero with
    | error e =>
      rw [got] at accepted
      cases accepted
    | ok c' =>
      rw [got] at accepted
      cases accepted
      rfl
  · rw [loans, pool]
    decide

end ConnectorSync.Launch
