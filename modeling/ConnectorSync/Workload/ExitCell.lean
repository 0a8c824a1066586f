/-!
# Exit cells

The place where a connector's exit code is put down. It is put down once; what comes later changes
nothing. Who waits for the code looks, parks if there is none, and looks again once the cell has
changed.
-/

namespace ConnectorSync.Workload

/-- A place for one exit code. -/
structure ExitCell where
  code : Option Int := none
  deriving DecidableEq, Repr

namespace ExitCell

/-- Puts a code down if there is none; answers whether it did. -/
def complete (cell : ExitCell) (code : Int) : Bool × ExitCell :=
  match cell.code with
  | some _ => (false, cell)
  | none => (true, ⟨some code⟩)

/-- The cell with a code put down if there was none. -/
def filled (cell : ExitCell) (code : Int) : ExitCell := (cell.complete code).2

end ExitCell

/-! ### Waits for the code -/

/-- A cell and how often it has changed, by which those that are parked are woken. -/
structure WatchedCell where
  cell : ExitCell := {}
  changes : Nat := 0
  deriving DecidableEq, Repr

def WatchedCell.complete (w : WatchedCell) (code : Int) : Bool × WatchedCell :=
  match w.cell.complete code with
  | (true, cell) => (true, ⟨cell, w.changes + 1⟩)
  | (false, _) => (false, w)

/-- How far a wait for the code is. -/
inductive ExitWait
  | looking
  /-- Parked by a look that saw the cell after some number of changes. -/
  | parked (seen : Nat)
  | served (code : Int)
  deriving DecidableEq, Repr

/-- The next step of a wait, if it can take one. -/
def ExitWait.next? (w : WatchedCell) : ExitWait → Option ExitWait
  | looking => some (match w.cell.code with
    | some code => served code
    | none => parked w.changes)
  | parked seen => if seen = w.changes then none else some looking
  | served _ => none

end ConnectorSync.Workload
