import RegisterMachine.Engine.InPlace

/-!
# Runs

A run steps a machine until it halts, within a limit on the number of steps.
-/

namespace RegisterMachine

/-- What a run to the end yields: how many commands it performed, and the output
tape. -/
structure RunReport where
  steps : Nat
  output : Array Value
  deriving DecidableEq, Repr

namespace Machine

/-- Steps at most `budget` times, `steps` steps having been made before. The
machine reached comes with the report, or with the fault that stopped it. A
machine that has halted needs no budget. -/
def runFrom (limit : Nat) : (budget steps : Nat) → Machine → Machine × Except Fault RunReport
  | 0, steps, m =>
    if m.isHalted then (m, .ok ⟨steps, m.output⟩) else (m, .error (.limitExceeded limit))
  | budget + 1, steps, m =>
    if m.isHalted then (m, .ok ⟨steps, m.output⟩)
    else
      match m.stepInPlace with
      | (.error f, m) => (m, .error f)
      | (.ok _, m) => runFrom limit budget (steps + 1) m

/-- A run is a step, and if that does not fail the run after it. -/
theorem runFrom_succ (limit budget steps : Nat) (m : Machine) :
    runFrom limit (budget + 1) steps m =
      if m.isHalted then (m, .ok ⟨steps, m.output⟩)
      else
        match m.step with
        | .error f => (m, .error f)
        | .ok (_, m') => runFrom limit budget (steps + 1) m' := by
  rw [runFrom, stepInPlace_eq]
  cases m.step <;> rfl

/-- Steps until the machine halts, at most `limit` times. -/
def run (m : Machine) (limit : Nat) : Machine × Except Fault RunReport :=
  runFrom limit limit 0 m

/-- The commands that at most `budget` steps perform, in order. -/
def performed : (budget : Nat) → Machine → List Command
  | 0, _ => []
  | budget + 1, m =>
    if m.isHalted then []
    else
      match m.stepInPlace with
      | (.error _, _) => []
      | (.ok o, m) => o.command :: performed budget m

end Machine

end RegisterMachine
