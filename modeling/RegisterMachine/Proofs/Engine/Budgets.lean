import RegisterMachine.Proofs.Engine.Advance
import RegisterMachine.Proofs.Ideal.WordSteps

/-!
# Budgets of runs

A budgeted run goes through the machines that single steps reach, and comes to its end at one of
them.

* `Machine.Ends`: what ends a run under a limit at a machine so many steps from its start.
* `Machine.run_cases`: every run ends so; `Machine.Ends.run_eq`: an end decides the run.
* `Machine.Ends.of_le` and `Machine.Ends.after`: the end of a run is that of one with a larger
  limit, and of one that starts earlier.
* `Machine.run_add`: what a larger budget makes of a run.
-/

namespace RegisterMachine

/-- The result of a run as the rest of a longer one, of which `before` steps were made before it
and which is allowed `limit` steps in all. -/
def resumed (before limit : Nat) : Except Fault RunReport → Except Fault RunReport
  | .ok report => .ok { report with steps := before + report.steps }
  | .error (.limitExceeded _) => .error (.limitExceeded limit)
  | .error f => .error f

namespace Machine

variable {m m' : Machine} {limit n : Nat} {result : Except Fault RunReport}

/-- Steps go on from where steps have led. -/
theorem advance_add (reached : m.advance n = .ok m') (k : Nat) :
    m.advance (n + k) = m'.advance k := by
  induction k with
  | zero => exact reached
  | succ k ih => rw [← Nat.add_assoc, advance, advance, ih]

/-- A limit stands in the way of a run, never of a step. -/
theorem step_ne_limit (m : Machine) (limit : Nat) : m.step ≠ .error (.limitExceeded limit) := by
  intro failed
  rcases m.step_cases with ⟨f, failed', rank, obstacle, -⟩ | ⟨c, m', stepped, -⟩
  · cases failed.symm.trans failed'
    cases obstacle
  · cases failed.symm.trans stepped

/-- How a run under a limit ends at a machine, `n` steps from its start. -/
inductive Ends (limit n : Nat) (m : Machine) : Except Fault RunReport → Prop
  /-- The machine has halted. -/
  | halt (within : n ≤ limit) (halted : m.isHalted = true) : Ends limit n m (.ok ⟨n, m.output⟩)
  /-- The next step fails, and the limit allows for it. -/
  | fault {f : Fault} (within : n < limit) (running : m.isHalted = false)
    (failed : m.step = .error f) : Ends limit n m (.error f)
  /-- The limit allows for no further step. -/
  | spent (spent : n = limit) (running : m.isHalted = false) :
    Ends limit n m (.error (.limitExceeded limit))

/-! ## Ends and runs -/

/-- The end that is reached is the end of the run. -/
theorem Ends.run_eq (ends : Ends limit n m' result) (reached : m.advance n = .ok m') :
    m.run limit = (m', result) := by
  cases ends with
  | halt within halted => exact run_of_halted reached within halted
  | fault within running failed => exact run_of_fault reached within running failed
  | spent spent running =>
    subst spent
    exact run_of_limit reached running

/-- A machine within the limit goes on to an end. -/
theorem exists_ends {left : Nat} (reached : m.advance n = .ok m') (within : n + left = limit) :
    ∃ k m'' result, m.advance k = .ok m'' ∧ Ends limit k m'' result := by
  -- The induction is on the steps that are left, and a step uses one of them up.
  induction left generalizing n m' with
  | zero =>
    cases halted : m'.isHalted with
    | true => exact ⟨n, m', _, reached, .halt (by omega) halted⟩
    | false => exact ⟨n, m', _, reached, .spent within halted⟩
  | succ left ih =>
    cases halted : m'.isHalted with
    | true => exact ⟨n, m', _, reached, .halt (by omega) halted⟩
    | false =>
      rcases stepped : m'.step with f | ⟨o, m''⟩
      · exact ⟨n, m', _, reached, .fault (by omega) halted stepped⟩
      · exact ih (advance_succ_of_step reached stepped) (by omega)

/-- A run ends at the machine that its steps reach. -/
theorem run_cases (m : Machine) (limit : Nat) :
    ∃ n, m.advance n = .ok (m.run limit).1 ∧ Ends limit n (m.run limit).1 (m.run limit).2 := by
  obtain ⟨n, m', result, reached, ends⟩ := exists_ends (m := m) (n := 0) rfl (Nat.zero_add limit)
  rw [ends.run_eq reached]
  exact ⟨n, reached, ends⟩

/-- A run that fails exceeds its limit, or leaves the machine at a step that fails so. -/
theorem run_fault {f : Fault} (failed : (m.run limit).2 = .error f) :
    f = .limitExceeded limit ∨ (m.run limit).1.step = .error f := by
  obtain ⟨n, -, ends⟩ := m.run_cases limit
  rw [failed] at ends
  cases ends with
  | fault _ _ stuck => exact .inr stuck
  | spent => exact .inl rfl

/-! ## Longer runs -/

/-- A run that does not use its limit up ends in the same way under a larger one. -/
theorem Ends.of_le {larger : Nat} (ends : Ends limit n m result) (le : limit ≤ larger)
    (unspent : ∀ l, result ≠ .error (.limitExceeded l)) : Ends larger n m result := by
  cases ends with
  | halt within halted => exact .halt (Nat.le_trans within le) halted
  | fault within running failed => exact .fault (Nat.lt_of_lt_of_le within le) running failed
  | spent spent running => exact absurd rfl (unspent limit)

/-- The rest of a run ends as the whole. -/
theorem Ends.after (ends : Ends limit n m result) (before : Nat) :
    Ends (before + limit) (before + n) m (resumed before (before + limit) result) := by
  cases ends with
  | halt within halted => exact .halt (by omega) halted
  | @fault f within running failed =>
    have same : resumed before (before + limit) (.error f) = .error f := by
      cases f with
      | limitExceeded l => exact absurd failed (m.step_ne_limit l)
      | _ => rfl
    rw [same]
    exact .fault (by omega) running failed
  | spent spent running => exact .spent (by omega) running

/-- Budgets add up.  A run that ends without using up its budget is not changed by a larger one.
A run that uses it up has made exactly so many steps, and the run with the larger budget ends as
the run that goes on from there with the rest of it, the steps made before counted in. -/
theorem run_add (m : Machine) (a b : Nat) :
    ((∀ l, (m.run a).2 ≠ .error (.limitExceeded l)) → m.run (a + b) = m.run a) ∧
    ∀ l, (m.run a).2 = .error (.limitExceeded l) →
      l = a ∧ m.advance a = .ok (m.run a).1 ∧
        m.run (a + b) = (((m.run a).1.run b).1, resumed a (a + b) ((m.run a).1.run b).2) := by
  obtain ⟨n, reached, ends⟩ := m.run_cases a
  constructor
  · intro unspent
    exact (ends.of_le (Nat.le_add_right a b) unspent).run_eq reached
  · intro l exceeded
    obtain ⟨rfl, rfl⟩ : l = a ∧ n = a := by
      rw [exceeded] at ends
      cases ends with
      | fault _ _ failed => exact absurd failed (step_ne_limit _ l)
      | spent spent _ => exact ⟨rfl, spent⟩
    refine ⟨rfl, reached, ?_⟩
    obtain ⟨k, onward, rest⟩ := (m.run n).1.run_cases b
    exact (rest.after n).run_eq ((advance_add reached k).trans onward)

/-- Reads all of its input and then stands at a step that fails. -/
def drain : Program := ⟨[⟨.read, .immediate 1, 1⟩, ⟨.goto, .immediate 1, 2⟩]⟩

/-- The first budget is used up in front of the read that fails; with one step more the run
fails, and no further step changes that. -/
theorem run_add_drain :
    let m := start drain [5, 7]
    (m.run 4).2 = .error (.limitExceeded 4) ∧ m.advance 4 = .ok (m.run 4).1 ∧
      m.run (4 + 0) = (((m.run 4).1.run 0).1, .error (.limitExceeded 4)) ∧
      m.run (4 + 1) = (((m.run 4).1.run 1).1, .error (.inputExhausted 1 2)) ∧
      m.run (5 + 9) = m.run 5 := by
  intro m
  have spent : (m.run 4).2 = .error (.limitExceeded 4) := by decide +kernel
  have failed : (m.run 5).2 = .error (.inputExhausted 1 2) := by decide +kernel
  have nothing : ((m.run 4).1.run 0).2 = .error (.limitExceeded 0) := by decide +kernel
  have read : ((m.run 4).1.run 1).2 = .error (.inputExhausted 1 2) := by decide +kernel
  obtain ⟨-, reached, onward⟩ := (run_add m 4 0).2 4 spent
  obtain ⟨-, -, further⟩ := (run_add m 4 1).2 4 spent
  rw [nothing] at onward
  rw [read] at further
  exact ⟨spent, reached, onward, further, (run_add m 5 9).1 (by simp [failed])⟩

end Machine

end RegisterMachine
