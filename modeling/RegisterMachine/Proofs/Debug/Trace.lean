import RegisterMachine.Proofs.Debug.Transition

/-!
# Histories without repetitions

While a session runs, the snapshots of its history are the states that the machine
met on the way from the start, each of them once and in order.  `Traces m₀ n size d`
says so of a debugger that has performed `n` commands and recorded `size` states:
as many as commands between two steps, and one more while a command is pending.

The lemmas follow the parts of a step: opening it makes a command pending, going back
makes an earlier one pending, and performing it puts the debugger between two steps.
-/

namespace RegisterMachine.Debugger

/-- The machine is `n` commands away from `m₀`, and the history holds the first `size`
states on the way. -/
structure Traces (m₀ : Machine) (n size : Nat) (d : Debugger) : Prop where
  reached : m₀.advance n = .ok d.machine
  size_eq : d.history.size = size
  recorded : ∀ {i : Nat} {h : Snapshot}, d.history[i]? = some h →
    ∃ m, m₀.advance i = .ok m ∧ m.snapshot = .ok h

namespace Traces

variable {m₀ : Machine} {n : Nat} {d d' : Debugger}

/-- A snapshot of the history restores the machine that it was taken of. -/
theorem restore {size i : Nat} {h : Snapshot} (traced : Traces m₀ n size d)
    (at_i : d.history[i]? = some h) : m₀.advance i = .ok (d.machine.restore h) := by
  obtain ⟨m, reached, taken⟩ := traced.recorded at_i
  have here := Machine.advance_keeps traced.reached
  have there := Machine.advance_keeps reached
  rw [Machine.restore_of_snapshot taken (here.1.trans there.1.symm) (here.2.trans there.2.symm)]
  exact reached

/-- Taking up or recording the present state makes its command pending. -/
theorem opens (traced : Traces m₀ n (n + d.resuming.toNat) d) (opened : Opens d d') :
    Traces m₀ n (n + 1) d' := by
  cases opened with
  | again resuming =>
    have size := traced.size_eq
    rw [resuming] at size
    exact ⟨traced.reached, size, traced.recorded⟩
  | @anew h fresh snapshot room =>
    have size := traced.size_eq
    rw [fresh] at size
    refine ⟨traced.reached, ?_, ?_⟩
    · simp only [Array.size_push, size, Bool.toNat_false, Nat.add_zero]
    · intro i h' at_i
      rw [Array.getElem?_push] at at_i
      split at at_i
      · rename_i last
        cases at_i
        rw [last, size]
        exact ⟨d.machine, traced.reached, snapshot⟩
      · exact traced.recorded at_i

/-- Going back makes the command of the snapshot pending. -/
theorem backTo {size k : Nat} {h : Snapshot} (traced : Traces m₀ n size d)
    (at_k : d.history[k]? = some h) : Traces m₀ k (k + 1) (d.backTo k h) := by
  have lt : k < d.history.size := (Array.getElem?_eq_some_iff.mp at_k).1
  refine ⟨traced.restore at_k, ?_, ?_⟩
  · simp only [Debugger.backTo, Array.take_eq_extract, Array.size_extract]
    omega
  · intro i h' at_i
    simp only [Debugger.backTo, getElem?_take_history] at at_i
    split at at_i
    · exact traced.recorded at_i
    · cases at_i

theorem revisits (traced : Traces m₀ n (n + 1) d) (revisited : Revisits d d') :
    ∃ k, k ≤ n ∧ Traces m₀ k (k + 1) d' := by
  cases revisited with
  | stay => exact ⟨n, Nat.le_refl n, traced⟩
  | @back k h at_k =>
    have lt : k < d.history.size := (Array.getElem?_eq_some_iff.mp at_k).1
    rw [traced.size_eq] at lt
    exact ⟨k, Nat.le_of_lt_succ lt, traced.backTo at_k⟩

theorem converses {resumes : Bool} (traced : Traces m₀ n (n + 1) d)
    (conversed : Converses { d with phase := .paused } resumes d') :
    ∃ k, k ≤ n ∧ Traces m₀ k (k + 1) d' := by
  have paused : Traces m₀ n (n + 1) { d with phase := .paused } :=
    ⟨traced.reached, traced.size_eq, traced.recorded⟩
  cases conversed with
  | resume revisited | terminate revisited =>
    obtain ⟨k, le, back⟩ := paused.revisits revisited
    exact ⟨k, le, back.reached, back.size_eq, back.recorded⟩

theorem proceeds (traced : Traces m₀ n (n + 1) d) (proceeded : Proceeds d d') :
    ∃ k, k ≤ n ∧ Traces m₀ k (k + 1) d' := by
  cases proceeded with
  | quiet => exact ⟨n, Nat.le_refl n, traced⟩
  | arrived => exact ⟨n, Nat.le_refl n, traced.reached, traced.size_eq, traced.recorded⟩
  | asked _ conversed => exact traced.converses conversed

theorem performs {o : Outcome} {m : Machine} (traced : Traces m₀ n (n + 1) d)
    (done : d.machine.step = .ok (o, m)) : Traces m₀ (n + 1) (n + 1) { d with machine := m } :=
  ⟨Machine.advance_succ_of_step traced.reached done, traced.size_eq, traced.recorded⟩

/-- The history is told by its length. -/
theorem history_eq {n' size : Nat} (traced : Traces m₀ n size d) (traced' : Traces m₀ n' size d') :
    d.history = d'.history := by
  apply Array.ext
  · rw [traced.size_eq, traced'.size_eq]
  · intro i lt lt'
    obtain ⟨m, reached, taken⟩ := traced.recorded (Array.getElem?_eq_getElem lt)
    obtain ⟨m', reached', taken'⟩ := traced'.recorded (Array.getElem?_eq_getElem lt')
    obtain rfl := Except.ok.inj (reached.symm.trans reached')
    exact Except.ok.inj (taken.symm.trans taken')

end Traces

end RegisterMachine.Debugger
