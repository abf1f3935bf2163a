import RegisterMachine.Proofs.Debug.Termination

/-!
# Consoles without a bound

`Console.pending` bounds the lines that a console has to give.  An operator who never stops typing
has no such bound, and an operation on their console need not return.  One that does return has
made finitely many calls, and cannot tell such a console from one that has only the answers which
these calls were given.

* `Console.SimulatesWithin calls R`: related consoles answer alike as long as the calls made to
  the first are among the first of `calls`.  `Uniform`: an operation comes to the same on both.
  `handle_uniform`, `steps_uniform` and `run_uniform` prove it of the operations that ask.
* `OpenConsole` and `Rationed`: a console without a bound, and a ration of questions to it.
* `Returns`: an operation on an open console returns, which takes no more than some ration.
  `Returns.unique`: what it returns does not depend on the ration.  `returns_of_console`: on a
  console that has a bound, `Returns` is what the operation does.
* `Returns.on_script`: all of it happens on a script as well.
* `not_returns_help`: an operation that does not return.
-/

namespace RegisterMachine

variable {σ τ : Type} [Console σ] [Console τ]

namespace Transcribed

/-- Calls that have been made stay made. -/
theorem simulates_calls (calls : List Call) :
    Console.Simulates fun t u : Transcribed σ => t = u ∧ calls <+: u.calls where
  display := by
    rintro t _ ⟨rfl, made⟩ text
    exact ⟨rfl, made.trans (List.prefix_append ..)⟩
  pause := by
    rintro t _ ⟨rfl, made⟩ delay
    exact ⟨rfl, made.trans (List.prefix_append ..)⟩
  note := by
    rintro t _ ⟨rfl, made⟩ record
    exact ⟨rfl, made.trans (List.prefix_append ..)⟩
  ask := by
    rintro t _ ⟨rfl, made⟩
    exact ⟨rfl, rfl, made.trans (List.prefix_append ..)⟩

@[simp] theorem questions_display (t : Transcribed σ) (text : String) :
    (Console.display t text).questions = t.questions := List.countP_append ..

@[simp] theorem questions_pause (t : Transcribed σ) (delay : Duration) :
    (Console.pause t delay).questions = t.questions := List.countP_append ..

@[simp] theorem questions_note (t : Transcribed σ) (record : Record) :
    (Console.note t record).questions = t.questions := List.countP_append ..

omit [Console σ] in
theorem questions_le {t : Transcribed σ} {calls : List Call} (made : t.calls <+: calls) :
    t.questions ≤ calls.countP Call.isQuestion :=
  made.sublist.countP_le

end Transcribed

/-- Showing, waiting and noting keep the relation, and so does a question that is among the first
of the calls, to which both give the same answer. -/
structure Console.SimulatesWithin (calls : List Call) (R : Transcribed σ → Transcribed τ → Prop) :
    Prop extends Console.Mirrors R where
  ask : ∀ {t : Transcribed σ} {u : Transcribed τ}, R t u → (Console.ask t).2.calls <+: calls →
    (Console.ask t).1 = (Console.ask u).1 ∧ R (Console.ask t).2 (Console.ask u).2

namespace Debugger

/-! ## As far as the calls go -/

omit [Console σ] in
theorem calls_of_eq {α : Type} {x : α × Debugger × Transcribed σ} {a : α} {d : Debugger}
    {t : Transcribed σ} (done : x = (a, d, t)) : x.2.2.calls <+: t.calls := by
  subst done
  exact List.prefix_rfl

section Extends

variable (d : Debugger) (t : Transcribed σ)

theorem settle_extends (line : Nat) (answer : Option String) :
    t.calls <+: (d.settle line answer t).2.2.calls :=
  (settle_agree (Transcribed.simulates_calls _).toMirrors ⟨rfl, List.prefix_rfl⟩ d line answer).kept

theorem handle_extends (line : String) : t.calls <+: (d.handle line t).2.2.calls :=
  (handle_agree (Transcribed.simulates_calls _) ⟨rfl, List.prefix_rfl⟩ d line).kept

theorem converse_extends : t.calls <+: (d.converse t).2.2.calls :=
  (converse_agree (Transcribed.simulates_calls _) ⟨rfl, List.prefix_rfl⟩ d).kept

theorem enter_extends : t.calls <+: (d.enter t).2.2.calls :=
  (enter_agree (Transcribed.simulates_calls _).toMirrors ⟨rfl, List.prefix_rfl⟩ d).kept

theorem execute_extends : t.calls <+: (d.execute t).2.2.calls :=
  (execute_agree (Transcribed.simulates_calls _).toMirrors ⟨rfl, List.prefix_rfl⟩ d).kept

theorem steps_extends (n : Nat) : t.calls <+: (d.steps n t).2.2.calls :=
  (steps_agree (Transcribed.simulates_calls _) ⟨rfl, List.prefix_rfl⟩ d n).kept

theorem run_extends : t.calls <+: (d.run t).2.2.calls :=
  (run_agree (Transcribed.simulates_calls _) ⟨rfl, List.prefix_rfl⟩ d).kept

/-- An exchange begins with a question. -/
theorem exchange_extends : (Console.ask t).2.calls <+: (d.exchange t).2.2.calls := by
  rcases done : d.exchange t with ⟨settled, d', t'⟩
  have handled {line : String} {result : Except OperatorError Verdict} {d₁ : Debugger}
      {t₁ t₂ : Transcribed σ} (asked : Console.ask t = (some line, t₁))
      (handled : d.handle line t₁ = (result, d₁, t₂)) : (Console.ask t).2.calls <+: t₂.calls := by
    rw [asked]
    exact (handle_extends d t₁ line).trans (calls_of_eq handled)
  cases exchange_exchanges done with
  | closed asked => exact ⟨[], by rw [asked, List.append_nil]⟩
  | resumed asked answered | left asked answered | stayed asked answered =>
    exact handled asked answered
  | refused asked answered => exact (handled asked answered).trans (List.prefix_append ..)

end Extends

section Within

variable {calls : List Call} {R : Transcribed σ → Transcribed τ → Prop} {t : Transcribed σ}
  {u : Transcribed τ}

theorem handle_within (within : Console.SimulatesWithin calls R) (related : R t u) (d : Debugger)
    (line : String) (early : (d.handle line t).2.2.calls <+: calls) :
    Agree R (d.handle line t) (d.handle line u) := by
  obtain ⟨begun, d₁, t₁, u₁, left, right, related₁⟩ := begin_agree within.toMirrors related d line
  simp only [handle, left] at early
  simp only [handle, left, right]
  rcases begun with e | (v | target)
  · exact .intro _ _ related₁
  · exact .intro _ _ related₁
  · obtain ⟨same, asked⟩ := within.ask related₁ ((settle_extends d₁ _ target _).trans early)
    simp only [← same]
    exact settle_agree within.toMirrors asked d₁ target _

theorem exchange_within (within : Console.SimulatesWithin calls R) (related : R t u) (d : Debugger)
    (early : (d.exchange t).2.2.calls <+: calls) : Agree R (d.exchange t) (d.exchange u) := by
  obtain ⟨same, asked⟩ := within.ask related ((exchange_extends d t).trans early)
  unfold exchange at early ⊢
  rcases left : Console.ask t with ⟨answer, t₁⟩
  rcases right : Console.ask u with ⟨answer', u₁⟩
  rw [left, right] at same asked
  rw [left] at early
  simp only at same asked early
  subst same
  cases answer with
  | none => exact .intro _ _ asked
  | some line =>
    have handled : (d.handle line t₁).2.2.calls <+: calls := by
      rcases done : d.handle line t₁ with ⟨e | v, d', t'⟩
      · simp only [done] at early
        exact (List.prefix_append ..).trans early
      · simp only [done] at early
        cases v <;> exact early
    obtain ⟨result, d', t', u', left, right, related'⟩ := handle_within within asked d line handled
    simp only [left, right]
    cases result with
    | error e => exact .intro _ _ (within.display related' _)
    | ok v => cases v <;> exact .intro _ _ related'

theorem converse_within (within : Console.SimulatesWithin calls R) (related : R t u)
    (d : Debugger) (early : (d.converse t).2.2.calls <+: calls) :
    Agree R (d.converse t) (d.converse u) := by
  fun_induction converse d t generalizing u with
  | case1 d t resumes d' t' exchanged =>
    have agree := exchange_within within related d ((calls_of_eq exchanged).trans early)
    obtain ⟨u', right, related'⟩ := agree.right exchanged
    rw [converse_eq d u, right]
    exact .intro _ _ related'
  | case2 d t d' t' exchanged _ ih =>
    have first := (calls_of_eq exchanged).trans (converse_extends d' t')
    have agree := exchange_within within related d (first.trans early)
    obtain ⟨u', right, related'⟩ := agree.right exchanged
    rw [converse_eq d u, right]
    exact ih related' early

theorem step_within (within : Console.SimulatesWithin calls R) (related : R t u) (d : Debugger)
    (early : (d.step t).2.2.calls <+: calls) : Agree R (d.step t) (d.step u) := by
  obtain ⟨opening, d₁, t₁, u₁, left, right, related₁⟩ := enter_agree within.toMirrors related d
  simp only [step, left] at early
  simp only [step, left, right]
  cases opening with
  | exited | faulted => exact .intro _ _ related₁
  | ready => exact execute_agree within.toMirrors related₁ d₁
  | prompting =>
    have conversed : (d₁.converse t₁).2.2.calls <+: calls := by
      rcases done : d₁.converse t₁ with ⟨_ | _, d₂, t₂⟩ <;> simp only [done] at early
      · exact early
      · exact (execute_extends d₂ t₂).trans early
    obtain ⟨resumes, d₂, t₂, u₂, left, right, related₂⟩ :=
      converse_within within related₁ d₁ conversed
    simp only [left, right]
    cases resumes with
    | false => exact .intro _ _ related₂
    | true => exact execute_agree within.toMirrors related₂ d₂

theorem steps_within (within : Console.SimulatesWithin calls R) (related : R t u) (d : Debugger)
    (n : Nat) (early : (d.steps n t).2.2.calls <+: calls) :
    Agree R (d.steps n t) (d.steps n u) := by
  induction n generalizing d t u with
  | zero => exact .intro _ _ related
  | succ n ih =>
    rcases first : d.step t with ⟨result, d₁, t₁⟩
    simp only [steps, first] at early
    have agree := step_within within related d
      (((calls_of_eq first).trans (steps_extends d₁ t₁ n)).trans early)
    obtain ⟨u₁, right, related₁⟩ := agree.right first
    obtain ⟨results, d₂, t₂, u₂, left', right', related₂⟩ := ih related₁ d₁ early
    simp only [steps, first, right, left', right']
    exact .intro _ _ related₂

theorem run_within (within : Console.SimulatesWithin calls R) (related : R t u) (d : Debugger)
    (early : (d.run t).2.2.calls <+: calls) : Agree R (d.run t) (d.run u) := by
  fun_induction run d t generalizing u with
  | case1 d t halted =>
    rw [run_eq d u, if_pos halted]
    exact .intro _ _ related
  | case2 d t running f d' t' stepped | case3 d t running d' t' stepped =>
    have agree := step_within within related d ((calls_of_eq stepped).trans early)
    obtain ⟨u', right, related'⟩ := agree.right stepped
    rw [run_eq d u, if_neg running, right]
    exact .intro _ _ related'
  | case4 d t running o d' t' stepped _ ih =>
    have first := (calls_of_eq stepped).trans (run_extends d' t')
    have agree := step_within within related d (first.trans early)
    obtain ⟨u', right, related'⟩ := agree.right stepped
    rw [run_eq d u, if_neg running, right]
    exact ih related' early

end Within

/-- An operation comes to the same on two consoles if they answer alike as far as its calls
go. -/
def Uniform {α : Type} (op : ∀ (σ : Type) [Console σ], σ → α × Debugger × σ) : Prop :=
  ∀ (σ τ : Type) [Console σ] [Console τ] (R : Transcribed σ → Transcribed τ → Prop)
    (calls : List Call) (t : Transcribed σ) (u : Transcribed τ),
    Console.SimulatesWithin calls R → R t u → (op _ t).2.2.calls <+: calls →
      Agree R (op _ t) (op _ u)

theorem handle_uniform (d : Debugger) (line : String) : Uniform fun _ _ s => d.handle line s := by
  intro σ τ _ _ R calls t u within related early
  beta_reduce at early ⊢
  exact handle_within within related d line early

theorem steps_uniform (d : Debugger) (n : Nat) : Uniform fun _ _ s => d.steps n s := by
  intro σ τ _ _ R calls t u within related early
  exact steps_within within related d n early

theorem run_uniform (d : Debugger) : Uniform fun _ _ s => d.run s := by
  intro σ τ _ _ R calls t u within related early
  exact run_within within related d early

end Debugger

/-! ## Open consoles -/

/-- The operations of a console, which may have lines without end. -/
class OpenConsole (σ : Type) where
  display : σ → String → σ
  ask : σ → Option String × σ
  pause : σ → Duration → σ
  note : σ → Record → σ

/-- A console that has a bound is an open one, too. -/
instance (priority := low) OpenConsole.ofConsole : OpenConsole σ where
  display := Console.display
  ask := Console.ask
  pause := Console.pause
  note := Console.note

/-- An open console that may be asked `left` more times.  After that, input is closed. -/
structure Rationed (σ : Type) where
  console : σ
  left : Nat

namespace Rationed

variable {σ : Type} [OpenConsole σ]

/-- Asks the console, as long as the ration lasts. -/
def ask (s : Rationed σ) : Option String × Rationed σ :=
  match s.left with
  | 0 => (none, s)
  | left + 1 => ((OpenConsole.ask s.console).1, ⟨(OpenConsole.ask s.console).2, left⟩)

instance : Console (Rationed σ) where
  display s text := { s with console := OpenConsole.display s.console text }
  ask := ask
  pause s delay := { s with console := OpenConsole.pause s.console delay }
  note s record := { s with console := OpenConsole.note s.console record }
  pending s := s.left
  pending_display _ _ := Nat.le_refl _
  pending_ask s := by
    unfold ask
    split <;> simp_all
  pending_ask_lt s := by
    unfold ask
    split <;> simp_all
  pending_pause _ _ := Nat.le_refl _
  pending_note _ _ := Nat.le_refl _

theorem ask_succ (c : σ) (left : Nat) (calls : List Call) :
    Console.ask (Transcribed.mk (Rationed.mk c (left + 1)) calls) =
      ((OpenConsole.ask c).1, ⟨⟨(OpenConsole.ask c).2, left⟩,
        calls ++ [.read (OpenConsole.ask c).1]⟩) := rfl

/-- Two rations of one console, of which the second is larger.  With the questions that were
asked already, the first comes to `n`. -/
def Larger (n more : Nat) (t u : Transcribed (Rationed σ)) : Prop :=
  u = ⟨⟨t.console.console, t.console.left + more⟩, t.calls⟩ ∧ t.questions + t.console.left = n

theorem larger_within {calls : List Call} {n : Nat} (enough : calls.countP Call.isQuestion ≤ n)
    (more : Nat) : Console.SimulatesWithin calls (Larger (σ := σ) n more) where
  display := by
    rintro t _ ⟨rfl, count⟩ text
    exact ⟨rfl, t.questions_display text ▸ count⟩
  pause := by
    rintro t _ ⟨rfl, count⟩ delay
    exact ⟨rfl, t.questions_pause delay ▸ count⟩
  note := by
    rintro t _ ⟨rfl, count⟩ record
    exact ⟨rfl, t.questions_note record ▸ count⟩
  ask := by
    rintro ⟨⟨c, left⟩, made⟩ _ ⟨rfl, count⟩ early
    have asked := Transcribed.questions_le early
    rw [Transcribed.questions_ask] at asked
    cases left with
    | zero =>
      simp only at count
      omega
    | succ left =>
      have counted := (Transcribed.mk (Rationed.mk c (left + 1)) made).questions_ask
      simp only [Nat.add_right_comm left 1 more, ask_succ, true_and] at count counted ⊢
      exact ⟨rfl, by simp only; omega⟩

/-- A console, and a ration of `n` questions to it. -/
def Meted {σ : Type} [Console σ] (n : Nat) (t : Transcribed σ) (u : Transcribed (Rationed σ)) :
    Prop :=
  u = ⟨⟨t.console, n - t.questions⟩, t.calls⟩

theorem meted_within {σ : Type} [Console σ] {calls : List Call} {n : Nat}
    (enough : calls.countP Call.isQuestion ≤ n) :
    Console.SimulatesWithin calls (Meted (σ := σ) n) where
  display := by
    rintro t _ rfl text
    rw [Meted, t.questions_display]
    rfl
  pause := by
    rintro t _ rfl delay
    rw [Meted, t.questions_pause]
    rfl
  note := by
    rintro t _ rfl record
    rw [Meted, t.questions_note]
    rfl
  ask := by
    rintro t _ rfl early
    have asked := Transcribed.questions_le early
    rw [t.questions_ask] at asked
    have left : n - t.questions = n - (t.questions + 1) + 1 := by omega
    rw [Meted, t.questions_ask, left, ask_succ]
    exact ⟨rfl, rfl⟩

end Rationed

namespace Debugger

variable {α : Type} {op : ∀ (σ : Type) [Console σ], σ → α × Debugger × σ}

/-- On the open console `c` the operation returns, having made the given calls: there is a ration
of questions that it does not exceed. -/
inductive Returns {σ : Type} [OpenConsole σ] (op : ∀ (σ : Type) [Console σ], σ → α × Debugger × σ)
    (c : σ) : α → Debugger → List Call → σ → Prop
  | intro {n : Nat} {result : α} {d : Debugger} {t : Transcribed (Rationed σ)}
    (done : op _ (Transcribed.start ⟨c, n⟩) = (result, d, t)) (enough : t.questions ≤ n) :
    Returns op c result d t.calls t.console.console

section Open

variable {σ : Type} [OpenConsole σ] {c : σ}

/-- A larger ration makes no difference. -/
theorem Uniform.larger (uniform : Uniform op) {n : Nat} {result : α} {d : Debugger}
    {t : Transcribed (Rationed σ)} (done : op _ (Transcribed.start ⟨c, n⟩) = (result, d, t))
    (enough : t.questions ≤ n) (more : Nat) :
    op _ (Transcribed.start (Rationed.mk c (n + more))) =
      (result, d, ⟨⟨t.console.console, t.console.left + more⟩, t.calls⟩) := by
  have start : Rationed.Larger n more (Transcribed.start ⟨c, n⟩)
      (Transcribed.start (Rationed.mk c (n + more))) := ⟨rfl, Nat.zero_add n⟩
  have agree := uniform _ _ _ _ _ _ (Rationed.larger_within enough more) start
    (calls_of_eq done)
  obtain ⟨u, right, rfl, -⟩ := agree.right done
  exact right

/-- What is returned does not depend on the ration. -/
theorem Returns.unique (uniform : Uniform op) {result result' : α} {d d' : Debugger}
    {calls calls' : List Call} {c₁ c₂ : σ} (h : Returns op c result d calls c₁)
    (h' : Returns op c result' d' calls' c₂) :
    result = result' ∧ d = d' ∧ calls = calls' ∧ c₁ = c₂ := by
  obtain @⟨n, _, _, t, done, enough⟩ := h
  obtain @⟨m, _, _, t', done', enough'⟩ := h'
  rcases Nat.le_total n m with le | le
  · obtain ⟨more, rfl⟩ := Nat.exists_eq_add_of_le le
    cases (uniform.larger done enough more).symm.trans done'
    exact ⟨rfl, rfl, rfl, rfl⟩
  · obtain ⟨more, rfl⟩ := Nat.exists_eq_add_of_le le
    cases (uniform.larger done' enough' more).symm.trans done
    exact ⟨rfl, rfl, rfl, rfl⟩

end Open

/-- On a console that has a bound, an operation returns what it comes to. -/
theorem returns_of_console (uniform : Uniform op) {s : σ} {result : α} {d : Debugger}
    {t : Transcribed σ} (done : op _ (Transcribed.start s) = (result, d, t)) :
    Returns op s result d t.calls t.console := by
  have start : Rationed.Meted t.questions (Transcribed.start s)
      (Transcribed.start ⟨s, t.questions⟩) := rfl
  have agree := uniform _ _ _ _ _ _ (Rationed.meted_within (Nat.le_refl _)) start
    (calls_of_eq done)
  obtain ⟨u, right, rfl⟩ := agree.right done
  exact .intro right (Nat.le_refl _)

end Debugger

/-! ## Scripts suffice -/

/-- The answer that a call was given, if it was a question. -/
def Call.answer? : Call → Option (Option String)
  | .read answer => some answer
  | _ => none

/-- A script that has been called like the console, and has the rest of the answers to `calls`. -/
def Script.Retells (calls : List Call) (t : Transcribed σ) (u : Transcribed Script) : Prop :=
  u.calls = t.calls ∧
    calls.filterMap Call.answer? = t.calls.filterMap Call.answer? ++ u.console.answers

omit [Console σ] in
theorem Script.Retells.call {calls : List Call} {t t' : Transcribed σ} {u u' : Transcribed Script}
    {call : Call} (retells : Script.Retells calls t u) (other : call.answer? = none)
    (left : t'.calls = t.calls ++ [call])
    (right : u'.calls = u.calls ++ [call] ∧ u'.console.answers = u.console.answers) :
    Script.Retells calls t' u' := by
  obtain ⟨same, answers⟩ := retells
  refine ⟨by rw [left, right.1, same], ?_⟩
  rw [left, right.2, List.filterMap_append, List.filterMap_cons_none other, List.filterMap_nil,
    List.append_nil]
  exact answers

theorem Script.retells_within (calls : List Call) :
    Console.SimulatesWithin calls (Script.Retells (σ := σ) calls) where
  display retells _ := retells.call rfl rfl ⟨rfl, rfl⟩
  pause retells _ := retells.call rfl rfl ⟨rfl, rfl⟩
  note retells _ := retells.call rfl rfl ⟨rfl, rfl⟩
  ask := by
    rintro t u ⟨same, answers⟩ ⟨rest, whole⟩
    -- The answer is the next one of `calls`, and so of the script.
    have next : u.console.answers = (Console.ask t).1 :: rest.filterMap Call.answer? := by
      rw [← whole, Transcribed.calls_ask] at answers
      simp only [List.filterMap_append, List.append_assoc] at answers
      exact (List.append_cancel_left answers).symm
    have asked : Console.ask u = ((Console.ask t).1,
        ⟨{ u.console with answers := rest.filterMap Call.answer? },
          u.calls ++ [.read (Console.ask t).1]⟩) := by
      simp only [Console.ask, Script.take, next]
    rw [asked]
    refine ⟨rfl, by rw [Transcribed.calls_ask, same], ?_⟩
    rw [← whole, List.filterMap_append]

namespace Debugger

variable {α : Type} {op : ∀ (σ : Type) [Console σ], σ → α × Debugger × σ}

/-- What an operation comes to on a console it comes to on the script of the answers that it was
given there, with the same calls. -/
theorem Uniform.on_script (uniform : Uniform op) {s : σ} {result : α} {d : Debugger}
    {t : Transcribed σ} (done : op _ (Transcribed.start s) = (result, d, t)) :
    ∃ u, op _ (Transcribed.start ({ answers := t.calls.filterMap Call.answer? } : Script)) =
      (result, d, u) ∧ u.calls = t.calls := by
  have start : Script.Retells t.calls (Transcribed.start s)
      (Transcribed.start { answers := t.calls.filterMap Call.answer? }) := ⟨rfl, rfl⟩
  have agree := uniform _ _ _ _ _ _ (Script.retells_within t.calls) start
    (calls_of_eq done)
  obtain ⟨u, right, same, -⟩ := agree.right done
  exact ⟨u, right, same⟩

/-- An operation that returns from an open console, with lines without end or not, comes to the
same on a script, with the same calls. -/
theorem Returns.on_script {σ : Type} [OpenConsole σ] (uniform : Uniform op) {c c' : σ} {result : α}
    {d : Debugger} {calls : List Call} (returns : Returns op c result d calls c') :
    ∃ (script : Script) (u : Transcribed Script),
      op _ (Transcribed.start script) = (result, d, u) ∧ u.calls = calls := by
  cases returns with
  | intro done enough => exact ⟨_, uniform.on_script done⟩

end Debugger

/-! ## An operation that does not return -/

/-- An operator who gives the same line for ever. -/
structure Parrot where
  line : String

instance : OpenConsole Parrot where
  display s _ := s
  ask s := (some s.line, s)
  pause s _ := s
  note s _ := s

namespace Debugger

/-- Whatever the ration, an operator who asks for help for ever uses it up. -/
theorem converse_help_questions (d : Debugger) (n : Nat) (calls : List Call) :
    (d.converse (Transcribed.mk (Rationed.mk (Parrot.mk "help") n) calls)).2.2.questions =
      calls.countP Call.isQuestion + n + 1 := by
  induction n generalizing calls with
  | zero =>
    rw [converse_eq]
    exact List.countP_append ..
  | succ n ih =>
    have parsed : OperatorCommand.parse "help" = .ok .help := by decide +kernel
    have exchanged : d.exchange (Transcribed.mk (Rationed.mk (Parrot.mk "help") (n + 1)) calls) =
        (none, d, Transcribed.mk (Rationed.mk (Parrot.mk "help") n)
          (calls ++ [.read (some "help")] ++ [.noted (.operatorCommand "help")] ++
            [.shown OperatorCommand.helpText])) := by
      simp only [exchange, Rationed.ask_succ, OpenConsole.ask, handle, begin, parsed, react]
      rfl
    rw [converse_eq, exchanged]
    simp only [ih, List.countP_append, List.countP_singleton, Call.isQuestion, if_true,
      Bool.false_eq_true, if_false]
    omega

/-- A conversation with an operator who asks for help for ever does not return. -/
theorem not_returns_help (d : Debugger) (resumes : Bool) (d' : Debugger) (calls : List Call)
    (c : Parrot) :
    ¬ Returns (fun _ _ s => d.converse s) (Parrot.mk "help") resumes d' calls c := by
  intro returns
  cases returns with
  | @intro n _ _ t done enough =>
    have asked := converse_help_questions d n []
    rw [Transcribed.start] at done
    rw [done] at asked
    simp only [List.countP_nil] at asked
    omega

end Debugger

end RegisterMachine
