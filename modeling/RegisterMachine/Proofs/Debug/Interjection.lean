import RegisterMachine.Proofs.Debug.Endless

/-!
# Lines that change nothing

At a prompt, a line that is refused, `help` and `states` have one text shown, and that is
all.  A session in which the operator gives such a line goes on as if they had not.

* `hear`: what an operator's line does to the journal.  `handle_refused`: a refused line does
  nothing else.  `suspendUntil_of_confirm`: a breakpoint that is confirmed is never refused.
* `Idle d line text`: the line is of this kind for `d`, and has `text` shown.
* `Spot` and `Moves`: where a run can be, in front of a step or at a prompt, and how it gets
  from one such place to the next.  `Moves.onward_eq`: what is left of the run there.
* `moves_abreast`: runs on consoles that answer alike are in the same places.  `Lockstep`: two
  scripts, which do so up to the line that only one of them has.
* `Resumed`: the two scripts after that line.
* `runSession_interjected`: the two sessions come to the same.
-/

namespace RegisterMachine

variable {σ τ : Type} [Console σ] [Console τ]

namespace Debugger

/-! ## Refused lines -/

/-- What is noted of an operator's line: the command that it gives, if it gives one. -/
def heard (line : String) : List Record :=
  match OperatorCommand.parse line with
  | .error _ => []
  | .ok command => [.operatorCommand command.name]

/-- The console once the operator's line has been noted. -/
def hear (line : String) (s : σ) : σ := (heard line).foldl Console.note s

theorem hear_of_parse {line : String} {command : OperatorCommand}
    (parsed : OperatorCommand.parse line = .ok command) (s : σ) :
    hear line s = Console.note s (.operatorCommand command.name) := by
  simp [hear, heard, parsed]

theorem hear_of_parse_error {line : String} {e : OperatorError}
    (malformed : OperatorCommand.parse line = .error e) (s : σ) : hear line s = s := by
  simp [hear, heard, malformed]

/-- A command is refused on every console or on none, and a refused command changes nothing. -/
theorem react_refused {d : Debugger} {command : OperatorCommand} {e : OperatorError} {s : σ}
    (refused : (d.react command s).1 = .error e) (t : τ) :
    d.react command t = (.error e, d, t) := by
  have mirrors : Console.Mirrors fun (_ : σ) (_ : τ) => True :=
    ⟨fun _ _ => trivial, fun _ _ => trivial, fun _ _ => trivial⟩
  obtain ⟨result, d', s', t', left, right, -⟩ := react_agree mirrors trivial d command
  rw [left] at refused
  obtain rfl : result = .error e := refused
  rcases react_cases right with ⟨_, same, rfl, rfl⟩ | ⟨_, other, -⟩ | ⟨_, other, -⟩
  · exact right
  · cases other
  · cases other

/-- A breakpoint that can be set is not refused when the operator answers. -/
theorem settle_of_allowed {d : Debugger} {target : Nat}
    (allowed : d.checkBreakpoint target = .ok ()) (answer : Option String) (s : σ) :
    ∃ v, (d.settle target answer s).1 = .ok v := by
  simp only [settle, suspendUntil, allowed]
  split <;> exact ⟨_, rfl⟩

/-- A line is refused on every console or on none, and a refused line changes nothing but the
journal. -/
theorem handle_refused {d : Debugger} {line : String} {e : OperatorError} {s : σ}
    (refused : (d.handle line s).1 = .error e) (t : τ) :
    d.handle line t = (.error e, d, hear line t) := by
  cases parsed : OperatorCommand.parse line with
  | error e' =>
    simp only [handle, begin, parsed, Except.error.injEq] at refused
    simp only [handle, begin, parsed, refused, hear_of_parse_error parsed]
  | ok command =>
    rcases reacted : d.react command (Console.note s (.operatorCommand command.name))
      with ⟨answer, d', s'⟩
    simp only [handle, begin, parsed, reacted] at refused
    rcases react_cases reacted with ⟨e', rfl, -, -⟩ | ⟨v, rfl, -⟩ | ⟨target, rfl, allowed, rfl⟩
    · cases refused
      have first : (d.react command (Console.note s (.operatorCommand command.name))).1 =
          .error e := by rw [reacted]
      simp only [handle, begin, parsed, react_refused first, hear_of_parse parsed]
    · cases refused
    · obtain ⟨v, settled⟩ := settle_of_allowed allowed (Console.ask s').1 (Console.ask s').2
      cases refused.symm.trans settled

/-- A breakpoint that the operator is asked to confirm can be set, so a line that has asked is
not refused any more. -/
theorem suspendUntil_of_confirm {d : Debugger} {line : String} {target : Nat} {s : σ}
    (begun : (d.begin line s).1 = .ok (.confirm target)) (t : τ) :
    (d.begin line s).2.1 = d ∧
      d.suspendUntil target t = (.ok (), { d with phase := .suspendedUntil target },
        Console.note t (.breakpointArmed target)) := by
  cases parsed : OperatorCommand.parse line with
  | error e => simp [begin, parsed] at begun
  | ok command =>
    rcases reacted : d.react command (Console.note s (.operatorCommand command.name))
      with ⟨answer, d', s'⟩
    simp only [begin, parsed, reacted] at begun ⊢
    rcases react_cases reacted with ⟨_, rfl, -, -⟩ | ⟨_, rfl, -⟩ | ⟨line, rfl, allowed, rfl⟩
    · cases begun
    · cases begun
    · cases begun
      exact ⟨rfl, by simp only [suspendUntil, allowed]⟩

/-- The line has one text shown and does nothing else. -/
inductive Idle (d : Debugger) (line : String) : String → Prop
  | refused {σ : Type} [Console σ] {s : σ} {e : OperatorError}
    (refused : (d.handle line s).1 = .error e) : Idle d line ("error: " ++ e.message)
  | help (parsed : OperatorCommand.parse line = .ok .help) : Idle d line OperatorCommand.helpText
  | states (parsed : OperatorCommand.parse line = .ok .states) :
    Idle d line (renderStates d.history)

/-- After an idle line the operator is asked again, and the debugger is the same. -/
theorem Idle.exchange {d : Debugger} {line text : String} (idle : Idle d line text) {s s' : σ}
    (asked : Console.ask s = (some line, s')) :
    d.exchange s = (none, d, Console.display (hear line s') text) := by
  cases idle with
  | refused refused =>
    simp only [Debugger.exchange, asked, handle_refused refused s', refuse]
  | help parsed | states parsed =>
    simp only [Debugger.exchange, asked, handle, begin, parsed, react, hear_of_parse parsed]

end Debugger

/-! ## Where a run can be -/

/-- A place in a run, with the debugger and the console there. -/
inductive Spot (σ : Type) where
  /-- In front of a step. -/
  | ahead (d : Debugger) (s : σ)
  /-- At a prompt, about to ask the operator. -/
  | prompt (d : Debugger) (s : σ)

namespace Spot

def console : Spot σ → σ
  | ahead _ s | prompt _ s => s

/-- What performing the command comes to, and the run after it. -/
def perform (d : Debugger) (s : σ) : Except Fault SessionEnd × Debugger × σ :=
  match d.execute s with
  | (.error f, d, s) => (.error f, d, s)
  | (.ok .exited, d, s) => (.ok .exited, d, s)
  | (.ok (.performed _), d, s) => d.run s

/-- What the rest of the run comes to. -/
def onward : Spot σ → Except Fault SessionEnd × Debugger × σ
  | ahead d s => d.run s
  | prompt d s =>
    match d.converse s with
    | (true, d, s) => perform d s
    | (false, d, s) => (.ok .exited, d, s)

end Spot

open Spot

/-- How a run gets from one place to the next. -/
inductive Moves : Spot σ → Spot σ → Prop
  | opened {d d' : Debugger} {s s' : σ} (running : d.machine.isHalted = false)
    (entered : d.enter s = (.prompting, d', s')) : Moves (.ahead d s) (.prompt d' s')
  | passed {d d₁ d' : Debugger} {s s₁ s' : σ} {o : Outcome}
    (running : d.machine.isHalted = false) (entered : d.enter s = (.ready, d₁, s₁))
    (executed : d₁.execute s₁ = (.ok (.performed o), d', s')) : Moves (.ahead d s) (.ahead d' s')
  | stayed {d d' : Debugger} {s s' : σ} (exchanged : d.exchange s = (none, d', s')) :
    Moves (.prompt d s) (.prompt d' s')
  | resumed {d d₁ d' : Debugger} {s s₁ s' : σ} {o : Outcome}
    (exchanged : d.exchange s = (some true, d₁, s₁))
    (executed : d₁.execute s₁ = (.ok (.performed o), d', s')) : Moves (.prompt d s) (.ahead d' s')

/-- The rest of the run is the same wherever the run has got to. -/
theorem Moves.onward_eq {a b : Spot σ} (moved : Moves a b) : a.onward = b.onward := by
  cases moved with
  | @opened d d' s s' running entered =>
    rw [onward, Debugger.run_eq, if_neg (by simp [running])]
    rcases conversed : d'.converse s' with ⟨resumes, d₁, s₁⟩
    simp only [Debugger.step, entered, onward, conversed]
    cases resumes with
    | false => rfl
    | true =>
      rcases executed : d₁.execute s₁ with ⟨_ | _ | _, d₂, s₂⟩ <;> simp only [perform, executed]
  | passed running entered executed =>
    rw [onward, Debugger.run_eq, if_neg (by simp [running])]
    simp only [Debugger.step, entered, executed, onward]
  | stayed exchanged => rw [onward, Debugger.converse_eq, exchanged, onward]
  | @resumed d d₁ d' s s₁ s' o exchanged executed =>
    have conversed : d.converse s = (true, d₁, s₁) := by rw [Debugger.converse_eq, exchanged]
    simp only [onward, conversed, perform, executed]

theorem onward_eq {a b : Spot σ} (moved : Relation.ReflTransGen Moves a b) :
    a.onward = b.onward := by
  induction moved with
  | refl => rfl
  | tail _ moved ih => exact ih.trans moved.onward_eq

/-- From a prompt, runs on related consoles come to the same. -/
theorem onward_agree {R : σ → τ → Prop} (simulates : Console.Simulates R) {s : σ} {t : τ}
    (related : R s t) (d : Debugger) :
    Debugger.Agree R (Spot.prompt d s).onward (Spot.prompt d t).onward := by
  obtain ⟨resumes, d₁, s₁, t₁, left, right, related⟩ :=
    Debugger.converse_agree simulates related d
  simp only [onward, left, right]
  cases resumes with
  | false => exact .intro _ _ related
  | true =>
    obtain ⟨result, d₂, s₂, t₂, left, right, related⟩ :=
      Debugger.execute_agree simulates.toMirrors related d₁
    simp only [perform, left, right]
    rcases result with f | (o | _)
    · exact .intro _ _ related
    · exact Debugger.run_agree simulates related d₂
    · exact .intro _ _ related

/-! ## Up to the line -/

/-- Two spots of one kind with the same debugger, on related consoles. -/
inductive Abreast (R : σ → τ → Prop) : Spot σ → Spot τ → Prop
  | ahead (d : Debugger) {s : σ} {t : τ} (related : R s t) : Abreast R (.ahead d s) (.ahead d t)
  | prompt (d : Debugger) {s : σ} {t : τ} (related : R s t) : Abreast R (.prompt d s) (.prompt d t)

/-- Two scripts, of which only the second has the line in front of its last answers, while
neither has got that far: the line is answer number `n`, counted from zero. -/
def Lockstep (n : Nat) (line : String) (after : List (Option String))
    (t u : Transcribed Script) : Prop :=
  t.calls = u.calls ∧ ∃ ahead, t.questions + ahead.length = n ∧
    t.console.answers = ahead ++ after ∧ u.console.answers = ahead ++ some line :: after

section Lockstep

variable {n : Nat} {line : String} {after : List (Option String)} {t u : Transcribed Script}

theorem Lockstep.start (before : List (Option String)) (line : String)
    (after : List (Option String)) :
    Lockstep before.length line after (.start { answers := before ++ after })
      (.start { answers := before ++ some line :: after }) :=
  ⟨rfl, before, Nat.zero_add _, rfl, rfl⟩

/-- A call that asks nothing keeps the scripts where they are. -/
theorem Lockstep.call {t' u' : Transcribed Script} {call : Call}
    (together : Lockstep n line after t u) (other : call.isQuestion = false)
    (left : t'.calls = t.calls ++ [call] ∧ t'.console.answers = t.console.answers)
    (right : u'.calls = u.calls ++ [call] ∧ u'.console.answers = u.console.answers) :
    Lockstep n line after t' u' := by
  obtain ⟨calls, ahead, count, answers, answers'⟩ := together
  refine ⟨?_, ahead, ?_, left.2.trans answers, right.2.trans answers'⟩
  · rw [left.1, right.1, calls]
  · rw [← count, Transcribed.questions, Transcribed.questions, left.1, List.countP_append,
      List.countP_singleton, other]
    rfl

/-- In front of the line, the scripts give the same answers. -/
theorem Lockstep.ask (together : Lockstep n line after t u)
    (early : (Console.ask t).2.questions ≤ n) :
    (Console.ask t).1 = (Console.ask u).1 ∧
      Lockstep n line after (Console.ask t).2 (Console.ask u).2 := by
  obtain ⟨calls, ahead, count, answers, answers'⟩ := together
  rw [t.questions_ask] at early
  cases ahead with
  | nil =>
    rw [List.length_nil] at count
    omega
  | cons answer ahead =>
    have asked : Console.ask t = (answer,
        ⟨{ t.console with answers := ahead ++ after }, t.calls ++ [.read answer]⟩) := by
      simp only [Console.ask, Script.take, answers, List.cons_append]
    have asked' : Console.ask u = (answer,
        ⟨{ u.console with answers := ahead ++ some line :: after },
          u.calls ++ [.read answer]⟩) := by
      simp only [Console.ask, Script.take, answers', List.cons_append]
    have counted := t.questions_ask
    rw [asked] at counted ⊢
    rw [asked']
    refine ⟨rfl, by rw [calls], ahead, ?_, rfl, rfl⟩
    rw [← count, counted, List.length_cons]
    omega

/-- The scripts do alike for as long as no more than `n` questions are asked. -/
theorem Lockstep.within {calls : List Call} (enough : calls.countP Call.isQuestion ≤ n) :
    Console.SimulatesWithin calls (Lockstep n line after) where
  display together _ := together.call rfl ⟨rfl, rfl⟩ ⟨rfl, rfl⟩
  pause together _ := together.call rfl ⟨rfl, rfl⟩ ⟨rfl, rfl⟩
  note together _ := together.call rfl ⟨rfl, rfl⟩ ⟨rfl, rfl⟩
  ask together early := together.ask (Nat.le_trans (Transcribed.questions_le early) enough)

end Lockstep

/-- A run on the other console moves along, as long as the two answer alike. -/
theorem Moves.abreast {calls : List Call} {R : Transcribed σ → Transcribed τ → Prop}
    (within : Console.SimulatesWithin calls R) {a b : Spot (Transcribed σ)}
    {a' : Spot (Transcribed τ)} (moved : Moves a b) (abreast : Abreast R a a')
    (early : b.console.calls <+: calls) : ∃ b', Moves a' b' ∧ Abreast R b b' := by
  cases moved with
  | opened running entered =>
    cases abreast with
    | ahead _ related =>
      obtain ⟨u, entered, related⟩ :=
        (Debugger.enter_agree within.toMirrors related _).right entered
      exact ⟨_, .opened running entered, .prompt _ related⟩
  | passed running entered executed =>
    cases abreast with
    | ahead _ related =>
      obtain ⟨u, entered, related⟩ :=
        (Debugger.enter_agree within.toMirrors related _).right entered
      obtain ⟨u, executed, related⟩ :=
        (Debugger.execute_agree within.toMirrors related _).right executed
      exact ⟨_, .passed running entered executed, .ahead _ related⟩
  | stayed exchanged =>
    cases abreast with
    | prompt _ related =>
      have agree :=
        Debugger.exchange_within within related _ ((Debugger.calls_of_eq exchanged).trans early)
      obtain ⟨u, exchanged, related⟩ := agree.right exchanged
      exact ⟨_, .stayed exchanged, .prompt _ related⟩
  | @resumed _ d₁ _ _ t₁ _ _ exchanged executed =>
    cases abreast with
    | prompt _ related =>
      have first := (Debugger.calls_of_eq exchanged).trans (Debugger.execute_extends d₁ t₁)
      have agree := Debugger.exchange_within within related _
        (first.trans ((Debugger.calls_of_eq executed).trans early))
      obtain ⟨u, exchanged, related⟩ := agree.right exchanged
      obtain ⟨u, executed, related⟩ :=
        (Debugger.execute_agree within.toMirrors related _).right executed
      exact ⟨_, .resumed exchanged executed, .ahead _ related⟩

theorem Moves.calls_grow {a b : Spot (Transcribed σ)} (moved : Moves a b) :
    a.console.calls <+: b.console.calls := by
  have asked (t : Transcribed σ) : t.calls <+: (Console.ask t).2.calls := List.prefix_append ..
  cases moved with
  | @opened d _ t _ _ entered =>
    exact (Debugger.enter_extends d t).trans (Debugger.calls_of_eq entered)
  | @passed d d₁ _ t t₁ _ _ _ entered executed =>
    have opened := (Debugger.enter_extends d t).trans (Debugger.calls_of_eq entered)
    have performed := (Debugger.execute_extends d₁ t₁).trans (Debugger.calls_of_eq executed)
    exact opened.trans performed
  | @stayed d _ t _ exchanged =>
    have heard := (Debugger.exchange_extends d t).trans (Debugger.calls_of_eq exchanged)
    exact (asked t).trans heard
  | @resumed d d₁ _ t t₁ _ _ exchanged executed =>
    have heard := (Debugger.exchange_extends d t).trans (Debugger.calls_of_eq exchanged)
    have performed := (Debugger.execute_extends d₁ t₁).trans (Debugger.calls_of_eq executed)
    exact ((asked t).trans heard).trans performed

theorem moves_abreast {calls : List Call} {R : Transcribed σ → Transcribed τ → Prop}
    (within : Console.SimulatesWithin calls R) {a b : Spot (Transcribed σ)}
    {a' : Spot (Transcribed τ)} (moved : Relation.ReflTransGen Moves a b)
    (abreast : Abreast R a a') (early : b.console.calls <+: calls) :
    ∃ b', Relation.ReflTransGen Moves a' b' ∧ Abreast R b b' := by
  induction moved with
  | refl => exact ⟨a', .refl, abreast⟩
  | tail _ moved ih =>
    obtain ⟨b', before, abreast⟩ := ih (moved.calls_grow.trans early)
    obtain ⟨c', moved, abreast⟩ := moved.abreast within abreast early
    exact ⟨c', before.tail moved, abreast⟩

/-! ## After the line -/

/-- Two consoles that answer alike from now on, with the calls made to them up to now. -/
def Resumed (calls calls' : List Call) (t u : Transcribed Script) : Prop :=
  t.console.answers = u.console.answers ∧ ∃ rest, t.calls = calls ++ rest ∧ u.calls = calls' ++ rest

theorem Resumed.call {calls calls' : List Call} {t u t' u' : Transcribed Script}
    (resumed : Resumed calls calls' t u) (call : Call)
    (answers : t'.console.answers = u'.console.answers) (left : t'.calls = t.calls ++ [call])
    (right : u'.calls = u.calls ++ [call]) : Resumed calls calls' t' u' := by
  obtain ⟨-, rest, here, there⟩ := resumed
  refine ⟨answers, rest ++ [call], ?_, ?_⟩
  · rw [left, here, List.append_assoc]
  · rw [right, there, List.append_assoc]

theorem Resumed.simulates (calls calls' : List Call) :
    Console.Simulates (Resumed calls calls') where
  display resumed text := resumed.call (.shown text) resumed.1 rfl rfl
  pause resumed delay := resumed.call (.paused delay) resumed.1 rfl rfl
  note resumed record := resumed.call (.noted record) resumed.1 rfl rfl
  ask := by
    intro t u resumed
    have same : (Console.ask t).1 = (Console.ask u).1 := by
      simp only [Console.ask, Script.take, resumed.1]
      split <;> rfl
    refine ⟨same, resumed.call (.read (Console.ask t).1) ?_ rfl (by rw [same]; rfl)⟩
    simp only [Console.ask, Script.take, resumed.1]
    split <;> simp [resumed.1]

/-! ## Sessions -/

/-- The calls that an idle line makes at a prompt. -/
def idleCalls (line text : String) : List Call :=
  .read (some line) :: (Debugger.heard line).map Call.noted ++ [.shown text]

theorem hear_calls (line : String) (t : Transcribed Script) :
    (Debugger.hear line t).calls = t.calls ++ (Debugger.heard line).map Call.noted ∧
      (Debugger.hear line t).console.answers = t.console.answers := by
  unfold Debugger.hear Debugger.heard
  cases OperatorCommand.parse line with
  | error e => simp
  | ok command => exact ⟨rfl, rfl⟩

theorem answers_display (t : Transcribed Script) (text : String) :
    (Console.display t text).console.answers = t.console.answers := rfl

/-- An idle line that is next on a script is used up, and that is all. -/
theorem Debugger.Idle.exchange_script {d : Debugger} {line text : String}
    (idle : d.Idle line text) {after : List (Option String)} {t : Transcribed Script}
    (answers : t.console.answers = some line :: after) :
    ∃ t', d.exchange t = (none, d, t') ∧ t'.console.answers = after ∧
      t'.calls = t.calls ++ idleCalls line text := by
  have asked : Console.ask t = (some line,
      ⟨{ t.console with answers := after }, t.calls ++ [.read (some line)]⟩) := by
    simp only [Console.ask, Script.take, answers]
  obtain ⟨calls, rest⟩ := hear_calls line
    ⟨{ t.console with answers := after }, t.calls ++ [.read (some line)]⟩
  refine ⟨_, idle.exchange asked, ?_, ?_⟩
  · rw [answers_display, rest]
  · rw [Transcribed.calls_display, calls, idleCalls]
    simp

/-- Two runs, of which the second is given an idle line at a prompt of the first, come to the
same and differ in the calls of this line. -/
theorem run_interjected {d₀ d : Debugger} {before after : List (Option String)}
    {line text : String} {t : Transcribed Script}
    (moved : Relation.ReflTransGen Moves
      (.ahead d₀ (.start ({ answers := before ++ after } : Script))) (.prompt d t))
    (count : t.questions = before.length) (idle : d.Idle line text) :
    Debugger.Agree (Resumed t.calls (t.calls ++ idleCalls line text))
      (d₀.run (.start ({ answers := before ++ after } : Script)))
      (d₀.run (.start ({ answers := before ++ some line :: after } : Script))) := by
  obtain ⟨spot, moved', abreast⟩ := moves_abreast (Lockstep.within (Nat.le_of_eq count)) moved
    (.ahead d₀ (Lockstep.start before line after)) List.prefix_rfl
  cases abreast with
  | @prompt _ _ u together =>
    obtain ⟨calls, ahead, counted, answers, answers'⟩ := together
    have none_ahead : ahead = [] := List.length_eq_zero_iff.mp (by omega)
    subst none_ahead
    -- The line is read and has its text shown; then both are at the same prompt.
    obtain ⟨u', exchanged, rest, more⟩ := idle.exchange_script answers'
    have resumed : Resumed t.calls (t.calls ++ idleCalls line text) t u' := by
      refine ⟨answers.trans rest.symm, [], (List.append_nil _).symm, ?_⟩
      rw [more, calls, List.append_nil]
    have here : d₀.run _ = _ := onward_eq moved
    have there : d₀.run _ = _ := onward_eq (moved'.tail (.stayed exchanged))
    rw [here, there]
    exact onward_agree (Resumed.simulates _ _) resumed d

/-- A refused line leaves the debugger as it is and nothing on the console but a note, and
once the operator is asked to confirm a breakpoint, it can be set.  So a session in which the
operator gives a line that is refused, or asks for help or the states, at any prompt comes to
the same result and the same debugger as without this line.  What is read, shown, waited for
and noted is the same too, apart from the calls of this line. -/
theorem runSession_interjected :
    (∀ {σ : Type} [Console σ] (d d' : Debugger) (line : String) (s s' : σ) (e : OperatorError),
      d.handle line s = (.error e, d', s') → d' = d ∧ s' = Debugger.hear line s) ∧
    (∀ {σ : Type} [Console σ] (d : Debugger) (line : String) (s t : σ) (target : Nat),
      (d.begin line s).1 = .ok (.confirm target) → (d.begin line s).2.1 = d ∧
        d.suspendUntil target t = (.ok (), { d with phase := .suspendedUntil target },
          Console.note t (.breakpointArmed target))) ∧
    ∀ (program : Program) (input : List Value) (settings : Settings) (d₀ d : Debugger)
      (before after : List (Option String)) (line text : String) (t : Transcribed Script),
      let plain : Script := { answers := before ++ after }
      let interjected : Script := { answers := before ++ some line :: after }
      Debugger.create (Machine.start program input) settings = .ok d₀ →
      Relation.ReflTransGen Moves (.ahead d₀ (.start plain)) (.prompt d t) →
      t.questions = before.length → d.Idle line text →
      (runSession program input settings interjected).1 =
          (runSession program input settings plain).1 ∧
        (d₀.run interjected).1 = (d₀.run plain).1 ∧
        (d₀.run interjected).2.1 = (d₀.run plain).2.1 ∧
        ∃ rest,
          (runSession program input settings (Transcribed.start plain)).2.calls =
            t.calls ++ rest ∧
          (runSession program input settings (Transcribed.start interjected)).2.calls =
            t.calls ++ idleCalls line text ++ rest := by
  refine ⟨fun d d' line s s' e refused => ?_,
    fun d line s t target begun => Debugger.suspendUntil_of_confirm begun t, ?_⟩
  · have unchanged := Debugger.handle_refused (congrArg Prod.fst refused) s
    cases refused.symm.trans unchanged
    exact ⟨rfl, rfl⟩
  · intro program input settings d₀ d before after line text t plain interjected created moved
      count idle
    have agree := run_interjected moved count idle
    have concluded := concludeSession_agree (Resumed.simulates _ _).toMirrors agree
    have bare (script : Script) :
        d₀.run script = ((d₀.run (Transcribed.start script)).1,
          (d₀.run (Transcribed.start script)).2.1,
          (d₀.run (Transcribed.start script)).2.2.console) :=
      Transcribed.eq_of_agree
        (Debugger.run_agree Transcribed.simulates (t := Transcribed.start script) rfl d₀)
    have session (script : Script) : (runSession program input settings script).1 =
        (concludeSession (d₀.run (Transcribed.start script))).1 := by
      have same := runSession_agree Transcribed.simulates (t := Transcribed.start script) rfl
        program input settings
      refine same.1.trans ?_
      rw [runSession, created]
    obtain ⟨result, d', t', u', left, right, -⟩ := agree
    refine ⟨?_, ?_, ?_, ?_⟩
    · rw [session, session]
      exact concluded.1.symm
    · rw [bare, bare, left, right]
    · rw [bare, bare, left, right]
    · simp only [runSession, created]
      exact concluded.2.2

/-- An operator asks for a breakpoint and does not confirm it.  At the prompt after that they
may just as well ask for a snapshot that there is not. -/
theorem runSession_interjected_rollback :
    let program : Program := ⟨[⟨.load, .immediate 1, 1⟩, ⟨.halt, .immediate 0, 2⟩]⟩
    let settings : Settings := { interactive := true }
    let d₀ : Debugger := ⟨Machine.start program [], settings, ⟨1, 0⟩, #[], .running, false⟩
    let before := [some "suspenduntil 2", some "n"]
    let plain : Script := { answers := before ++ [some "", some "step"] }
    let interjected : Script := { answers := before ++ some "rollback 7" :: [some "", some "step"] }
    (∃ (d : Debugger) (t : Transcribed Script),
      Relation.ReflTransGen Moves (.ahead d₀ (.start plain)) (.prompt d t) ∧
      t.questions = before.length ∧
      d.Idle "rollback 7" "error: no snapshot 7; history holds 1 snapshot(s)") ∧
    (runSession program [] settings plain).1 = .ok ⟨.halted, #[], 2⟩ ∧
    (runSession program [] settings interjected).1 = .ok ⟨.halted, #[], 2⟩ ∧
    (d₀.run interjected).2.1 = (d₀.run plain).2.1 := by
  intro program settings d₀ before plain interjected
  have created : Debugger.create (Machine.start program []) settings = .ok d₀ := rfl
  let opened := d₀.enter (Transcribed.start plain)
  let stayed := opened.2.1.exchange opened.2.2
  have moved : Relation.ReflTransGen Moves (.ahead d₀ (.start plain))
      (.prompt stayed.2.1 stayed.2.2) := by
    have first : Moves (.ahead d₀ (.start plain)) (.prompt opened.2.1 opened.2.2) :=
      .opened (by decide) (Prod.ext (by decide +kernel) rfl)
    have second : Moves (.prompt opened.2.1 opened.2.2) (.prompt stayed.2.1 stayed.2.2) :=
      .stayed (Prod.ext (by decide +kernel) rfl)
    exact (Relation.ReflTransGen.single first).tail second
  have count : stayed.2.2.questions = before.length := by decide +kernel
  have idle : stayed.2.1.Idle "rollback 7" "error: no snapshot 7; history holds 1 snapshot(s)" := by
    have text : "error: no snapshot 7; history holds 1 snapshot(s)" =
        "error: " ++ (OperatorError.snapshotOutOfRange 7 1).message := by decide +kernel
    rw [text]
    exact .refused (s := ({} : SilentConsole)) (by decide +kernel)
  have halts : (runSession program [] settings plain).1 = .ok ⟨.halted, #[], 2⟩ := by
    decide +kernel
  obtain ⟨same, -, debugger, -⟩ := runSession_interjected.2.2 program [] settings d₀ _ before
    [some "", some "step"] "rollback 7" _ _ created moved count idle
  exact ⟨⟨_, _, moved, count, idle⟩, halts, same.trans halts, debugger⟩

end RegisterMachine
