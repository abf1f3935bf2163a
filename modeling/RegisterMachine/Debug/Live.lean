import RegisterMachine.Debug.Debugger

/-!
# Live operators

An operator at a keyboard answers one question at a time, and the session waits in
between. `Debugger.reply` is what one answer does; it reads nothing itself.

- `exchange_eq_reply`: the exchanges of a session are made of such replies.
-/

namespace RegisterMachine

/-- What the operator is asked for: a command, or a yes to the breakpoint on a line. -/
inductive Question where
  | command
  | breakpoint (line : Nat)
  deriving DecidableEq, Repr

/-- What an answer leads to. -/
inductive Reply where
  | ask (question : Question)
  | resume
  | leave
  deriving DecidableEq, Repr

namespace Debugger

variable {σ : Type} [Console σ]

/-- Does what a verdict calls for. -/
def conclude (d : Debugger) (v : Verdict) : Reply × Debugger :=
  match v with
  | .resume => (.resume, d.resume)
  | .exit => (.leave, d.terminate)
  | .stay => (.ask .command, d)

/-- What the answer to a question does. Closed input ends the session at a prompt, and
is no yes to a breakpoint. -/
def reply (d : Debugger) (question : Question) (answer : Option String) (s : σ) :
    Reply × Debugger × σ :=
  match question with
  | .breakpoint line =>
    match d.settle line answer s with
    | (.error e, d, s) => (.ask .command, d, refuse e s)
    | (.ok v, d, s) =>
      let (r, d) := d.conclude v
      (r, d, s)
  | .command =>
    match answer with
    | none => (.leave, d.terminate, s)
    | some line =>
      match d.begin line s with
      | (.error e, d, s) => (.ask .command, d, refuse e s)
      | (.ok (.confirm line), d, s) => (.ask (.breakpoint line), d, s)
      | (.ok (.verdict v), d, s) =>
        let (r, d) := d.conclude v
        (r, d, s)

/-- How a reply settles an exchange, if it does. -/
def settled : Reply → Option Bool
  | .ask _ => none
  | .resume => some true
  | .leave => some false

/-- An exchange asks for a command, and then for a yes if the command needs one. -/
theorem exchange_eq_reply (d : Debugger) (s : σ) :
    d.exchange s =
      (let (answer, s) := Console.ask s
      match d.reply .command answer s with
      | (.ask (.breakpoint line), d, s) =>
        let (answer, s) := Console.ask s
        let (r, d, s) := d.reply (.breakpoint line) answer s
        (settled r, d, s)
      | (r, d, s) => (settled r, d, s)) := by
  unfold exchange handle
  rcases Console.ask s with ⟨_ | line, s⟩
  · rfl
  · simp only [reply]
    rcases d.begin line s with ⟨_ | ⟨v⟩ | target, d, s⟩
    · rfl
    · cases v <;> rfl
    · simp only
      rcases d.settle target (Console.ask s).1 (Console.ask s).2 with ⟨_ | v, d, s⟩
      · rfl
      · cases v <;> rfl

end Debugger

end RegisterMachine
