import RegisterMachine.Language.Program

/-!
# What compiled programs hold

Program text cannot write every operand.  `Program.literal_lt` says that the literals of
a compiled program fit a signed word, so that none is capped when it is used as a value.
-/

namespace RegisterMachine

theorem Operand.literal_lt_of_ofToken? {token : String} {o : Operand}
    (accepted : Operand.ofToken? token = some o) : o.literal.toNat < valueBound := by
  simp only [Operand.ofToken?] at accepted
  split at accepted
  · split at accepted
    · rename_i n _ fits
      cases accepted
      have small : n < wordBound := Nat.lt_trans fits.2 (by decide)
      rw [Address.toNat_ofNat small]
      exact fits.2
    · cases accepted
  · cases accepted

theorem Command.literal_lt_of_operandOf {words : List String} {o : Operand}
    (accepted : Command.operandOf words = .ok o) : o.literal.toNat < valueBound := by
  rcases words with _ | ⟨token, rest⟩
  · cases accepted
    decide
  · rcases found : Operand.ofToken? token with _ | operand
    · simp only [Command.operandOf, found, reduceCtorEq] at accepted
    · rcases rest with _ | ⟨surplus, rest⟩
      · simp only [Command.operandOf, found, Except.ok.injEq] at accepted
        exact accepted ▸ Operand.literal_lt_of_ofToken? found
      · simp only [Command.operandOf, found, reduceCtorEq] at accepted

theorem Command.literal_lt_of_parse {text : String} {line : Nat} {c : Command}
    (accepted : Command.parse text line = .ok c) : c.operand.literal.toNat < valueBound := by
  simp only [Command.parse, Command.ofWords] at accepted
  split at accepted
  · cases accepted
  · rcases found : Command.operandOf (Text.words text).tail with _ | operand
    · simp only [found, Except.map, reduceCtorEq] at accepted
    · simp only [found, Except.map, Except.ok.injEq] at accepted
      exact accepted ▸ Command.literal_lt_of_operandOf found

namespace Program

theorem literal_lt_of_commandsFrom {line : Nat} {texts : List String} {commands : List Command}
    (accepted : commandsFrom line texts = .ok commands) :
    ∀ c ∈ commands, c.operand.literal.toNat < valueBound := by
  induction texts generalizing line commands with
  | nil =>
    cases accepted
    simp
  | cons text rest ih =>
    rcases head : Command.parse text line with cause | c
    · simp only [commandsFrom, head, reduceCtorEq] at accepted
    · rcases tail : commandsFrom (line + 1) rest with e | others
      · simp only [commandsFrom, head, tail, Except.map, reduceCtorEq] at accepted
      · simp only [commandsFrom, head, tail, Except.map, Except.ok.injEq] at accepted
        subst accepted
        exact List.forall_mem_cons.2 ⟨Command.literal_lt_of_parse head, ih tail⟩

/-- The literals of a compiled program are signed words. -/
theorem literal_lt {texts : List String} {program : Program} {line : Nat} {c : Command}
    (compiled : ofLines texts = .ok program) (fetched : program.get? line = some c) :
    c.operand.literal.toNat < valueBound := by
  rcases read : commandsFrom 1 texts with e | commands
  · simp only [ofLines, read, Except.map, reduceCtorEq] at compiled
  · simp only [ofLines, read, Except.map, Except.ok.injEq] at compiled
    subst compiled
    rcases line with _ | i
    · cases fetched
    · exact literal_lt_of_commandsFrom read c (List.mem_of_getElem? fetched)

end Program

end RegisterMachine
