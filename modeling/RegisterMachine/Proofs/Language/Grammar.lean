import RegisterMachine.Language.Program
import RegisterMachine.Proofs.Text.Decimal
import RegisterMachine.Proofs.Text.Letters
import RegisterMachine.Proofs.Text.Pieces

/-!
# The grammar of program text

What a line of program text may be is said here without any reading: as the tokens that it
may be a layout of, the names that an instruction goes by, and the ways in which an operand
may be written.

* `Instruction.NamedBy`, `Operand.WrittenAs`: what a token may stand for.
* `Line.Reads` and `Line.Flawed`: a line that is a command, and a line that is none, with
  the first thing that is wrong with it.
* `Command.parse_eq_ok_iff` and `Command.parse_eq_error_iff`: a line is read and refused
  accordingly.
* `Program.ofLines_grammar`: a program is read from exactly the lists of such lines, and
  the first flawed line is the reason why another list is refused.
-/

namespace RegisterMachine

/-! ## Tokens -/

/-- The token is a name of the instruction, in letters of either case. -/
def Instruction.NamedBy (i : Instruction) (token : String) : Prop :=
  Text.SameLetters token i.mnemonic ∨ (i = .mul ∧ Text.SameLetters token "MULT")

theorem Instruction.namedBy_iff {i : Instruction} {token : String} :
    i.NamedBy token ↔
      Text.upper token = i.mnemonic ∨ (i = .mul ∧ Text.upper token = mulAlias) := by
  have capitals : Text.upper i.mnemonic = i.mnemonic := by cases i <;> decide +kernel
  have aliasCapitals : Text.upper mulAlias = mulAlias := by decide +kernel
  rw [NamedBy, ← Text.upper_eq_iff, ← Text.upper_eq_iff, capitals]
  exact or_congr_right (and_congr_right' (by rw [← aliasCapitals]; rfl))

/-- No two instructions share a mnemonic. -/
theorem Instruction.find?_mnemonic (i : Instruction) :
    all.find? (fun j => j.mnemonic = i.mnemonic) = some i := by
  cases i <;> decide +kernel

theorem Instruction.ofMnemonic?_eq_some_iff {token : String} {i : Instruction} :
    ofMnemonic? token = some i ↔ i.NamedBy token := by
  rw [namedBy_iff]
  by_cases second : Text.upper token = mulAlias
  · have other : mulAlias ≠ i.mnemonic := by cases i <;> decide +kernel
    simp [ofMnemonic?, second, other, eq_comm]
  · simp only [ofMnemonic?, second, if_false, and_false, or_false]
    constructor
    · intro found
      simpa [eq_comm] using List.find?_some found
    · intro same
      rw [same]
      exact find?_mnemonic i

theorem Instruction.ofMnemonic?_eq_none_iff {token : String} :
    ofMnemonic? token = none ↔ ∀ i : Instruction, ¬ i.NamedBy token := by
  simp only [Option.eq_none_iff_forall_ne_some, Ne, ofMnemonic?_eq_some_iff]

/-- The token is markers and digits: at most 32 markers, and one digit or more that denote
a signed word. -/
structure Operand.WrittenAs (o : Operand) (token : String) : Prop where
  shape : ∃ digits, token.toList = List.replicate o.markers.toNat '*' ++ digits ∧ digits ≠ [] ∧
    (∀ c ∈ digits, c.isDigit) ∧ Nat.ofDigitChars 10 digits 0 = o.literal.toNat
  markers_le : o.markers.toNat ≤ 32
  literal_le : o.literal.toNat ≤ Int64.maxValue.toInt

/-- A text is its leading markers and the rest. -/
theorem Operand.markers_append (cs : List Char) :
    List.replicate (cs.takeWhile (· = marker)).length marker ++ cs.dropWhile (· = marker) = cs := by
  have taken : cs.takeWhile (· = marker) = List.replicate _ marker :=
    List.eq_replicate_of_mem fun c member => by
      simpa using List.all_eq_true.mp List.all_takeWhile c member
  rw [← taken]
  exact List.takeWhile_append_dropWhile

/-- Digits behind markers are told apart from them. -/
theorem Operand.cut_markers (k : Nat) {digits : List Char} (all : ∀ c ∈ digits, c.isDigit) :
    ((List.replicate k marker ++ digits).takeWhile (· = marker)).length = k ∧
      (List.replicate k marker ++ digits).dropWhile (· = marker) = digits := by
  have bare : digits.head? ≠ some marker := by
    intro head
    exact absurd (all marker (List.mem_of_mem_head? head)) (by decide)
  induction k with
  | zero =>
    cases digits with
    | nil => simp
    | cons c digits =>
      have other : ¬ c = marker := by simpa using bare
      simp [other]
  | succ k ih => simpa [List.replicate_succ] using ih

theorem Operand.ofToken?_eq_some_iff {token : String} {o : Operand} :
    ofToken? token = some o ↔ o.WrittenAs token := by
  have fits {n : Nat} : n < valueBound ↔ (n : Int) ≤ Int64.maxValue.toInt := by
    change n < 9223372036854775808 ↔ (n : Int) ≤ 9223372036854775807
    omega
  constructor
  · intro read
    unfold ofToken? at read
    simp only at read
    split at read
    · rename_i n denoted
      split at read
      · rename_i within
        obtain ⟨nonempty, digits, value⟩ := Text.natural?_eq_some_iff.mp denoted
        have literal : (UInt64.ofNat n).toNat = n :=
          Address.toNat_ofNat (Nat.lt_trans within.2 (by decide))
        have markers : (UInt32.ofNat (token.toList.takeWhile (· = marker)).length).toNat =
            (token.toList.takeWhile (· = marker)).length :=
          UInt32.toNat_ofNat_of_lt' (Nat.lt_of_le_of_lt within.1 (by decide))
        cases read
        refine ⟨⟨_, ?_, nonempty, digits, value.trans literal.symm⟩, ?_, ?_⟩
        · rw [markers]
          exact (markers_append token.toList).symm
        · rw [markers]
          exact within.1
        · rw [literal]
          exact fits.mp within.2
      · cases read
    · cases read
  · rintro ⟨⟨digits, shape, nonempty, all, value⟩, markers_le, literal_le⟩
    obtain ⟨count, rest⟩ := cut_markers o.markers.toNat all
    have denoted := Text.natural?_eq_some_iff.mpr ⟨nonempty, all, value⟩
    have within : o.markers.toNat ≤ maxMarkers ∧ o.literal.toNat < valueBound :=
      ⟨markers_le, fits.mpr literal_le⟩
    change token.toList = List.replicate o.markers.toNat marker ++ digits at shape
    simp only [ofToken?, shape, count, rest, denoted, within, and_self, if_true, UInt64.ofNat_toNat,
      UInt32.ofNat_toNat]

theorem Operand.ofToken?_eq_none_iff {token : String} :
    ofToken? token = none ↔ ∀ o : Operand, ¬ o.WrittenAs token := by
  simp only [Option.eq_none_iff_forall_ne_some, Ne, ofToken?_eq_some_iff]

/-! ## Lines -/

/-- The tokens of a command: a name of its instruction, and its operand unless that is the
one which stands for none. -/
inductive Command.Phrase (i : Instruction) : Operand → List String → Prop
  | bare {name : String} (named : i.NamedBy name) : Phrase i ⟨0, 0⟩ [name]
  | full {name token : String} {o : Operand} (named : i.NamedBy name)
    (written : o.WrittenAs token) : Phrase i o [name, token]

/-- What is wrong with tokens, the name before the operand and the operand before what
stands behind it. -/
inductive Command.Flaw : List String → LineError → Prop
  | blank : Flaw [] (.unknownInstruction "")
  | name {name : String} {rest : List String} (unnamed : ∀ i : Instruction, ¬ i.NamedBy name) :
    Flaw (name :: rest) (.unknownInstruction name)
  | operand {i : Instruction} {name token : String} {rest : List String} (named : i.NamedBy name)
    (unwritten : ∀ o : Operand, ¬ o.WrittenAs token) :
    Flaw (name :: token :: rest) (.malformedOperand token)
  | surplus {i : Instruction} {o : Operand} {name token surplus : String} {rest : List String}
    (named : i.NamedBy name) (written : o.WrittenAs token) :
    Flaw (name :: token :: surplus :: rest) (.surplusToken surplus)

/-- The line is a command with this instruction and this operand. -/
def Line.Reads (text : String) (i : Instruction) (o : Operand) : Prop :=
  ∃ tokens, Text.Spaced Text.isBlank (tokens.map String.toList) text.toList ∧
    Command.Phrase i o tokens

/-- The line is no command, for this reason. -/
def Line.Flawed (text : String) (e : LineError) : Prop :=
  ∃ tokens, Text.Spaced Text.isBlank (tokens.map String.toList) text.toList ∧
    Command.Flaw tokens e

namespace Command

theorem ofWords_of_phrase {i : Instruction} {o : Operand} {tokens : List String} (line : Nat)
    (phrase : Phrase i o tokens) : ofWords line tokens = .ok ⟨i, o, line⟩ := by
  cases phrase with
  | bare named =>
    have found := Instruction.ofMnemonic?_eq_some_iff.mpr named
    simp only [ofWords, List.headD_cons, List.tail_cons, found, operandOf]
    rfl
  | full named written =>
    have found := Instruction.ofMnemonic?_eq_some_iff.mpr named
    have read := Operand.ofToken?_eq_some_iff.mpr written
    simp only [ofWords, List.headD_cons, List.tail_cons, found, operandOf, read]
    rfl

theorem ofWords_of_flaw {tokens : List String} {e : LineError} (line : Nat)
    (flaw : Flaw tokens e) : ofWords line tokens = .error e := by
  cases flaw with
  | blank => rfl
  | name unnamed =>
    have missing := Instruction.ofMnemonic?_eq_none_iff.mpr unnamed
    simp only [ofWords, List.headD_cons, missing]
  | operand named unwritten =>
    have found := Instruction.ofMnemonic?_eq_some_iff.mpr named
    have refused := Operand.ofToken?_eq_none_iff.mpr unwritten
    simp only [ofWords, List.headD_cons, List.tail_cons, found, operandOf, refused]
    rfl
  | surplus named written =>
    have found := Instruction.ofMnemonic?_eq_some_iff.mpr named
    have read := Operand.ofToken?_eq_some_iff.mpr written
    simp only [ofWords, List.headD_cons, List.tail_cons, found, operandOf, read]
    rfl

/-- Any tokens are a phrase or have a flaw. -/
theorem phrase_or_flaw (tokens : List String) :
    (∃ i o, Phrase i o tokens) ∨ ∃ e, Flaw tokens e := by
  rcases tokens with _ | ⟨name, rest⟩
  · exact .inr ⟨_, .blank⟩
  rcases found : Instruction.ofMnemonic? name with _ | i
  · exact .inr ⟨_, .name (Instruction.ofMnemonic?_eq_none_iff.mp found)⟩
  have named := Instruction.ofMnemonic?_eq_some_iff.mp found
  rcases rest with _ | ⟨token, rest⟩
  · exact .inl ⟨i, _, .bare named⟩
  rcases read : Operand.ofToken? token with _ | o
  · exact .inr ⟨_, .operand named (Operand.ofToken?_eq_none_iff.mp read)⟩
  have written := Operand.ofToken?_eq_some_iff.mp read
  rcases rest with _ | ⟨surplus, rest⟩
  · exact .inl ⟨i, o, .full named written⟩
  · exact .inr ⟨_, .surplus named written⟩

theorem ofWords_eq_ok_iff {line : Nat} {tokens : List String} {c : Command} :
    ofWords line tokens = .ok c ↔ Phrase c.instruction c.operand tokens ∧ c.line = line := by
  constructor
  · intro read
    rcases phrase_or_flaw tokens with ⟨i, o, phrase⟩ | ⟨e, flaw⟩
    · rw [ofWords_of_phrase line phrase] at read
      cases read
      exact ⟨phrase, rfl⟩
    · rw [ofWords_of_flaw line flaw] at read
      cases read
  · rintro ⟨phrase, rfl⟩
    exact ofWords_of_phrase c.line phrase

theorem ofWords_eq_error_iff {line : Nat} {tokens : List String} {e : LineError} :
    ofWords line tokens = .error e ↔ Flaw tokens e := by
  constructor
  · intro refused
    rcases phrase_or_flaw tokens with ⟨i, o, phrase⟩ | ⟨e', flaw⟩
    · rw [ofWords_of_phrase line phrase] at refused
      cases refused
    · rw [ofWords_of_flaw line flaw] at refused
      cases refused
      exact flaw
  · exact ofWords_of_flaw line

/-- A line is read as the command that it is, whatever its layout. -/
theorem parse_eq_ok_iff {text : String} {line : Nat} {c : Command} :
    parse text line = .ok c ↔ Line.Reads text c.instruction c.operand ∧ c.line = line := by
  simp [parse, ofWords_eq_ok_iff, Line.Reads, ← Text.words_eq_iff]

theorem parse_eq_error_iff {text : String} {line : Nat} {e : LineError} :
    parse text line = .error e ↔ Line.Flawed text e := by
  simp [parse, ofWords_eq_error_iff, Line.Flawed, ← Text.words_eq_iff]

/-- No line is a command and flawed. -/
theorem not_flawed_of_reads {text : String} {i : Instruction} {o : Operand} {e : LineError}
    (reads : Line.Reads text i o) : ¬ Line.Flawed text e := by
  intro flawed
  have read : parse text 1 = .ok ⟨i, o, 1⟩ := parse_eq_ok_iff.mpr ⟨reads, rfl⟩
  rw [parse_eq_error_iff.mpr flawed] at read
  cases read

end Command

/-! ## Programs -/

namespace Program

theorem commandsFrom_cons_eq_ok_iff {line : Nat} {text : String} {rest : List String}
    {commands : List Command} :
    commandsFrom line (text :: rest) = .ok commands ↔
      ∃ c others, Command.parse text line = .ok c ∧ commandsFrom (line + 1) rest = .ok others ∧
        commands = c :: others := by
  rcases head : Command.parse text line with cause | c
  · simp [commandsFrom, head]
  · rcases tail : commandsFrom (line + 1) rest with e | others
    · simp [commandsFrom, head, tail, Except.map]
    · simp [commandsFrom, head, tail, Except.map, eq_comm]

theorem commandsFrom_cons_eq_error_iff {line : Nat} {text : String} {rest : List String}
    {e : CompileError} :
    commandsFrom line (text :: rest) = .error e ↔
      (∃ cause, Command.parse text line = .error cause ∧ e = ⟨line, cause⟩) ∨
        ∃ c, Command.parse text line = .ok c ∧ commandsFrom (line + 1) rest = .error e := by
  rcases head : Command.parse text line with cause | c
  · simp [commandsFrom, head, eq_comm]
  · rcases tail : commandsFrom (line + 1) rest with e' | others
    · simp [commandsFrom, head, tail, Except.map]
    · simp [commandsFrom, head, tail, Except.map]

/-- Commands are read from lines that are these commands, in order. -/
theorem commandsFrom_eq_ok_iff {line : Nat} {texts : List String} {commands : List Command} :
    commandsFrom line texts = .ok commands ↔ commands.length = texts.length ∧
      ∀ (n : Nat) (text : String), texts[n]? = some text →
        ∃ i o, Line.Reads text i o ∧ commands[n]? = some ⟨i, o, line + n⟩ := by
  induction texts generalizing line commands with
  | nil => cases commands <;> simp [commandsFrom]
  | cons text rest ih =>
    rw [commandsFrom_cons_eq_ok_iff]
    constructor
    · rintro ⟨c, others, head, tail, rfl⟩
      obtain ⟨reads, rfl⟩ := Command.parse_eq_ok_iff.mp head
      obtain ⟨length, members⟩ := ih.mp tail
      refine ⟨congrArg (· + 1) length, ?_⟩
      rintro (_ | n) text' at_n
      · cases at_n
        exact ⟨_, _, reads, rfl⟩
      · simpa [Nat.add_assoc, Nat.add_comm 1] using members n text' at_n
    · rintro ⟨length, members⟩
      obtain ⟨i, o, reads, first⟩ := members 0 text rfl
      rcases commands with _ | ⟨c, others⟩
      · cases first
      · cases first
        refine ⟨_, others, Command.parse_eq_ok_iff.mpr ⟨reads, rfl⟩, ih.mpr ⟨?_, ?_⟩, rfl⟩
        · exact Nat.succ.inj length
        · intro n text' at_n
          simpa [Nat.add_assoc, Nat.add_comm 1] using members (n + 1) text' at_n

/-- Lines are refused for the first of them that has a flaw. -/
theorem commandsFrom_eq_error_iff {line : Nat} {texts : List String} {e : CompileError} :
    commandsFrom line texts = .error e ↔ ∃ n text, texts[n]? = some text ∧ e.line = line + n ∧
      Line.Flawed text e.cause ∧ ∀ earlier ∈ texts.take n, ∃ i o, Line.Reads earlier i o := by
  induction texts generalizing line with
  | nil => simp [commandsFrom]
  | cons text rest ih =>
    rw [commandsFrom_cons_eq_error_iff]
    constructor
    · rintro (⟨cause, refused, rfl⟩ | ⟨c, read, refused⟩)
      · exact ⟨0, text, rfl, rfl, Command.parse_eq_error_iff.mp refused, by simp⟩
      · obtain ⟨n, text', at_n, number, flawed, earlier⟩ := ih.mp refused
        refine ⟨n + 1, text', at_n, ?_, flawed, ?_⟩
        · omega
        · exact List.forall_mem_cons.mpr ⟨⟨_, _, (Command.parse_eq_ok_iff.mp read).1⟩, earlier⟩
    · rintro ⟨_ | n, text', at_n, number, flawed, earlier⟩
      · cases at_n
        refine .inl ⟨e.cause, Command.parse_eq_error_iff.mpr flawed, ?_⟩
        rw [Nat.add_zero] at number
        rw [← number]
      · obtain ⟨⟨i, o, reads⟩, earlier⟩ := List.forall_mem_cons.mp earlier
        refine .inr ⟨⟨i, o, line⟩, Command.parse_eq_ok_iff.mpr ⟨reads, rfl⟩, ?_⟩
        exact ih.mpr ⟨n, text', at_n, by omega, flawed, earlier⟩

theorem ofLines_eq_ok_iff {texts : List String} {p : Program} :
    ofLines texts = .ok p ↔ commandsFrom 1 texts = .ok p.commands := by
  rcases read : commandsFrom 1 texts with e | commands
  · simp [ofLines, read, Except.map]
  · cases p
    simp [ofLines, read, Except.map]

theorem ofLines_eq_error_iff {texts : List String} {e : CompileError} :
    ofLines texts = .error e ↔ commandsFrom 1 texts = .error e := by
  rcases read : commandsFrom 1 texts with e' | commands <;> simp [ofLines, read, Except.map]

/-- Lines are read as a program exactly when each of them is a command; the program then holds
these commands, numbered from one.  Other lines are refused for the first of them that is no
command, with the flaw of that line, and what comes after it makes no difference. -/
theorem ofLines_grammar (texts : List String) :
    ((∃ p, ofLines texts = .ok p) ↔ ∀ text ∈ texts, ∃ i o, Line.Reads text i o) ∧
      (∀ p, ofLines texts = .ok p ↔ p.commands.length = texts.length ∧
        ∀ (n : Nat) (text : String), texts[n]? = some text →
          ∃ i o, Line.Reads text i o ∧ p.commands[n]? = some ⟨i, o, n + 1⟩) ∧
      (∀ e, ofLines texts = .error e ↔ ∃ n text, texts[n]? = some text ∧ e.line = n + 1 ∧
        Line.Flawed text e.cause ∧ ∀ earlier ∈ texts.take n, ∃ i o, Line.Reads earlier i o) ∧
      ∀ e others, ofLines texts = .error e → ofLines (texts.take e.line ++ others) = .error e := by
  have accepted (texts : List String) (p : Program) : ofLines texts = .ok p ↔
      p.commands.length = texts.length ∧ ∀ (n : Nat) (text : String), texts[n]? = some text →
        ∃ i o, Line.Reads text i o ∧ p.commands[n]? = some ⟨i, o, n + 1⟩ := by
    simp only [ofLines_eq_ok_iff, commandsFrom_eq_ok_iff, Nat.add_comm 1]
  have refused (texts : List String) (e : CompileError) : ofLines texts = .error e ↔
      ∃ n text, texts[n]? = some text ∧ e.line = n + 1 ∧ Line.Flawed text e.cause ∧
        ∀ earlier ∈ texts.take n, ∃ i o, Line.Reads earlier i o := by
    simp only [ofLines_eq_error_iff, commandsFrom_eq_error_iff, Nat.add_comm 1]
  refine ⟨⟨?_, ?_⟩, accepted texts, refused texts, ?_⟩
  · rintro ⟨p, compiled⟩ text member
    obtain ⟨n, at_n⟩ := List.mem_iff_getElem?.mp member
    obtain ⟨i, o, reads, -⟩ := ((accepted texts p).mp compiled).2 n text at_n
    exact ⟨i, o, reads⟩
  · intro lines
    rcases result : ofLines texts with e | p
    · obtain ⟨n, text, at_n, -, flawed, -⟩ := (refused texts e).mp result
      obtain ⟨i, o, reads⟩ := lines text (List.mem_of_getElem? at_n)
      exact absurd flawed (Command.not_flawed_of_reads reads)
    · exact ⟨p, rfl⟩
  · intro e others result
    obtain ⟨n, text, at_n, number, flawed, earlier⟩ := (refused texts e).mp result
    have within : n < texts.length := (List.getElem?_eq_some_iff.mp at_n).1
    refine (refused _ e).mpr ⟨n, text, ?_, number, flawed, ?_⟩
    · rw [number, List.getElem?_append_left (by simp; omega), List.getElem?_take_of_lt (by omega),
        at_n]
    · rw [number, List.take_append_of_le_length (by simp; omega), List.take_take,
        Nat.min_eq_left (Nat.le_succ n)]
      exact earlier

end Program

end RegisterMachine
