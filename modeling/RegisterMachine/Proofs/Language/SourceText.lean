import RegisterMachine.Proofs.Language.Grammar
import RegisterMachine.Proofs.Text.Lines

/-!
# Programs as text

A compiled program can be written down, command by command, and read again.

* `Command.parse_sourceText`: a command that was read reads back from its source text.
* `Program.ofLines_congr`: what lines are read as depends on their words alone.
* `Program.ofText_written`: a text of lines is read as its lines are, with any mixture of
  line ends; in particular the source texts of a compiled program give it back.
-/

namespace RegisterMachine

/-! ## Commands -/

theorem Operand.text_toList (o : Operand) :
    o.text.toList = List.replicate o.markers.toNat '*' ++ Nat.toDigits 10 o.literal.toNat := by
  simp [text, Address.text, marker]

theorem Operand.writtenAs_text {o : Operand} (markers_le : o.markers.toNat ≤ 32)
    (literal_le : o.literal.toNat ≤ Int64.maxValue.toInt) : o.WrittenAs o.text :=
  ⟨⟨_, o.text_toList, Nat.toDigits_ne_nil,
    fun _ member => Nat.isDigit_of_mem_toDigits (by decide) (by decide) member,
    Nat.ofDigitChars_ten_toDigits⟩, markers_le, literal_le⟩

/-- The operand of a phrase, if only understood, can be written. -/
theorem Command.Phrase.writtenAs_text {i : Instruction} {o : Operand} {tokens : List String}
    (phrase : Phrase i o tokens) : o.WrittenAs o.text := by
  cases phrase with
  | bare => exact Operand.writtenAs_text (by decide) (by decide)
  | full _ written => exact Operand.writtenAs_text written.markers_le written.literal_le

theorem Operand.not_blank_of_mem_text {o : Operand} {c : Char} (member : c ∈ o.text.toList) :
    Text.isBlank c = false := by
  rw [text_toList, List.mem_append] at member
  rcases member with markers | digits
  · rw [List.eq_of_mem_replicate markers]
    decide
  · exact Text.isBlank_of_isDigit (Nat.isDigit_of_mem_toDigits (by decide) (by decide) digits)

theorem Instruction.not_blank_of_mem_mnemonic {i : Instruction} {c : Char}
    (member : c ∈ i.mnemonic.toList) : Text.isBlank c = false := by
  have all : i.mnemonic.toList.all (!Text.isBlank ·) := by cases i <;> decide +kernel
  simpa using List.all_eq_true.mp all c member

theorem Command.sourceText_toList (c : Command) :
    c.sourceText.toList = c.instruction.mnemonic.toList ++ ' ' :: c.operand.text.toList := by
  simp [sourceText]

/-- A source text is laid out as the mnemonic and the operand. -/
theorem Command.spaced_sourceText (c : Command) :
    Text.Spaced Text.isBlank ([c.instruction.mnemonic, c.operand.text].map String.toList)
      c.sourceText.toList := by
  have mnemonic : c.instruction.mnemonic.toList ≠ [] := by cases c.instruction <;> decide +kernel
  have operand : c.operand.text.toList ≠ [] := by simp [Operand.text_toList]
  rw [sourceText_toList, ← List.append_nil c.operand.text.toList]
  refine .piece mnemonic (fun _ => Instruction.not_blank_of_mem_mnemonic) ?_ ?_
  · intro c head
    cases head
    decide
  · refine .cons_separator (by decide) (.piece operand ?_ (by simp) (.nil (by simp)))
    exact fun _ => Operand.not_blank_of_mem_text

/-- A command whose operand can be written is read from its source text. -/
theorem Command.reads_sourceText {c : Command} (written : c.operand.WrittenAs c.operand.text) :
    Line.Reads c.sourceText c.instruction c.operand :=
  ⟨_, c.spaced_sourceText, .full (.inl (List.forall₂_same.mpr fun _ _ => .inl rfl)) written⟩

theorem Command.parse_sourceText {text : String} {line : Nat} {c : Command}
    (read : parse text line = .ok c) : parse c.sourceText line = .ok c := by
  obtain ⟨⟨tokens, -, phrase⟩, numbered⟩ := parse_eq_ok_iff.mp read
  exact parse_eq_ok_iff.mpr ⟨reads_sourceText phrase.writtenAs_text, numbered⟩

namespace Program

theorem commandsFrom_sourceText {line : Nat} {texts : List String} {commands : List Command}
    (read : commandsFrom line texts = .ok commands) :
    commandsFrom line (commands.map Command.sourceText) = .ok commands := by
  induction texts generalizing line commands with
  | nil =>
    cases read
    rfl
  | cons text rest ih =>
    obtain ⟨c, others, head, tail, rfl⟩ := commandsFrom_cons_eq_ok_iff.mp read
    exact commandsFrom_cons_eq_ok_iff.mpr
      ⟨c, others, Command.parse_sourceText head, ih tail, rfl⟩

/-- Lines with the same words are read alike. -/
theorem commandsFrom_congr {line : Nat} {texts texts' : List String}
    (same : texts.map Text.words = texts'.map Text.words) :
    commandsFrom line texts = commandsFrom line texts' := by
  induction texts generalizing line texts' with
  | nil =>
    rw [List.map_nil, eq_comm, List.map_eq_nil_iff] at same
    rw [same]
  | cons text rest ih =>
    rcases texts' with _ | ⟨text', rest'⟩
    · cases same
    · obtain ⟨head, tail⟩ := List.cons_eq_cons.mp same
      simp only [commandsFrom, Command.parse, head, ih tail]

theorem ofLines_congr {texts texts' : List String}
    (same : texts.map Text.words = texts'.map Text.words) : ofLines texts = ofLines texts' := by
  rw [ofLines, ofLines, commandsFrom_congr same]

theorem lineFeed_not_mem_sourceText (c : Command) : '\n' ∉ c.sourceText.toList := by
  intro member
  rw [Command.sourceText_toList, List.mem_append, List.mem_cons] at member
  rcases member with mnemonic | space | operand
  · exact absurd (Instruction.not_blank_of_mem_mnemonic mnemonic) (by decide)
  · exact absurd space (by decide)
  · exact absurd (Operand.not_blank_of_mem_text operand) (by decide)

/-- A text of lines is read as its lines are, be it into a program or into an error, with
any mixture of line ends.  So a compiled program is read back from its source texts. -/
theorem ofText_written :
    (∀ (texts : List String) (p : Program) (source : String), ofLines texts = .ok p →
      Text.Written (p.commands.map Command.sourceText) source → ofText source = .ok p) ∧
    ∀ (lines : List String) (source : String), (∀ line ∈ lines, '\n' ∉ line.toList) →
      Text.Written lines source → ofText source = ofLines lines := by
  have written (lines : List String) (source : String)
      (plain : ∀ line ∈ lines, '\n' ∉ line.toList) (written : Text.Written lines source) :
      ofText source = ofLines lines :=
    ofLines_congr (written.words_lines plain)
  refine ⟨fun texts p source compiled printed => ?_, written⟩
  rw [written _ source (by simp [lineFeed_not_mem_sourceText]) printed]
  exact ofLines_eq_ok_iff.mpr (commandsFrom_sourceText (ofLines_eq_ok_iff.mp compiled))

/-- Blanks of any kind, an alias, leading zeros and the largest literal go in; the commands
come out with both line ends and without the last one.  Lines that are refused are refused
in a text as well, also with a carriage return of their own. -/
theorem ofText_written_mixed :
    let p : Program :=
      ⟨[⟨.mul, ⟨7, 2⟩, 1⟩, ⟨.jz, ⟨9223372036854775807, 0⟩, 2⟩, ⟨.halt, .absent, 3⟩]⟩
    let source := "MUL **7\r\nJZ 9223372036854775807\nHALT 0"
    (ofLines ["\u2003mult\t**007", "Jz 9223372036854775807 ", "halt"] = .ok p ∧
      Text.Written (p.commands.map Command.sourceText) source ∧ ofText source = .ok p) ∧
    (Text.Written ["ADD 1\r", "", "ADD 1 2"] "ADD 1\r\n\r\nADD 1 2" ∧
      ofText "ADD 1\r\n\r\nADD 1 2" = .error ⟨2, .unknownInstruction ""⟩) := by
  intro p source
  have compiled : ofLines ["\u2003mult\t**007", "Jz 9223372036854775807 ", "halt"] = .ok p := by
    decide +kernel
  have texts : p.commands.map Command.sourceText =
      ["MUL **7", "JZ 9223372036854775807", "HALT 0"] := by
    decide +kernel
  have printed : Text.Written (p.commands.map Command.sourceText) source := by
    rw [texts]
    exact .cons .crlf (.cons .lf (.last (by decide)))
  have lines : Text.Written ["ADD 1\r", "", "ADD 1 2"] "ADD 1\r\n\r\nADD 1 2" :=
    .cons .lf (.cons .crlf (.last (by decide)))
  refine ⟨⟨compiled, printed, ofText_written.1 _ p source compiled printed⟩, lines, ?_⟩
  rw [ofText_written.2 _ _ (by decide +kernel) lines]
  decide +kernel

end Program

end RegisterMachine
