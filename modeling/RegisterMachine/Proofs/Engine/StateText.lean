import RegisterMachine.Engine.Snapshot
import RegisterMachine.Proofs.Language.SourceText
import RegisterMachine.Proofs.Text.Legible

/-!
# Machine state on one row

* `lineFeed_notMem_text`, for registers, commands and snapshots: each of them fits on a row.
* `legible_operand`, `legible_cells`: operands and registers can be told from their texts;
  `legible_snapshot`: so can snapshots, whatever stands behind them.
-/

namespace RegisterMachine

open Text (Legible)

/-! ## No text holds a line feed -/

theorem Text.lineFeed_notMem_toDigits (n : Nat) : '\n' ∉ Nat.toDigits 10 n := by
  intro member
  exact absurd (Nat.isDigit_of_mem_toDigits (by decide) (by decide) member) (by decide)

theorem Text.notMem_intercalate {c : Char} {sep : List Char} {texts : List (List Char)}
    (between : c ∉ sep) (each : ∀ text ∈ texts, c ∉ text) : c ∉ sep.intercalate texts := by
  induction texts with
  | nil => simp
  | cons text texts ih =>
    obtain ⟨first, others⟩ := List.forall_mem_cons.mp each
    cases texts with
    | nil => simpa using first
    | cons next texts =>
      rw [List.intercalate_cons_cons]
      simp only [List.mem_append, not_or]
      exact ⟨⟨first, between⟩, ih others⟩

theorem Value.lineFeed_notMem_text (v : Value) : '\n' ∉ (Value.text v).toList := by
  intro member
  exact absurd (Text.sign_or_digit_of_mem_text member) (by decide)

theorem lineFeed_notMem_tapeText (values : Array Value) : '\n' ∉ (tapeText values).toList := by
  have between : '\n' ∉ [',', ' '].intercalate ((values.toList.map Value.text).map String.toList) := by
    refine Text.notMem_intercalate (by decide) ?_
    simp [Value.lineFeed_notMem_text]
  simpa [tapeText] using between

theorem Registers.lineFeed_notMem_cellText (cell : Address × Value) :
    '\n' ∉ (cellText cell).toList := by
  simp [cellText, Address.text, Text.lineFeed_notMem_toDigits, Value.lineFeed_notMem_text]

theorem Registers.lineFeed_notMem_text (r : Registers) : '\n' ∉ r.text.toList := by
  have between : '\n' ∉ [',', ' '].intercalate ((r.cells.map cellText).map String.toList) := by
    refine Text.notMem_intercalate (by decide) ?_
    simp only [List.map_map, List.forall_mem_map]
    exact fun cell _ => lineFeed_notMem_cellText cell
  simpa [text] using between

theorem Command.lineFeed_notMem_text (c : Command) : '\n' ∉ c.text.toList := by
  simp [text, Text.lineFeed_notMem_toDigits, Program.lineFeed_not_mem_sourceText]

theorem Snapshot.lineFeed_notMem_text (s : Snapshot) : '\n' ∉ s.text.toList := by
  simp [text, Command.lineFeed_notMem_text, Text.lineFeed_notMem_toDigits, lineFeed_notMem_tapeText,
    Registers.lineFeed_notMem_text]

/-! ## Every text tells what it is the text of -/

theorem legible_instruction : Legible (fun i : Instruction => i.mnemonic.toList) Char.isUpper := by
  refine Text.legible_of_all (fun i j same => ?_) fun i c member => ?_
  · have found := Instruction.find?_mnemonic i
    rw [String.toList_inj.mp same, Instruction.find?_mnemonic] at found
    exact (Option.some.inj found).symm
  · have all : i.mnemonic.toList.all Char.isUpper := by cases i <;> decide +kernel
    exact List.all_eq_true.mp all c member

theorem legible_address : Legible (fun a : Address => Nat.toDigits 10 a.toNat) Char.isDigit :=
  Text.legible_toDigits.comp fun _ _ => UInt64.toNat_inj.mp

theorem legible_operand : Legible (fun o : Operand => o.text.toList) Char.isDigit := by
  have markers : Legible (fun k : UInt32 => List.replicate k.toNat '*') (· = '*') := by
    refine Text.legible_of_all (fun k l same => ?_) fun k c member => ?_
    · exact UInt32.toNat_inj.mp (by simpa using congrArg List.length same)
    · simpa using List.eq_of_mem_replicate member
  have apart (a : Address) :
      ∃ c cs, Nat.toDigits 10 a.toNat = c :: cs ∧ decide (c = '*') = false := by
    obtain ⟨c, cs, digits, digit⟩ := Text.toDigits_eq_cons a.toNat
    refine ⟨c, cs, digits, decide_eq_false ?_⟩
    rintro rfl
    exact absurd digit (by decide)
  have told : Function.Injective fun o : Operand => (o.markers, o.literal) := by
    rintro ⟨_, _⟩ ⟨_, _⟩ same
    cases same
    rfl
  have both := (markers.append legible_address apart).comp told
  simpa [Operand.text_toList] using both

/-- A cell: its address, an equals sign and its value. -/
theorem legible_cell :
    Legible (fun cell => (Registers.cellText cell).toList) Text.isSigned := by
  have both := legible_address.separated '=' [] (by decide) Text.legible_value
  simpa [Registers.cellText, Address.text] using both

theorem legible_values :
    Legible (fun values : List Value => [',', ' '].intercalate
      (values.map fun v => (Value.text v).toList) ++ [']']) fun _ => false := by
  refine Text.legible_value.list (fun v => ?_) (by decide) (by decide) (by decide)
  obtain ⟨c, cs, begins⟩ := List.exists_cons_of_ne_nil
    (by simp [Text.toList_text] : (Value.text v).toList ≠ [])
  exact ⟨c, cs, begins, Text.isSigned_of_mem_text (begins ▸ List.mem_cons_self)⟩

theorem legible_cells :
    Legible (fun cells : List (Address × Value) => [',', ' '].intercalate
      (cells.map fun cell => (Registers.cellText cell).toList) ++ ['\x7d']) fun _ => false := by
  refine legible_cell.list (fun cell => ?_) (by decide) (by decide) (by decide)
  obtain ⟨c, cs, digits, digit⟩ := Text.toDigits_eq_cons cell.1.toNat
  refine ⟨c, cs ++ '=' :: (Value.text cell.2).toList, ?_, by simp [Text.isSigned, digit]⟩
  simp [Registers.cellText, Address.text, digits]

/-- What a snapshot holds, in the order of its text. -/
def Snapshot.parts (s : Snapshot) :
    Nat × Instruction × Operand × Nat × Nat × List Value × List (Address × Value) :=
  (s.command.line, s.command.instruction, s.command.operand, s.instructionPointer, s.inputPointer,
    s.output.toList, s.registers.cells)

theorem Snapshot.parts_injective : Function.Injective parts := by
  rintro ⟨ip, i, out, ⟨cells, _⟩, ⟨_, _, _⟩⟩ ⟨ip', i', out', ⟨cells', _⟩, ⟨_, _, _⟩⟩ same
  simp only [parts, Prod.mk.injEq, Array.toList_inj] at same
  obtain ⟨rfl, rfl, rfl, rfl, rfl, rfl, rfl⟩ := same
  rfl

/-- A snapshot is told from its text, whatever stands behind it. -/
theorem legible_snapshot : Legible (fun s : Snapshot => s.text.toList) fun _ => false := by
  have output := legible_values.separated ' ' "regs=\x7b".toList rfl legible_cells
  have input := Text.legible_toDigits.separated ' ' "out=[".toList (by decide) output
  have pointer := Text.legible_toDigits.separated ' ' "in=".toList (by decide) input
  have operand := legible_operand.separated ' ' "| ip=".toList (by decide) pointer
  have instruction := legible_instruction.separated ' ' [] (by decide) operand
  have line := Text.legible_toDigits.separated ':' [' '] (by decide) instruction
  have told := line.comp Snapshot.parts_injective
  simpa [Snapshot.text, Snapshot.parts, Command.text, Command.sourceText_toList, tapeText,
    Registers.text, Function.comp_def] using told

theorem Snapshot.eq_of_text_append {s s' : Snapshot} {rest rest' : List Char}
    (same : s.text.toList ++ rest = s'.text.toList ++ rest') : s = s' ∧ rest = rest' :=
  legible_snapshot (fun _ _ => rfl) (fun _ _ => rfl) same

end RegisterMachine
