import RegisterMachine.Proofs.Ideal.WordSteps
import RegisterMachine.Proofs.Json.StateForms
import RegisterMachine.Proofs.Language.SourceText

/-!
# What the representations hold

Programs are numbered by their lines and have operands that can be written, and a register bank
has its accumulator.  Compiling and writing registers keep to that; reading JSON does not ask for
it.

* `Program.Proper`: each command has the number of its line and an operand of program text.
* `Program.proper_iff_ofLines`: these are the programs that compile from their own source texts.
* `Program.numbered_iff_tellsLines`: a program whose commands are so numbered is one whose steps
  and faults name the line at the pointer.
* `Registers.hasAccumulator_writeAll`: which banks have the accumulator after any writes.
* `representation_exact`: what can be obtained by compiling, by reading and by writing.
-/

namespace RegisterMachine

/-! ## Programs -/

/-- The command is the one of the line, and program text can write its operand. -/
structure Command.Placed (c : Command) (line : Nat) : Prop where
  line_eq : c.line = line
  markers_le : c.operand.markers.toNat ≤ Operand.maxMarkers
  literal_le : c.operand.literal.toNat ≤ Int64.maxValue.toInt

/-- Every command is the one of its line, and program text can write its operand. -/
def Program.Proper (p : Program) : Prop := ∀ line c, p.get? line = some c → c.Placed line

namespace Program

theorem proper_of_ofLines {texts : List String} {p : Program} (compiled : ofLines texts = .ok p) :
    p.Proper := by
  obtain ⟨length, members⟩ := commandsFrom_eq_ok_iff.mp (ofLines_eq_ok_iff.mp compiled)
  rintro (_ | n) c fetched
  · cases fetched
  · have at_n : p.commands[n]? = some c := fetched
    have within : n < texts.length := length ▸ (List.getElem?_eq_some_iff.mp at_n).1
    obtain ⟨i, o, ⟨tokens, -, phrase⟩, same⟩ := members n _ (List.getElem?_eq_getElem within)
    cases at_n.symm.trans same
    have written := phrase.writtenAs_text
    exact ⟨Nat.add_comm 1 n, written.markers_le, written.literal_le⟩

/-- A program of this kind is read from its source texts. -/
theorem Proper.ofLines_sourceText {p : Program} (proper : p.Proper) :
    ofLines (p.commands.map Command.sourceText) = .ok p := by
  refine ofLines_eq_ok_iff.mpr (commandsFrom_eq_ok_iff.mpr ⟨(List.length_map _).symm, ?_⟩)
  intro n text at_n
  rw [List.getElem?_map] at at_n
  obtain ⟨c, fetched, rfl⟩ := Option.map_eq_some_iff.mp at_n
  obtain ⟨line, markers, literal⟩ := proper (n + 1) c fetched
  refine ⟨c.instruction, c.operand, ?_, ?_⟩
  · exact Command.reads_sourceText (Operand.writtenAs_text markers literal)
  · rw [fetched, Nat.add_comm 1 n, ← line]

theorem proper_iff_ofLines {p : Program} :
    p.Proper ↔ ofLines (p.commands.map Command.sourceText) = .ok p :=
  ⟨Proper.ofLines_sourceText, proper_of_ofLines⟩

end Program

/-! ## The lines that steps name -/

/-- The line that a fault names. -/
def Fault.line? : Fault → Option Nat
  | .lineNotFound line | .inputExhausted line _ | .divisionByZero line
  | .illegalOperand line _ _ | .negativeAddress line _ => some line
  | .limitExceeded _ => none

/-- Steps of the program and their faults name the line at the pointer. -/
def Program.TellsLines (p : Program) : Prop :=
  ∀ m : Machine, m.program = p →
    (∀ o m', m.step = .ok (o, m') → o.command.line = m.instructionPointer) ∧
      ∀ f, m.step = .error f → f.line? = some m.instructionPointer

namespace Machine

variable {m m' : Machine} {c : Command}

/-- A step performs the command at the pointer. -/
theorem command_of_step {o : Outcome} (fetched : m.program.get? m.instructionPointer = some c)
    (stepped : m.step = .ok (o, m')) : o.command = c := by
  obtain ⟨current, -⟩ := step_eq_ok stepped
  simp only [Machine.current, fetched] at current
  exact (Except.ok.inj current).symm

/-- A fault names the number of the command at the pointer, whatever the number is. -/
theorem line?_of_step {f : Fault} (fetched : m.program.get? m.instructionPointer = some c)
    (failed : m.step = .error f) : f.line? = some c.line := by
  rcases m.step_cases with ⟨g, failed', rank, obstacle, -⟩ | ⟨c', m', stepped, -⟩
  · cases failed.symm.trans failed'
    cases obstacle with
    | missing absent => cases absent.symm.trans fetched
    | overmarked fetched' | astray fetched' | exhausted fetched' | zero fetched' =>
      cases fetched'.symm.trans fetched
      rfl
  · cases failed.symm.trans stepped

end Machine

/-- Steps name the line at the pointer exactly if the commands are numbered by their lines. -/
theorem Program.numbered_iff_tellsLines {p : Program} :
    (∀ line c, p.get? line = some c → c.line = line) ↔ p.TellsLines := by
  constructor
  · rintro numbered m rfl
    rcases fetched : m.program.get? m.instructionPointer with _ | c
    · have missing : m.step = .error (.lineNotFound m.instructionPointer) := by
        simp [Machine.step, Machine.current, fetched]
      rw [missing]
      refine ⟨fun o m' stepped => (by cases stepped), fun f failed => ?_⟩
      cases failed
      rfl
    · have number := numbered _ c fetched
      refine ⟨fun o m' stepped => ?_, fun f failed => ?_⟩
      · rw [Machine.command_of_step fetched stepped, number]
      · rw [Machine.line?_of_step fetched failed, number]
  · intro tells line c fetched
    -- Any machine in front of the line will do, since a failed step names the command as well.
    let m : Machine := (Machine.start p []).jump line
    obtain ⟨performed, failed⟩ := tells m rfl
    rcases stepped : m.step with f | ⟨o, m'⟩
    · have named := (Machine.line?_of_step (m := m) fetched stepped).symm.trans (failed f stepped)
      exact Option.some.inj named
    · rw [← Machine.command_of_step (m := m) fetched stepped]
      exact performed o m' stepped

/-! ## Programs in JSON -/

/-- Items are read one by one. -/
theorem Json.map_of_mapM {α β : Type} {read : α → Option β} {items : List α} {xs : List β}
    (all : items.mapM read = some xs) : items.map read = xs.map some := by
  induction items generalizing xs with
  | nil =>
    cases all
    rfl
  | cons item items ih =>
    simp only [List.mapM_cons, Option.bind_eq_bind, Option.bind_eq_some_iff, Option.pure_def,
      Option.some.injEq] at all
    obtain ⟨x, first, others, rest, rfl⟩ := all
    rw [List.map_cons, List.map_cons, first, ih rest]

theorem Json.natBelow?_lt {bound n : Nat} {j : Json} (read : j.natBelow? bound = some n) :
    n < bound := by
  unfold natBelow? at read
  split at read
  · split at read
    · rename_i below
      cases read
      exact below
    · cases read
  · cases read

/-- The line number of a command that is read fits a word.  Nothing more is asked of it. -/
theorem Command.countsFit_of_ofJson? {j : Json} {c : Command} (read : ofJson? j = some c) :
    c.CountsFit := by
  unfold ofJson? at read
  split at read
  · simp only [Option.bind_eq_bind, Option.bind_eq_some_iff, Option.pure_def] at read
    obtain ⟨instruction, -, operand, -, line, counted, made⟩ := read
    cases made
    exact Json.natBelow?_lt counted
  · cases read

theorem Program.countsFit_of_ofJson? {j : Json} {p : Program} (read : ofJson? j = some p) :
    p.CountsFit := by
  unfold ofJson? at read
  split at read
  · obtain ⟨commands, listed, rfl⟩ := Option.map_eq_some_iff.mp read
    unfold Json.list? at listed
    split at listed
    · intro c member
      have among : some c ∈ commands.map some := List.mem_map_of_mem member
      rw [← Json.map_of_mapM listed] at among
      obtain ⟨item, -, read⟩ := List.mem_map.mp among
      exact Command.countsFit_of_ofJson? read
    · cases listed
  · cases read

/-- Every program whose numbers are machine words is read from some text. -/
theorem Program.exists_json_iff {p : Program} :
    (∃ text, (Json.parse? text).bind ofJson? = some p) ↔ p.CountsFit := by
  constructor
  · rintro ⟨text, read⟩
    obtain ⟨j, -, read⟩ := Option.bind_eq_some_iff.mp read
    exact countsFit_of_ofJson? read
  · exact fun fits => ⟨_, (stands_toJson fits).roundTrips⟩

/-! ## Registers -/

namespace Registers

/-- The bank has a cell for the accumulator. -/
def HasAccumulator (r : Registers) : Prop := ∃ v, r.cells.lookup accumulatorAddress = some v

/-- A call that writes to a bank. -/
inductive Write where
  | set (a : Address) (v : Value)
  | setAccumulator (v : Value)
  | storeAccumulator (a : Address)

/-- The register that is written. -/
def Write.target : Write → Address
  | set a _ => a
  | setAccumulator _ => accumulatorAddress
  | storeAccumulator a => a

/-- The bank after a write. -/
def write (r : Registers) : Write → Registers
  | .set a v => r.set a v
  | .setAccumulator v => r.setAccumulator v
  | .storeAccumulator a => r.storeAccumulator a

/-- The bank after writes. -/
def writeAll (r : Registers) (writes : List Write) : Registers := writes.foldl write r

theorem writeAll_cons (r : Registers) (w : Write) (writes : List Write) :
    r.writeAll (w :: writes) = (r.write w).writeAll writes := rfl

theorem hasAccumulator_set {r : Registers} {a : Address} {v : Value} :
    (r.set a v).HasAccumulator ↔ r.HasAccumulator ∨ a = accumulatorAddress := by
  simp only [HasAccumulator, set, lookup_setCell]
  by_cases here : accumulatorAddress = a
  · simp [here]
  · simp [here, Ne.symm here]

/-- Every write sets its register. -/
theorem write_eq_set (r : Registers) (w : Write) : ∃ v, r.write w = r.set w.target v := by
  cases w <;> exact ⟨_, rfl⟩

theorem hasAccumulator_writeAll {r : Registers} {writes : List Write} :
    (r.writeAll writes).HasAccumulator ↔
      r.HasAccumulator ∨ ∃ w ∈ writes, w.target = accumulatorAddress := by
  induction writes generalizing r with
  | nil => simp [writeAll]
  | cons w writes ih =>
    obtain ⟨v, written⟩ := r.write_eq_set w
    rw [writeAll_cons, ih, written, hasAccumulator_set]
    simp [or_assoc]

/-- A bank with a cell is not empty. -/
theorem isEmpty_of_lookup {r : Registers} {a : Address} {v : Value}
    (cell : r.cells.lookup a = some v) : r.isEmpty = false := by
  rcases cells : r.cells with _ | ⟨head, tail⟩
  · rw [cells] at cell
    cases cell
  · simp [isEmpty, cells]

theorem HasAccumulator.isEmpty_eq {r : Registers} (has : r.HasAccumulator) : r.isEmpty = false := by
  obtain ⟨v, cell⟩ := has
  exact isEmpty_of_lookup cell

/-- Nothing is ever removed, and each write leaves a cell. -/
theorem isEmpty_writeAll {r : Registers} {writes : List Write} :
    (r.writeAll writes).isEmpty = true ↔ r.isEmpty = true ∧ writes = [] := by
  induction writes generalizing r with
  | nil => simp [writeAll]
  | cons w writes ih =>
    obtain ⟨v, written⟩ := r.write_eq_set w
    have cell : (r.write w).cells.lookup w.target = some v := by
      rw [written, set, lookup_setCell, if_pos rfl]
    rw [writeAll_cons, ih, isEmpty_of_lookup cell]
    simp

theorem hasAccumulator_initial : initial.HasAccumulator := ⟨0, rfl⟩

theorem not_hasAccumulator_empty : ¬ empty.HasAccumulator := by
  rintro ⟨_, cell⟩
  cases cell

/-! ## Registers in JSON -/

/-- The value gives a cell for the accumulator. -/
def GivesAccumulator (j : Json) : Prop :=
  ∃ members, j.fields? ["cells"] = some [.object members] ∧
    ∃ member ∈ members, addressOfKey? member.1 = some accumulatorAddress

theorem address_of_cellOfMember? {member : List Char × Json} {cell : Address × Value}
    (read : cellOfMember? member = some cell) : addressOfKey? member.1 = some cell.1 := by
  simp only [cellOfMember?, Option.bind_eq_bind, Option.bind_eq_some_iff, Option.pure_def] at read
  obtain ⟨address, keyed, value, -, made⟩ := read
  cases made
  exact keyed

/-- A bank is read by writing the cells of the members into the empty one. -/
theorem exists_writes_of_ofJson? {j : Json} {r : Registers} (read : ofJson? j = some r) :
    ∃ members writes, j.fields? ["cells"] = some [.object members] ∧
      r = empty.writeAll writes ∧
      members.map (fun member => addressOfKey? member.1) = writes.map (fun w => some w.target) := by
  unfold ofJson? at read
  split at read
  · rename_i members given
    obtain ⟨cells, all, rfl⟩ := Option.map_eq_some_iff.mp read
    refine ⟨members, cells.map fun cell => .set cell.1 cell.2, given, ?_, ?_⟩
    · rw [writeAll, List.foldl_map]
      rfl
    · have each := Json.map_of_mapM all
      have keyed : ∀ member ∈ members,
          addressOfKey? member.1 = (cellOfMember? member).map Prod.fst := by
        intro member among
        have somewhere : cellOfMember? member ∈ cells.map some := each ▸ List.mem_map_of_mem among
        obtain ⟨cell, -, same⟩ := List.mem_map.mp somewhere
        rw [address_of_cellOfMember? same.symm, ← same, Option.map_some]
      calc members.map (fun member => addressOfKey? member.1)
          = (members.map cellOfMember?).map (Option.map Prod.fst) := by
            rw [List.map_map]
            exact List.map_congr_left keyed
        _ = (cells.map some).map (Option.map Prod.fst) := by rw [each]
        _ = _ := by simp [Write.target]
  · cases read

theorem hasAccumulator_iff_gives {j : Json} {r : Registers} (read : ofJson? j = some r) :
    r.HasAccumulator ↔ GivesAccumulator j := by
  obtain ⟨members, writes, given, rfl, keys⟩ := exists_writes_of_ofJson? read
  have same : some accumulatorAddress ∈ members.map (fun member => addressOfKey? member.1) ↔
      some accumulatorAddress ∈ writes.map (fun w => some w.target) := by rw [keys]
  simp only [List.mem_map, Option.some.injEq] at same
  rw [hasAccumulator_writeAll, or_iff_right not_hasAccumulator_empty, ← same]
  constructor
  · exact fun among => ⟨members, given, among⟩
  · rintro ⟨_, given', among⟩
    cases given.symm.trans given'
    exact among

theorem isEmpty_iff_no_members {j : Json} {r : Registers} (read : ofJson? j = some r) :
    r.isEmpty = true ↔ j.fields? ["cells"] = some [.object []] := by
  obtain ⟨members, writes, given, rfl, keys⟩ := exists_writes_of_ofJson? read
  have length : members.length = writes.length := by simpa using congrArg List.length keys
  have bare : empty.isEmpty = true := rfl
  simp [isEmpty_writeAll, bare, given, ← List.length_eq_zero_iff, length]

end Registers

/-! ## Ways to programs and banks -/

/-- A compiled program is proper, and a fresh bank has its accumulator after any writes.  A text
may hold any program whose line numbers are machine words, and any bank.  Such a program has source
texts exactly if it is proper and tells its lines exactly if it is numbered by them, and such a
bank has the accumulator exactly if the text or a write gives it. -/
theorem representation_exact (p : Program) (r : Registers) (writes : List Registers.Write) :
    ((∃ texts, Program.ofLines texts = .ok p) ∨ (∃ source, Program.ofText source = .ok p) →
      p.Proper ∧ p.TellsLines ∧ Program.ofLines (p.commands.map Command.sourceText) = .ok p) ∧
    ((∃ text, (Json.parse? text).bind Program.ofJson? = some p) ↔ p.CountsFit) ∧
    (p.Proper ↔ Program.ofLines (p.commands.map Command.sourceText) = .ok p) ∧
    ((∀ line c, p.get? line = some c → c.line = line) ↔ p.TellsLines) ∧
    ((Registers.initial.writeAll writes).HasAccumulator ∧
      (Registers.initial.writeAll writes).isEmpty = false) ∧
    (∃ text, (Json.parse? text).bind Registers.ofJson? = some r) ∧
    ∀ j, Registers.ofJson? j = some r →
      ((r.writeAll writes).HasAccumulator ↔
        Registers.GivesAccumulator j ∨ ∃ w ∈ writes, w.target = Registers.accumulatorAddress) ∧
      ((r.writeAll writes).isEmpty = true ↔
        j.fields? ["cells"] = some [.object []] ∧ writes = []) := by
  refine ⟨fun obtained => ?_, Program.exists_json_iff, Program.proper_iff_ofLines,
    Program.numbered_iff_tellsLines, ?_, ⟨_, r.stands_toJson.roundTrips⟩, fun j read => ⟨?_, ?_⟩⟩
  · have proper : p.Proper := by
      rcases obtained with ⟨texts, compiled⟩ | ⟨source, compiled⟩
      · exact Program.proper_of_ofLines compiled
      · exact Program.proper_of_ofLines compiled
    have tells := Program.numbered_iff_tellsLines.mp fun line c fetched =>
      (proper line c fetched).line_eq
    exact ⟨proper, tells, proper.ofLines_sourceText⟩
  · have has : (Registers.initial.writeAll writes).HasAccumulator :=
      Registers.hasAccumulator_writeAll.mpr (.inl Registers.hasAccumulator_initial)
    exact ⟨has, has.isEmpty_eq⟩
  · rw [Registers.hasAccumulator_writeAll, Registers.hasAccumulator_iff_gives read]
  · rw [Registers.isEmpty_writeAll, Registers.isEmpty_iff_no_members read]

/-- A bank that is read without cells, and written beside the accumulator. -/
theorem representation_exact_bare :
    let source := "read 1\nSTORE **3\nHALT"
    let p : Program := ⟨[⟨.read, ⟨1, 0⟩, 1⟩, ⟨.store, ⟨3, 2⟩, 2⟩, ⟨.halt, .absent, 3⟩]⟩
    let j : Json := .object [("cells".toList, .object [])]
    let writes : List Registers.Write := [.storeAccumulator 3, .set 4 5]
    (Program.ofText source = .ok p ∧ p.Proper ∧ p.TellsLines ∧
        Program.ofLines (p.commands.map Command.sourceText) = .ok p) ∧
      Registers.ofJson? j = some .empty ∧
      ¬ (Registers.empty.writeAll writes).HasAccumulator ∧
      (Registers.empty.writeAll writes).isEmpty = false := by
  intro source p j writes
  obtain ⟨compiled, -, -, -, -, -, written⟩ := representation_exact p .empty writes
  have text : Program.ofText source = .ok p := by decide +kernel
  have read : Registers.ofJson? j = some .empty := by decide +kernel
  refine ⟨⟨text, compiled (.inr ⟨source, text⟩)⟩, read, fun has => ?_, ?_⟩
  · rcases (written j read).1.mp has with given | targeted
    · exact Registers.not_hasAccumulator_empty ((Registers.hasAccumulator_iff_gives read).mpr given)
    · exact absurd targeted (by decide)
  · refine Bool.eq_false_iff.mpr fun bare => ?_
    exact List.cons_ne_nil _ _ ((written j read).2.mp bare).2

/-- A text may hold a program that no source text gives, whose steps name the wrong line, and a
bank without the accumulator. -/
theorem read_without_accumulator_or_lines :
    let program := "\x7b\"commands\":[\x7b\"instruction\":\"Halt\",\"operand\":" ++
      "\x7b\"literal\":9223372036854775808,\"dereference_count\":33\x7d,\"line\":7\x7d]\x7d"
    let bank := "\x7b\"cells\":\x7b\x7d\x7d"
    (∃ p, (Json.parse? program).bind Program.ofJson? = some p ∧
      ¬ p.Proper ∧ ¬ p.TellsLines ∧
      Program.ofLines (p.commands.map Command.sourceText) ≠ .ok p) ∧
    ∃ r, (Json.parse? bank).bind Registers.ofJson? = some r ∧
      ¬ r.HasAccumulator ∧ r.isEmpty = true := by
  intro program bank
  let p : Program := ⟨[⟨.halt, ⟨9223372036854775808, 33⟩, 7⟩]⟩
  have misnumbered : ¬ ∀ line c, p.get? line = some c → c.line = line := fun numbered =>
    absurd (numbered 1 _ rfl) (by decide)
  have improper : ¬ p.Proper := fun proper =>
    misnumbered fun line c fetched => (proper line c fetched).line_eq
  refine ⟨⟨p, by decide +kernel, improper, fun tells => ?_, fun compiled => ?_⟩,
    ⟨.empty, by decide +kernel, Registers.not_hasAccumulator_empty, rfl⟩⟩
  · exact misnumbered (Program.numbered_iff_tellsLines.mpr tells)
  · exact improper (Program.proper_iff_ofLines.mpr compiled)

end RegisterMachine
