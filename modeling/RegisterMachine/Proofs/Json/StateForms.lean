import RegisterMachine.Json.Forms
import RegisterMachine.Proofs.Engine.Advance
import RegisterMachine.Proofs.Json.Rendered

/-!
# Machine state as text and back

Whatever a host saves as text it reads back unchanged.

* `Json.Stands j read x`: the value `j` can be written as text, and `read` makes `x` of it.
  Numbers, texts, lists and records stand for what they are written for.
* `stands_toJson`, once for each type: what is written for machine state stands for it.
* `state_roundTrips`: so the compact text of machine state is read as that state, and a
  snapshot restores its machine by way of its text.

Line numbers, pointers and limits are machine words.  They are natural numbers here, so the
results about types that hold them say that they fit (`CountsFit`).
-/

namespace RegisterMachine

namespace Json

/-- The value can be written as text and is read as `x`. -/
structure Stands {α : Type} (j : Json) (read : Json → Option α) (x : α) : Prop where
  written : j.IsWritten
  read_eq : read j = some x

/-- The compact text that is written for `x` is read as `x`. -/
def RoundTrips {α : Type} (write : α → Json) (read : Json → Option α) (x : α) : Prop :=
  (parse? (write x).render).bind read = some x

variable {α : Type}

theorem Stands.roundTrips {write : α → Json} {read : Json → Option α} {x : α}
    (h : Stands (write x) read x) : RoundTrips write read x := by
  rw [RoundTrips, h.written.parse?_render, Option.bind_some, h.read_eq]

/-! ## Numbers, texts and lists -/

theorem isWritten_ofNat (n : Nat) : (ofNat n).IsWritten := by
  rw [ofNat, JsonNumber.ofNat_eq_ofInt]
  exact .integer n

theorem stands_count {n : Nat} (fits : n < wordBound) : Stands (ofNat n) count? n :=
  ⟨isWritten_ofNat n, count?_ofNat fits⟩

theorem stands_value (v : Value) : Stands (ofInt v.toInt) value? v :=
  ⟨.integer v.toInt, value?_ofInt v⟩

theorem stands_text (s : String) : Stands (ofText s) text? s :=
  ⟨.string (raw_encodeText s), decodeText?_encodeText s⟩

theorem mapM_map_eq_some {β γ : Type} {write : α → β} {read : β → Option γ} {back : α → γ}
    {xs : List α} (each : ∀ x ∈ xs, read (write x) = some (back x)) :
    (xs.map write).mapM read = some (xs.map back) := by
  induction xs with
  | nil => rfl
  | cons x xs ih =>
    obtain ⟨head, tail⟩ := List.forall_mem_cons.mp each
    simp [head, ih tail]

theorem mapM_map_inverse {β : Type} {write : α → β} {read : β → Option α} {xs : List α}
    (each : ∀ x ∈ xs, read (write x) = some x) : (xs.map write).mapM read = some xs := by
  have all := mapM_map_eq_some each
  rwa [List.map_id'] at all

theorem stands_list {write : α → Json} {read : Json → Option α} {xs : List α}
    (each : ∀ x ∈ xs, Stands (write x) read x) :
    Stands (.array (xs.map write)) (list? read) xs where
  written := .array (List.forall_mem_map.mpr fun x member => (each x member).written)
  read_eq := mapM_map_inverse fun x member => (each x member).read_eq

/-! ## Records -/

theorem isWritten_record {fields : List (String × Json)} (each : ∀ f ∈ fields, f.2.IsWritten) :
    (record fields).IsWritten :=
  .object (List.forall_mem_map.mpr fun f _ => raw_encodeText f.1) (List.forall_mem_map.mpr each)

theorem valuesOf_of_mem {fields : List (String × Json)} (distinct : (fields.map Prod.fst).Nodup)
    {f : String × Json} (member : f ∈ fields) : valuesOf f.1 fields = [f.2] := by
  induction fields with
  | nil => cases member
  | cons g fields ih =>
    rw [List.map_cons, List.nodup_cons] at distinct
    obtain ⟨fresh, distinct⟩ := distinct
    rcases List.mem_cons.mp member with rfl | member
    · have others : fields.filter (fun g => g.1 = f.1) = [] := by
        refine List.filter_eq_nil_iff.mpr fun g inside same => fresh ?_
        rw [← of_decide_eq_true same]
        exact List.mem_map_of_mem inside
      simp [valuesOf, others]
    · have other : g.1 ≠ f.1 := fun same => fresh (same ▸ List.mem_map_of_mem member)
      simpa [valuesOf, other] using ih distinct member

/-- A record with distinct names has its fields. -/
theorem fields?_record {fields : List (String × Json)} {names : List String}
    (names_eq : names = fields.map Prod.fst) (distinct : names.Nodup) :
    (record fields).fields? names = some (fields.map Prod.snd) := by
  subst names_eq
  have named : namedMembers? (fields.map fun f => (encodeText f.1, f.2)) = some fields :=
    mapM_map_inverse fun f _ => by rw [decodeText?_encodeText, Option.map_some]
  rw [record, fields?, named, Option.bind_some]
  refine mapM_map_eq_some fun f member => ?_
  rw [valuesOf_of_mem distinct member]

end Json

/-! ## Instructions, commands and programs -/

theorem Instruction.ofJsonName?_jsonName (i : Instruction) : ofJsonName? i.jsonName = some i := by
  cases i <;> decide

theorem Instruction.stands_toJson (i : Instruction) : Json.Stands i.toJson ofJson? i where
  written := (Json.stands_text i.jsonName).written
  read_eq := by
    rw [toJson, Json.ofText, ofJson?, Json.decodeText?_encodeText]
    exact ofJsonName?_jsonName i

theorem Operand.stands_toJson (o : Operand) : Json.Stands o.toJson ofJson? o where
  written := Json.isWritten_record (by simp [Json.isWritten_ofNat])
  read_eq := by
    have literal := Json.natBelow?_ofNat o.literal.toNat_lt_size
    have markers := Json.natBelow?_ofNat o.markers.toNat_lt_size
    simp [ofJson?, toJson, Json.fields?_record, literal, markers]

/-- The line number is a machine word. -/
def Command.CountsFit (c : Command) : Prop := c.line < wordBound

theorem Command.stands_toJson {c : Command} (fits : c.CountsFit) :
    Json.Stands c.toJson ofJson? c where
  written := Json.isWritten_record (by
    simp [c.instruction.stands_toJson.written, c.operand.stands_toJson.written,
      Json.isWritten_ofNat])
  read_eq := by
    simp [ofJson?, toJson, Json.fields?_record, c.instruction.stands_toJson.read_eq,
      c.operand.stands_toJson.read_eq, (Json.stands_count fits).read_eq]

/-- The line numbers are machine words. -/
def Program.CountsFit (p : Program) : Prop := ∀ c ∈ p.commands, c.CountsFit

theorem Program.stands_toJson {p : Program} (fits : p.CountsFit) :
    Json.Stands p.toJson ofJson? p := by
  have commands := Json.stands_list fun c member => Command.stands_toJson (fits c member)
  refine ⟨Json.isWritten_record (by simp [commands.written]), ?_⟩
  simp [ofJson?, toJson, Json.fields?_record, commands.read_eq]

/-! ## Registers and snapshots -/

/-- A cell above all others goes behind them. -/
theorem setCell_above {a : Address} {v : Value} {cells : List (Address × Value)}
    (above : ∀ cell ∈ cells, cell.1 < a) : setCell a v cells = cells ++ [(a, v)] := by
  induction cells with
  | nil => rfl
  | cons cell cells ih =>
    obtain ⟨below, others⟩ := List.forall_mem_cons.mp above
    rw [setCell, if_neg (UInt64.lt_asymm below), if_neg (UInt64.ne_of_lt below).symm, ih others]
    rfl

/-- Cells that go on in ascending order are added as they are. -/
theorem Registers.cells_setAll (cells : List (Address × Value)) (r : Registers)
    (ascending : Ascending (r.cells ++ cells)) : (r.setAll cells).cells = r.cells ++ cells := by
  induction cells generalizing r with
  | nil => exact (List.append_nil r.cells).symm
  | cons cell cells ih =>
    -- The next cell lies above all that the bank has, so it is put behind them.
    have above : ∀ c ∈ r.cells, c.1 < cell.1 := fun c member =>
      (List.pairwise_append.mp ascending).2.2 c member cell List.mem_cons_self
    have added : (r.set cell.1 cell.2).cells = r.cells ++ [cell] := setCell_above above
    have step := ih (r.set cell.1 cell.2) (by rwa [added, List.append_assoc])
    rw [added, List.append_assoc] at step
    exact step

theorem Registers.empty_setAll (r : Registers) : empty.setAll r.cells = r := by
  have cells := cells_setAll r.cells empty r.ascending
  rw [mk.injEq]
  exact cells

theorem Registers.cellOfMember?_cellJson (cell : Address × Value) :
    cellOfMember? (cellJson cell) = some cell := by
  have key : JsonNumber.parse? (Nat.toDigits 10 cell.1.toNat) =
      some (JsonNumber.ofNat cell.1.toNat) :=
    JsonNumber.parse?_digits false cell.1.toNat
  have address : addressOfKey? (Nat.toDigits 10 cell.1.toNat) = some cell.1 := by
    rw [addressOfKey?, key, Option.bind_some]
    exact (congrArg _ (Json.natBelow?_ofNat cell.1.toNat_lt_size)).trans
      (congrArg some UInt64.ofNat_toNat)
  simp [cellOfMember?, cellJson, address, Json.value?_ofInt]

theorem Registers.raw_cellJson (cell : Address × Value) : Json.Raw (cellJson cell).1 := by
  refine Json.raw_of_plain fun c member => ?_
  have digit : c.isDigit := Nat.isDigit_of_mem_toDigits (by decide) (by decide) member
  have range := Text.toNat_of_isDigit digit
  refine ⟨?_, ?_, by omega⟩ <;>
  · rintro rfl
    cases digit

theorem Registers.stands_toJson (r : Registers) : Json.Stands r.toJson ofJson? r := by
  have cells : (r.cells.map cellJson).mapM cellOfMember? = some r.cells :=
    Json.mapM_map_inverse fun cell _ => cellOfMember?_cellJson cell
  have written : (Json.object (r.cells.map cellJson)).IsWritten :=
    .object (List.forall_mem_map.mpr fun cell _ => raw_cellJson cell)
      (List.forall_mem_map.mpr fun cell _ => .integer cell.2.toInt)
  refine ⟨Json.isWritten_record (by simp [written]), ?_⟩
  simp [ofJson?, toJson, Json.fields?_record, cells, empty_setAll]

/-- The pointers and the line number are machine words. -/
structure Snapshot.CountsFit (s : Snapshot) : Prop where
  instructionPointer : s.instructionPointer < wordBound
  inputPointer : s.inputPointer < wordBound
  command : s.command.CountsFit

theorem Snapshot.stands_toJson {s : Snapshot} (fits : s.CountsFit) :
    Json.Stands s.toJson ofJson? s := by
  have instructionPointer := Json.stands_count fits.instructionPointer
  have inputPointer := Json.stands_count fits.inputPointer
  have output := Json.stands_list fun (v : Value) (_ : v ∈ s.output.toList) => Json.stands_value v
  have registers := s.registers.stands_toJson
  have command := Command.stands_toJson fits.command
  refine ⟨Json.isWritten_record ?_, ?_⟩
  · simp [instructionPointer.written, inputPointer.written, output.written, registers.written,
      command.written]
  · simp [ofJson?, toJson, Json.fields?_record, instructionPointer.read_eq, inputPointer.read_eq,
      output.read_eq, registers.read_eq, command.read_eq]

/-! ## Faults -/

/-- The counts that a fault names are machine words. -/
def Fault.CountsFit : Fault → Prop
  | lineNotFound line | divisionByZero line | illegalOperand line _ _ | negativeAddress line _ =>
    line < wordBound
  | inputExhausted line position => line < wordBound ∧ position < wordBound
  | limitExceeded limit => limit < wordBound

theorem Fault.isWritten_jsonFields (f : Fault) : ∀ field ∈ f.jsonFields, field.2.IsWritten := by
  cases f with
  | lineNotFound | inputExhausted | divisionByZero | limitExceeded =>
    simp [jsonFields, Json.isWritten_ofNat]
  | illegalOperand line instruction operand =>
    simp [jsonFields, Json.isWritten_ofNat, instruction.stands_toJson.written,
      (Json.stands_text operand).written]
  | negativeAddress line value =>
    simp [jsonFields, Json.isWritten_ofNat, (Json.stands_value value).written]

/-- What is written about a fault, under its name, is read as the fault. -/
theorem Fault.ofBody?_jsonFields {f : Fault} (fits : f.CountsFit) :
    ofBody? f.jsonName (Json.record f.jsonFields) = some f := by
  cases f with
  | lineNotFound line | divisionByZero line | limitExceeded line =>
    simp [ofBody?, jsonName, jsonFields, Json.fields?_record, Json.count?_ofNat fits]
  | inputExhausted line position =>
    simp [ofBody?, jsonName, jsonFields, Json.fields?_record, Json.count?_ofNat fits.1,
      Json.count?_ofNat fits.2]
  | illegalOperand line instruction operand =>
    simp [ofBody?, jsonName, jsonFields, Json.fields?_record, Json.count?_ofNat fits,
      instruction.stands_toJson.read_eq, (Json.stands_text operand).read_eq]
  | negativeAddress line value =>
    simp [ofBody?, jsonName, jsonFields, Json.fields?_record, Json.count?_ofNat fits,
      Json.value?_ofInt]

theorem Fault.stands_toJson {f : Fault} (fits : f.CountsFit) : Json.Stands f.toJson ofJson? f where
  written := Json.isWritten_record
    (by simpa using Json.isWritten_record f.isWritten_jsonFields)
  read_eq := by
    simp only [toJson, Json.record, List.map_cons, List.map_nil, ofJson?,
      Json.decodeText?_encodeText, Option.bind_some]
    exact ofBody?_jsonFields fits

/-! ## Saved machines -/

/-- The pointers and the line numbers of the program are machine words. -/
structure Machine.CountsFit (m : Machine) : Prop where
  instructionPointer : m.instructionPointer < wordBound
  inputPointer : m.inputPointer < wordBound
  program : m.program.CountsFit

theorem Program.CountsFit.get? {p : Program} (fits : p.CountsFit) {line : Nat} {c : Command}
    (fetched : p.get? line = some c) : c.CountsFit := by
  cases line with
  | zero => cases fetched
  | succ i => exact fits c (List.mem_of_getElem? fetched)

theorem Machine.CountsFit.snapshot {m : Machine} (fits : m.CountsFit) {s : Snapshot}
    (taken : m.snapshot = .ok s) : s.CountsFit := by
  obtain ⟨fetched, pointer, inputPointer, -⟩ := snapshot_eq_ok_iff.mp taken
  exact ⟨pointer ▸ fits.instructionPointer, inputPointer ▸ fits.inputPointer,
    fits.program.get? fetched⟩

theorem Machine.snapshot_of_current {m : Machine} {c : Command} (fetched : m.current = .ok c) :
    ∃ s, m.snapshot = .ok s := by
  rw [snapshot, fetched]
  exact ⟨_, rfl⟩

/-- Machine state of every type is read from its compact text as it was written, and a machine
in front of a command is restored from the text of its snapshot, by any machine with its program
and input. -/
theorem state_roundTrips :
    (∀ i : Instruction, Json.RoundTrips Instruction.toJson Instruction.ofJson? i) ∧
    (∀ o : Operand, Json.RoundTrips Operand.toJson Operand.ofJson? o) ∧
    (∀ c : Command, c.CountsFit → Json.RoundTrips Command.toJson Command.ofJson? c) ∧
    (∀ p : Program, p.CountsFit → Json.RoundTrips Program.toJson Program.ofJson? p) ∧
    (∀ r : Registers, Json.RoundTrips Registers.toJson Registers.ofJson? r) ∧
    (∀ s : Snapshot, s.CountsFit → Json.RoundTrips Snapshot.toJson Snapshot.ofJson? s) ∧
    (∀ f : Fault, f.CountsFit → Json.RoundTrips Fault.toJson Fault.ofJson? f) ∧
    (∀ (m m' : Machine) (c : Command), m.current = .ok c → m.CountsFit →
      m'.program = m.program → m'.input = m.input →
      ∃ s, m.snapshot = .ok s ∧
        ((Json.parse? s.toJson.render).bind Snapshot.ofJson?).map m'.restore = some m) := by
  refine ⟨fun i => i.stands_toJson.roundTrips, fun o => o.stands_toJson.roundTrips,
    fun c fits => (Command.stands_toJson fits).roundTrips,
    fun p fits => (Program.stands_toJson fits).roundTrips, fun r => r.stands_toJson.roundTrips,
    fun s fits => (Snapshot.stands_toJson fits).roundTrips,
    fun f fits => (Fault.stands_toJson fits).roundTrips, ?_⟩
  intro m m' c fetched fits program input
  obtain ⟨s, taken⟩ := Machine.snapshot_of_current fetched
  have read : (Json.parse? s.toJson.render).bind Snapshot.ofJson? = some s :=
    (Snapshot.stands_toJson (fits.snapshot taken)).roundTrips
  refine ⟨s, taken, ?_⟩
  rw [read, Option.map_some, Machine.restore_of_snapshot taken program input]

/-- Words at both ends of their range, a number of markers that no program text can have, and an
operand text of quotes, control characters and a character beyond the basic plane. -/
theorem state_roundTrips_extremes :
    let top := wordBound - 1
    let c : Command := ⟨.div, ⟨UInt64.ofNat top, 0xffffffff⟩, top⟩
    let f : Fault := .illegalOperand top .store "\"*\\\n\t\u0001\u007f\u00e9\u2028𝄞"
    let m : Machine :=
      { Machine.start ⟨[c]⟩ [Int64.minValue] with
        registers := Registers.initial.set (UInt64.ofNat top) Int64.minValue
        inputPointer := top
        output := #[Int64.minValue, -1, 0, Int64.maxValue] }
    c.CountsFit ∧ Json.RoundTrips Command.toJson Command.ofJson? c ∧
    Json.RoundTrips Program.toJson Program.ofJson? m.program ∧
    f.CountsFit ∧ Json.RoundTrips Fault.toJson Fault.ofJson? f ∧
    m.current = .ok c ∧ m.CountsFit ∧
    ∃ s, m.snapshot = .ok s ∧ s.CountsFit ∧ Json.RoundTrips Snapshot.toJson Snapshot.ofJson? s ∧
      ((Json.parse? s.toJson.render).bind Snapshot.ofJson?).map
        (Machine.start m.program m.input).restore = some m := by
  intro top c f m
  obtain ⟨-, -, command, program, -, snapshot, fault, machine⟩ := state_roundTrips
  have line : c.CountsFit := Nat.sub_lt (by decide) (by decide)
  have lines : m.program.CountsFit := by simpa [Program.CountsFit, m, Machine.start] using line
  have named : f.CountsFit := line
  have fits : m.CountsFit := ⟨(by decide : 1 < wordBound), line, lines⟩
  obtain ⟨s, taken, restored⟩ := machine m (.start m.program m.input) c rfl fits rfl rfl
  have counts : s.CountsFit := fits.snapshot taken
  exact ⟨line, command c line, program m.program lines, named, fault f named, rfl, fits, s, taken,
    counts, snapshot s counts, restored⟩

end RegisterMachine
