import RegisterMachine.Debug.Frame
import RegisterMachine.Proofs.Engine.StateText
import RegisterMachine.Proofs.Text.Rows

/-!
# What frames and listings hold

* `Frame.rows`: the rows of a frame; `renderFrame_eq_stacked`: a frame is these rows.
* `renderFrame_layout`: they are the registers, an empty row, the last snapshots and empty rows in
  place of those that are not there, always as many.
* `renderStates_eq_stacked`: a listing is a row for each snapshot, behind its number.
* `renderStates_faithful`: so histories with the same listing are the same.
-/

namespace RegisterMachine

open Text (stacked)

theorem toList_indexText (index : Nat) :
    (indexText index).toList =
      '#' :: (Nat.toDigits 10 index ++ List.replicate (4 - (toString index).length) ' ') := by
  simp [indexText, Text.padRight]

theorem lineFeed_notMem_indexText (index : Nat) : '\n' ∉ (indexText index).toList := by
  simp [toList_indexText, Text.lineFeed_notMem_toDigits]

/-! ## Frames -/

namespace Frame

/-- The row of a snapshot: a mark of two columns, the place in the history, and the command. -/
def rowText (newest index : Nat) (s : Snapshot) : String :=
  (if index = newest then "->" else "  ") ++ " #" ++ Text.padRight 4 (toString index) ++ " " ++
    s.command.text

theorem frameRow_eq (newest index : Nat) (s : Snapshot) :
    frameRow newest index s = rowText newest index s ++ "\n" := by
  rw [String.ext_iff]
  simp [frameRow, rowText, indexText]

theorem lineFeed_notMem_rowText (newest index : Nat) (s : Snapshot) :
    '\n' ∉ (rowText newest index s).toList := by
  have mark : '\n' ∉ (if index = newest then "->" else "  ").toList := by
    split <;> decide
  simp [rowText, Text.padRight, mark, Text.lineFeed_notMem_toDigits, Command.lineFeed_notMem_text]

/-- The last `n` snapshots, or all if there are fewer, with their places in the history. -/
def recent (history : Array Snapshot) (n : Nat) : List (Snapshot × Nat) :=
  (history.extract (history.size - n) history.size).toList.zipIdx (history.size - n)

theorem length_recent (history : Array Snapshot) (n : Nat) :
    (recent history n).length = min n history.size := by
  rw [recent, List.length_zipIdx, Array.length_toList, Array.size_extract]
  omega

theorem getElem?_recent {history : Array Snapshot} {n k : Nat} (shown : k < min n history.size) :
    ∃ s, history[history.size - min n history.size + k]? = some s ∧
      (recent history n)[k]? = some (s, history.size - min n history.size + k) := by
  have start : history.size - n = history.size - min n history.size := by omega
  have within : history.size - min n history.size + k < history.size := by omega
  refine ⟨history[history.size - min n history.size + k], Array.getElem?_eq_getElem within, ?_⟩
  rw [recent, start, List.getElem?_zipIdx, Array.getElem?_toList, Array.getElem?_extract,
    if_pos (by omega), Array.getElem?_eq_getElem within, Option.map_some]

/-- The rows of a frame. -/
def rows (history : Array Snapshot) (registers : Registers) (n : Nat) : List String :=
  ("registers: " ++ registers.text) :: "" ::
    ((recent history n).map (fun (s, index) => rowText (history.size - 1) index s) ++
      List.replicate (n - (recent history n).length) "")

theorem length_rows (history : Array Snapshot) (registers : Registers) (n : Nat) :
    (rows history registers n).length = n + 2 := by
  simp only [rows, List.length_cons, List.length_append, List.length_map, List.length_replicate,
    length_recent]
  omega

theorem lineFeed_notMem_rows (history : Array Snapshot) (registers : Registers) (n : Nat) :
    ∀ row ∈ rows history registers n, '\n' ∉ row.toList := by
  simp only [rows, List.forall_mem_cons, List.forall_mem_append, List.forall_mem_map]
  refine ⟨?_, by simp, fun item _ => lineFeed_notMem_rowText _ _ _, fun row blank => ?_⟩
  · simp [Registers.lineFeed_notMem_text]
  · rw [List.eq_of_mem_replicate blank]
    simp

end Frame

theorem renderFrame_eq_stacked (history : Array Snapshot) (registers : Registers) (n : Nat) :
    renderFrame history registers n = stacked (Frame.rows history registers n) := by
  have shown : stacked ((Frame.recent history n).map
        fun (s, index) => Frame.rowText (history.size - 1) index s) =
      String.join ((Frame.recent history n).map
        fun (s, index) => frameRow (history.size - 1) index s) := by
    rw [stacked, List.map_map]
    exact congrArg String.join (List.map_congr_left fun item _ => (Frame.frameRow_eq ..).symm)
  rw [Frame.rows, Text.stacked_cons, Text.stacked_cons, Text.stacked_append, shown,
    Text.stacked_blank]
  simp only [renderFrame, Frame.recent, String.append_assoc, String.empty_append]
  rfl

/-- A frame is always as many rows: the registers, an empty row, the last snapshots in order, each
behind its place in the history and the newest one with an arrow, and empty rows. -/
theorem renderFrame_layout (history : Array Snapshot) (registers : Registers) (n : Nat) :
    let shown := min n history.size
    ∃ rows : List String,
      renderFrame history registers n = stacked rows ∧ (∀ row ∈ rows, '\n' ∉ row.toList) ∧
        rows.length = n + 2 ∧
        rows[0]? = some ("registers: " ++ registers.text) ∧ rows[1]? = some "" ∧
        (∀ k, k < shown →
          let index := history.size - shown + k
          ∃ s, history[index]? = some s ∧
            rows[k + 2]? = some ((if index = history.size - 1 then "->" else "  ") ++ " #" ++
              Text.padRight 4 (toString index) ++ " " ++ s.command.text)) ∧
        ∀ k, shown ≤ k → k < n → rows[k + 2]? = some "" := by
  intro shown
  have length := Frame.length_recent history n
  refine ⟨Frame.rows history registers n, renderFrame_eq_stacked history registers n,
    Frame.lineFeed_notMem_rows history registers n, Frame.length_rows history registers n,
    rfl, rfl, ?_, ?_⟩
  · intro k among index
    obtain ⟨s, at_k, found⟩ := Frame.getElem?_recent among
    refine ⟨s, at_k, ?_⟩
    rw [Frame.rows, List.getElem?_cons_succ, List.getElem?_cons_succ,
      List.getElem?_append_left (by rw [List.length_map, length]; exact among), List.getElem?_map,
      found]
    rfl
  · intro k past within
    rw [Frame.rows, List.getElem?_cons_succ, List.getElem?_cons_succ,
      List.getElem?_append_right (by rw [List.length_map, length]; exact past), List.length_map,
      length]
    exact List.getElem?_replicate_of_lt (by omega)

/-- A frame that is higher than its history, one that is lower, and one without room. -/
theorem renderFrame_layout_heights :
    let first : Snapshot := ⟨1, 0, #[], .initial, ⟨.load, ⟨4, 0⟩, 1⟩⟩
    let second : Snapshot := ⟨2, 0, #[], .initial, ⟨.halt, .absent, 2⟩⟩
    let frame := renderFrame #[first, second] .initial
    (∃ rows, frame 3 = stacked rows ∧ rows.length = 5 ∧ rows[2]? = some "   #0    1: LOAD 4" ∧
      rows[3]? = some "-> #1    2: HALT 0" ∧ rows[4]? = some "") ∧
    (∃ rows, frame 1 = stacked rows ∧ rows.length = 3 ∧ rows[2]? = some "-> #1    2: HALT 0") ∧
    ∃ rows, frame 0 = stacked rows ∧ rows.length = 2 ∧ rows[1]? = some "" := by
  intro first second frame
  refine ⟨?_, ?_, ?_⟩
  · obtain ⟨rows, stack, -, length, -, -, shown, blank⟩ :=
      renderFrame_layout #[first, second] .initial 3
    obtain ⟨s, at_zero, zero⟩ := shown 0 (by decide)
    obtain ⟨s', at_one, one⟩ := shown 1 (by decide)
    cases at_zero
    cases at_one
    refine ⟨rows, stack, length, zero.trans ?_, one.trans ?_, blank 2 (by decide) (by decide)⟩
    · decide +kernel
    · decide +kernel
  · obtain ⟨rows, stack, -, length, -, -, shown, -⟩ :=
      renderFrame_layout #[first, second] .initial 1
    obtain ⟨s, at_zero, zero⟩ := shown 0 (by decide)
    cases at_zero
    exact ⟨rows, stack, length, zero.trans (by decide +kernel)⟩
  · obtain ⟨rows, stack, -, length, -, blank, -⟩ := renderFrame_layout #[first, second] .initial 0
    exact ⟨rows, stack, length, blank⟩

/-! ## Listings -/

/-- The row of a snapshot in a listing. -/
def listedRow (item : Snapshot × Nat) : String := indexText item.2 ++ " " ++ item.1.text

/-- The rows of snapshots that are numbered from `index` on. -/
def listing (snapshots : List Snapshot) (index : Nat) : List String :=
  (snapshots.zipIdx index).map listedRow

theorem renderStates_eq_stacked {history : Array Snapshot} (some : history ≠ #[]) :
    renderStates history = stacked (listing history.toList 0) := by
  have more : history.isEmpty = false := by simpa using some
  rw [renderStates, more, stacked, listing, List.map_map]
  rfl

theorem lineFeed_notMem_listing (snapshots : List Snapshot) (index : Nat) :
    ∀ row ∈ listing snapshots index, '\n' ∉ row.toList := by
  simp only [listing, List.forall_mem_map]
  intro item _
  simp [listedRow, lineFeed_notMem_indexText, Snapshot.lineFeed_notMem_text]

theorem toList_stacked_listing_cons (s : Snapshot) (rest : List Snapshot) (index : Nat) :
    (stacked (listing (s :: rest) index)).toList =
      '#' :: ((Nat.toDigits 10 index ++ List.replicate (4 - (toString index).length) ' ' ++ [' ']) ++
        (s.text.toList ++ ('\n' :: (stacked (listing rest (index + 1))).toList))) := by
  simp [listing, listedRow, Text.stacked_cons, toList_indexText]

/-- Listings from the same number on that are the same text list the same snapshots. -/
theorem eq_of_stacked_listing {xs ys : List Snapshot} {index : Nat}
    (same : (stacked (listing xs index)).toList = (stacked (listing ys index)).toList) :
    xs = ys := by
  induction xs generalizing ys index with
  | nil =>
    cases ys with
    | nil => rfl
    | cons y ys =>
      rw [toList_stacked_listing_cons] at same
      cases same
  | cons x xs ih =>
    cases ys with
    | nil =>
      rw [toList_stacked_listing_cons] at same
      cases same
    | cons y ys =>
      rw [toList_stacked_listing_cons, toList_stacked_listing_cons, List.cons.injEq,
        List.append_cancel_left_eq] at same
      obtain ⟨rfl, rest⟩ := Snapshot.eq_of_text_append same.2
      rw [List.cons.injEq] at rest
      rw [ih rest.2]

/-- No row of a listing is the text for a history without snapshots. -/
theorem renderStates_ne_of_ne {history : Array Snapshot} (some : history ≠ #[]) :
    renderStates history ≠ renderStates #[] := by
  intro same
  obtain ⟨s, rest, shape⟩ := List.exists_cons_of_ne_nil
    (by simpa using some : history.toList ≠ [])
  have text := congrArg String.toList same
  rw [renderStates_eq_stacked some, shape, toList_stacked_listing_cons] at text
  exact absurd (List.cons_eq_cons.mp text).1 (by decide)

theorem renderStates_injective : Function.Injective renderStates := by
  intro history history' same
  by_cases none : history = #[]
  · by_cases none' : history' = #[]
    · rw [none, none']
    · rw [none] at same
      exact absurd same.symm (renderStates_ne_of_ne none')
  · by_cases none' : history' = #[]
    · rw [none'] at same
      exact absurd same (renderStates_ne_of_ne none)
    · rw [renderStates_eq_stacked none, renderStates_eq_stacked none'] at same
      exact Array.toList_inj.mp (eq_of_stacked_listing (congrArg String.toList same))

/-- Histories with the same listing are the same.  The listing of a history is a row for each
snapshot, which begins with its number. -/
theorem renderStates_faithful :
    (∀ history history' : Array Snapshot,
      renderStates history = renderStates history' → history = history') ∧
    ∀ history : Array Snapshot, history ≠ #[] → ∃ rows : List String,
      renderStates history = stacked rows ∧ (∀ row ∈ rows, '\n' ∉ row.toList) ∧
        rows.length = history.size ∧
        ∀ (i : Nat) (s : Snapshot), history[i]? = some s →
          ∃ padding, (∀ c ∈ padding.toList, c = ' ') ∧
            rows[i]? = some ("#" ++ toString i ++ padding ++ " " ++ s.text) := by
  refine ⟨fun _ _ same => renderStates_injective same, fun history some => ?_⟩
  refine ⟨listing history.toList 0, renderStates_eq_stacked some, lineFeed_notMem_listing _ _,
    by simp [listing], fun i s at_i => ?_⟩
  refine ⟨String.ofList (List.replicate (4 - (toString i).length) ' '), ?_, ?_⟩
  · intro c member
    exact List.eq_of_mem_replicate (by simpa using member)
  · have found : history.toList[i]? = .some s := by simpa using at_i
    rw [listing, List.getElem?_map, List.getElem?_zipIdx, found]
    simp [listedRow, indexText, Text.padRight, String.append_assoc]

/-- Two histories put together in different ways, two that differ in a comma, and the rows of a
listing. -/
theorem renderStates_faithful_alike :
    let s : Snapshot := ⟨1, 0, #[-1, 2], Registers.initial.set 7 (-3), ⟨.add, ⟨7, 2⟩, 1⟩⟩
    let s' : Snapshot := { s with output := #[-12] }
    (renderStates (#[s].push s') = renderStates #[s, s'] ∧ #[s].push s' = #[s, s']) ∧
      renderStates #[s] ≠ renderStates #[s'] ∧
      ∃ rows, renderStates #[s, s'] = stacked rows ∧ rows.length = 2 ∧ ∃ padding,
        rows[1]? = some ("#1" ++ padding ++ " " ++
          "1: ADD **7 | ip=1 in=0 out=[-12] regs=\x7b0=0, 7=-3\x7d") := by
  intro s s'
  obtain ⟨faithful, listed⟩ := renderStates_faithful
  have same : renderStates (#[s].push s') = renderStates #[s, s'] := by decide +kernel
  refine ⟨⟨same, faithful _ _ same⟩, ?_, ?_⟩
  · intro alike
    exact absurd (faithful _ _ alike) (by decide +kernel)
  · obtain ⟨rows, stack, -, length, each⟩ := listed #[s, s'] (by simp)
    obtain ⟨padding, -, row⟩ := each 1 s' rfl
    have text : s'.text = "1: ADD **7 | ip=1 in=0 out=[-12] regs=\x7b0=0, 7=-3\x7d" := by
      decide +kernel
    have number : "#" ++ toString 1 = "#1" := by decide +kernel
    rw [text, number] at row
    exact ⟨rows, stack, length, padding, row⟩

end RegisterMachine
