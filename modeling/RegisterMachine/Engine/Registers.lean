import RegisterMachine.Numeric.Word

/-!
# Registers

A register bank is a finite map from addresses to values, kept as a list in
ascending order of addresses. Equal maps are therefore equal lists. A register
that was never written reads as zero; register zero is the accumulator.
-/

namespace RegisterMachine

/-- The cells of a bank in strictly ascending order of addresses. -/
def Ascending (cells : List (Address × Value)) : Prop :=
  cells.Pairwise fun x y => x.1 < y.1

/-- Writes a cell, in front of the first cell of a higher address. -/
def setCell (a : Address) (v : Value) : List (Address × Value) → List (Address × Value)
  | [] => [(a, v)]
  | (b, w) :: cells =>
    if a < b then (a, v) :: (b, w) :: cells
    else if a = b then (a, v) :: cells
    else (b, w) :: setCell a v cells

theorem mem_setCell {a : Address} {v : Value} {cells : List (Address × Value)}
    {x : Address × Value} (h : x ∈ setCell a v cells) : x = (a, v) ∨ x ∈ cells := by
  induction cells with
  | nil => simpa [setCell] using h
  | cons head tail ih =>
    obtain ⟨b, w⟩ := head
    rw [setCell] at h
    split at h
    · simpa using h
    · split at h
      · rcases List.mem_cons.1 h with rfl | h
        · exact Or.inl rfl
        · exact Or.inr (List.mem_cons_of_mem _ h)
      · rcases List.mem_cons.1 h with rfl | h
        · exact Or.inr List.mem_cons_self
        · exact (ih h).imp_right (List.mem_cons_of_mem _)

theorem Ascending.setCell {cells : List (Address × Value)} (h : Ascending cells)
    (a : Address) (v : Value) : Ascending (setCell a v cells) := by
  induction cells with
  | nil => exact List.pairwise_singleton _ _
  | cons head tail ih =>
    obtain ⟨b, w⟩ := head
    obtain ⟨below, rest⟩ := List.pairwise_cons.1 h
    rw [RegisterMachine.setCell]
    split
    · rename_i lt
      refine List.pairwise_cons.2 ⟨fun x hx => ?_, h⟩
      rcases List.mem_cons.1 hx with rfl | hx
      · exact lt
      · exact UInt64.lt_trans lt (below x hx)
    · rename_i notLt
      split
      · rename_i same
        subst same
        exact List.pairwise_cons.2 ⟨below, rest⟩
      · rename_i differ
        refine List.pairwise_cons.2 ⟨fun x hx => ?_, ih rest⟩
        rcases mem_setCell hx with rfl | hx
        · exact UInt64.lt_of_le_of_ne (UInt64.not_lt.1 notLt) (Ne.symm differ)
        · exact below x hx

theorem lookup_cell (a b : Address) (v : Value) (cells : List (Address × Value)) :
    ((a, v) :: cells).lookup b = if b = a then some v else cells.lookup b := by
  rw [List.lookup_cons]
  by_cases same : b = a
  · simp [same]
  · simp [same, beq_false_of_ne same]

theorem lookup_setCell (a b : Address) (v : Value) (cells : List (Address × Value)) :
    (setCell a v cells).lookup b = if b = a then some v else cells.lookup b := by
  induction cells with
  | nil => rw [setCell, lookup_cell]
  | cons head tail ih =>
    obtain ⟨c, w⟩ := head
    rw [setCell]
    split
    · rw [lookup_cell]
    · split
      · rename_i same
        subst same
        simp only [lookup_cell]
        split <;> rfl
      · rename_i differ
        simp only [lookup_cell, ih]
        by_cases here : b = c
        · rw [if_pos here, if_pos here, if_neg (fun same => differ (same.symm.trans here))]
        · rw [if_neg here, if_neg here]

/-- A finite map from addresses to values. -/
structure Registers where
  cells : List (Address × Value)
  ascending : Ascending cells
  deriving DecidableEq

namespace Registers

/-- The address of the accumulator. -/
def accumulatorAddress : Address := 0

/-- The bank without a cell. -/
def empty : Registers := ⟨[], List.Pairwise.nil⟩

/-- The value of a register. -/
def get (r : Registers) (a : Address) : Value :=
  (r.cells.lookup a).getD 0

/-- Writes a register. -/
def set (r : Registers) (a : Address) (v : Value) : Registers :=
  ⟨setCell a v r.cells, r.ascending.setCell a v⟩

@[simp] theorem get_set (r : Registers) (a b : Address) (v : Value) :
    (r.set a v).get b = if b = a then v else r.get b := by
  rw [get, get, set, lookup_setCell]
  split <;> rfl

/-- The bank of a fresh machine: the accumulator at zero. -/
def initial : Registers := empty.set accumulatorAddress 0

instance : Inhabited Registers := ⟨initial⟩

/-- Writes cells one after the other, so that a later one wins. -/
def setAll (r : Registers) (cells : List (Address × Value)) : Registers :=
  cells.foldl (fun r cell => r.set cell.1 cell.2) r

/-- The value of the accumulator. -/
def accumulator (r : Registers) : Value := r.get accumulatorAddress

/-- Writes the accumulator. -/
def setAccumulator (r : Registers) (v : Value) : Registers := r.set accumulatorAddress v

/-- Copies the accumulator to a register. -/
def storeAccumulator (r : Registers) (a : Address) : Registers := r.set a r.accumulator

/-- The number of cells. -/
def size (r : Registers) : Nat := r.cells.length

/-- Whether there is no cell. -/
def isEmpty (r : Registers) : Bool := r.cells.isEmpty

/-- One cell as text. -/
def cellText (cell : Address × Value) : String :=
  Address.text cell.1 ++ "=" ++ Value.text cell.2

/-- The cells between braces, in ascending order of addresses. -/
def text (r : Registers) : String :=
  "\x7b" ++ String.intercalate ", " (r.cells.map cellText) ++ "\x7d"

end Registers

end RegisterMachine
