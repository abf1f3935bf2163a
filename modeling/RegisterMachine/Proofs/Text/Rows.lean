/-!
# Rows of a text

* `stacked rows`: the rows one below the other, each with a line feed at its end.
* `rowsOf text`: the rows that a text fills; `stacked_rowsOf`: stacked, they are the text with a
  line feed at its end.
-/

namespace RegisterMachine.Text

/-- The rows, each with a line feed at its end. -/
def stacked (rows : List String) : String := String.join (rows.map (· ++ "\n"))

/-- The rows of a character list.  A line feed ends a row.  What stands behind the last line feed
is a row too, unless nothing stands there; without a line feed, all is one row. -/
def cutRows : List Char → List (List Char)
  | [] => [[]]
  | c :: cs =>
    if c = '\n' then if cs = [] then [[]] else [] :: cutRows cs
    else
      match cutRows cs with
      | [] => [[c]]
      | row :: rows => (c :: row) :: rows

/-- The rows that a text fills; the empty text fills one. -/
def rowsOf (text : String) : List String := (cutRows text.toList).map String.ofList

theorem stacked_cons (row : String) (rows : List String) :
    stacked (row :: rows) = row ++ "\n" ++ stacked rows := by
  simp [stacked]

theorem stacked_append (rows rows' : List String) :
    stacked (rows ++ rows') = stacked rows ++ stacked rows' := by
  simp [stacked, String.join_append]

theorem stacked_blank (n : Nat) :
    stacked (List.replicate n "") = String.ofList (List.replicate n '\n') := by
  induction n with
  | zero => rfl
  | succ n ih =>
    rw [List.replicate_succ, stacked_cons, ih, String.ext_iff]
    simp [List.replicate_succ]

theorem count_stacked {rows : List String} (plain : ∀ row ∈ rows, '\n' ∉ row.toList) :
    (stacked rows).toList.count '\n' = rows.length := by
  induction rows with
  | nil => rfl
  | cons row rows ih =>
    obtain ⟨head, tail⟩ := List.forall_mem_cons.mp plain
    simp [stacked_cons, ih tail, List.count_eq_zero.mpr head]

/-! ## Cutting -/

theorem cutRows_ne_nil (cs : List Char) : cutRows cs ≠ [] := by
  fun_cases cutRows cs <;> simp

theorem mem_of_mem_cutRows {c : Char} {row cs : List Char} (among : row ∈ cutRows cs)
    (member : c ∈ row) : c ∈ cs ∧ c ≠ '\n' := by
  fun_induction cutRows cs generalizing row with
  | case1 => simp_all
  | case2 => simp_all
  | case3 cs more ih =>
    rcases List.mem_cons.mp among with rfl | among
    · cases member
    · exact (ih among member).imp_left (List.mem_cons_of_mem _)
  | case4 x cs other empty => exact absurd empty (cutRows_ne_nil cs)
  | case5 x cs other first rows cut ih =>
    rw [cut] at ih
    rcases List.mem_cons.mp among with rfl | among
    · rcases List.mem_cons.mp member with rfl | member
      · exact ⟨List.mem_cons_self, other⟩
      · exact (ih List.mem_cons_self member).imp_left (List.mem_cons_of_mem _)
    · exact (ih (List.mem_cons_of_mem _ among) member).imp_left (List.mem_cons_of_mem _)

theorem flatMap_cutRows (cs : List Char) :
    ((cutRows cs).flatMap fun row => row ++ ['\n']) =
      if cs.getLast? = some '\n' then cs else cs ++ ['\n'] := by
  fun_induction cutRows cs with
  | case1 => rfl
  | case2 => simp_all
  | case3 cs more ih =>
    rw [List.flatMap_cons, ih, List.getLast?_cons_of_ne_nil more]
    split <;> rfl
  | case4 x cs other empty => exact absurd empty (cutRows_ne_nil cs)
  | case5 x cs other first rows cut ih =>
    rw [cut, List.flatMap_cons] at ih
    rw [List.flatMap_cons, List.cons_append, List.cons_append, ih]
    by_cases more : cs = []
    · simp [more, other]
    · rw [List.getLast?_cons_of_ne_nil more]
      split <;> rfl

/-- What stands in a row stands in the text, and is no line feed. -/
theorem mem_of_mem_rowsOf {c : Char} {row text : String} (among : row ∈ rowsOf text)
    (member : c ∈ row.toList) : c ∈ text.toList ∧ c ≠ '\n' := by
  obtain ⟨cut, found, rfl⟩ := List.mem_map.mp among
  exact mem_of_mem_cutRows found (by simpa using member)

/-- The rows of a text, stacked, are the text with a line feed at its end. -/
theorem stacked_rowsOf (text : String) :
    stacked (rowsOf text) = if text.toList.getLast? = some '\n' then text else text ++ "\n" := by
  have chars := flatMap_cutRows text.toList
  have shape : (stacked (rowsOf text)).toList =
      (cutRows text.toList).flatMap fun row => row ++ ['\n'] := by
    simp [stacked, rowsOf, String.toList_join, List.flatMap_map]
  rw [String.ext_iff, shape, chars]
  split <;> simp

end RegisterMachine.Text
