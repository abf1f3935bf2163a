import RegisterMachine.Proofs.Text.Decimal

/-!
# Texts that tell their values

A way of writing values is legible if a value can be told from a text that begins with it,
as long as what stands behind cannot be mistaken for more of it.

* `Legible write p`: the value and the rest are told, if the rest begins with no character that
  satisfies `p`.
* `legible_of_all`: values written with characters of one kind; `Legible.append`: one value behind
  another; `Legible.lead`: a fixed text in front; `Legible.list`: values with commas in between.
-/

namespace RegisterMachine.Text

variable {α β : Type} {p q : Char → Bool}

/-- The text is empty or begins with a character that does not satisfy `p`. -/
def Ends (p : Char → Bool) (rest : List Char) : Prop := ∀ c ∈ rest.head?, p c = false

/-- A value is told from any text that begins with it and then ends what `p` holds of. -/
def Legible (write : α → List Char) (p : Char → Bool) : Prop :=
  ∀ ⦃x y : α⦄ ⦃rest rest' : List Char⦄, Ends p rest → Ends p rest' →
    write x ++ rest = write y ++ rest' → x = y ∧ rest = rest'

theorem ends_cons {c : Char} (outside : p c = false) (cs : List Char) : Ends p (c :: cs) := by
  intro d head
  cases head
  exact outside

theorem takeWhile_of_ends {cs rest : List Char} (all : ∀ c ∈ cs, p c) (ends : Ends p rest) :
    (cs ++ rest).takeWhile p = cs := by
  rw [List.takeWhile_append_of_pos all]
  cases rest with
  | nil => simp
  | cons c rest => simp [ends c rfl]

/-- Values that are written with characters of one kind. -/
theorem legible_of_all {write : α → List Char} (injective : Function.Injective write)
    (all : ∀ x, ∀ c ∈ write x, p c) : Legible write p := by
  intro x y rest rest' ends ends' same
  have front := congrArg (List.takeWhile p) same
  rw [takeWhile_of_ends (all x) ends, takeWhile_of_ends (all y) ends'] at front
  rw [front] at same
  exact ⟨injective front, List.append_cancel_left same⟩

/-- A value is told from what it is told by. -/
theorem Legible.comp {write : β → List Char} (legible : Legible write p) {f : α → β}
    (injective : Function.Injective f) : Legible (fun x => write (f x)) p := by
  intro x y rest rest' ends ends' same
  exact (legible ends ends' same).imp_left fun told => injective told

/-- A fixed text in front. -/
theorem Legible.lead {write : α → List Char} (legible : Legible write p) (front : List Char) :
    Legible (fun x => front ++ write x) p := by
  intro x y rest rest' ends ends' same
  simp only [List.append_assoc] at same
  exact legible ends ends' (List.append_cancel_left same)

/-- A value behind another one, which it cannot be mistaken for. -/
theorem Legible.append {f : α → List Char} {g : β → List Char} (first : Legible f p)
    (second : Legible g q) (apart : ∀ y, ∃ c cs, g y = c :: cs ∧ p c = false) :
    Legible (fun x : α × β => f x.1 ++ g x.2) q := by
  intro x y rest rest' ends ends' same
  have fresh (z : β) (behind : List Char) : Ends p (g z ++ behind) := by
    obtain ⟨c, cs, begins, outside⟩ := apart z
    rw [begins]
    exact ends_cons outside _
  simp only [List.append_assoc] at same
  obtain ⟨left, more⟩ := first (fresh _ _) (fresh _ _) same
  obtain ⟨right, behind⟩ := second ends ends' more
  exact ⟨Prod.ext left right, behind⟩

/-- A value behind another one and a text that cannot be mistaken for more of it. -/
theorem Legible.separated {f : α → List Char} {g : β → List Char} (first : Legible f p)
    (separator : Char) (more : List Char) (outside : p separator = false) (second : Legible g q) :
    Legible (fun x : α × β => f x.1 ++ (separator :: more ++ g x.2)) q :=
  first.append (second.lead (separator :: more)) fun y => ⟨separator, more ++ g y, rfl, outside⟩

/-! ## Lists -/

section List

variable {item : α → List Char} {close : Char}

/-- The items behind the first one, and the character that closes the list. -/
def following (item : α → List Char) (close : Char) : List α → List Char
  | [] => [close]
  | x :: xs => ',' :: ' ' :: (item x ++ following item close xs)

theorem ends_following (comma : p ',' = false) (closing : p close = false) (xs : List α)
    (rest : List Char) : Ends p (following item close xs ++ rest) := by
  cases xs with
  | nil => exact ends_cons closing rest
  | cons x xs => exact ends_cons comma _

theorem legible_following (legible : Legible item p) (comma : p ',' = false)
    (closing : p close = false) (other : close ≠ ',') :
    Legible (following item close) fun _ => false := by
  intro xs ys rest rest' ends ends' same
  induction xs generalizing ys with
  | nil =>
    cases ys with
    | nil => exact ⟨rfl, (List.cons_eq_cons.mp same).2⟩
    | cons y ys => exact absurd (List.cons_eq_cons.mp same).1 other
  | cons x xs ih =>
    cases ys with
    | nil => exact absurd (List.cons_eq_cons.mp same).1.symm other
    | cons y ys =>
      simp only [following, List.cons_append, List.append_assoc, List.cons.injEq, true_and] at same
      obtain ⟨rfl, tails⟩ := legible (ends_following comma closing xs rest)
        (ends_following comma closing ys rest') same
      obtain ⟨rfl, behind⟩ := ih tails
      exact ⟨rfl, behind⟩

theorem intercalate_eq_following (x : α) (xs : List α) :
    List.intercalate [',', ' '] ((x :: xs).map item) ++ [close] =
      item x ++ following item close xs := by
  induction xs generalizing x with
  | nil => simp [following]
  | cons y ys ih =>
    rw [List.map_cons, List.map_cons, List.intercalate_cons_cons, ← List.map_cons,
      List.append_assoc, ih]
    simp [following]

/-- Values with commas in between, up to the character that closes the list. -/
theorem Legible.list (legible : Legible item p) (starts : ∀ x, ∃ c cs, item x = c :: cs ∧ p c)
    (comma : p ',' = false) (closing : p close = false) (other : close ≠ ',') :
    Legible (fun xs : List α => List.intercalate [',', ' '] (xs.map item) ++ [close])
      fun _ => false := by
  have first (x : α) (xs : List α) (rest rest' : List Char) :
      [close] ++ rest ≠ List.intercalate [',', ' '] ((x :: xs).map item) ++ [close] ++ rest' := by
    obtain ⟨c, cs, begins, inside⟩ := starts x
    intro same
    rw [intercalate_eq_following, begins] at same
    have head : close = c := (List.cons_eq_cons.mp same).1
    rw [head, inside] at closing
    cases closing
  intro xs ys rest rest' ends ends' same
  cases xs with
  | nil =>
    cases ys with
    | nil => exact ⟨rfl, (List.cons_eq_cons.mp same).2⟩
    | cons y ys => exact absurd same (first y ys rest rest')
  | cons x xs =>
    cases ys with
    | nil => exact absurd same.symm (first x xs rest' rest)
    | cons y ys =>
      simp only [intercalate_eq_following, List.append_assoc] at same
      obtain ⟨rfl, tails⟩ := legible (ends_following comma closing xs rest)
        (ends_following comma closing ys rest') same
      obtain ⟨rfl, behind⟩ := legible_following legible comma closing other ends ends' tails
      exact ⟨rfl, behind⟩

end List

/-! ## Numbers -/

theorem legible_toDigits : Legible (Nat.toDigits 10) Char.isDigit := by
  refine legible_of_all (fun m n same => ?_) fun n c member =>
    Nat.isDigit_of_mem_toDigits (by decide) (by decide) member
  have read := natural?_toDigits m
  rw [same, natural?_toDigits] at read
  exact (Option.some.inj read).symm

theorem toDigits_eq_cons (n : Nat) : ∃ c cs, Nat.toDigits 10 n = c :: cs ∧ c.isDigit := by
  obtain ⟨c, cs, digits⟩ := List.exists_cons_of_ne_nil (Nat.toDigits_ne_nil (b := 10) (n := n))
  have among : c ∈ Nat.toDigits 10 n := digits ▸ List.mem_cons_self
  exact ⟨c, cs, digits, Nat.isDigit_of_mem_toDigits (by decide) (by decide) among⟩

/-- Whether a character may stand in a signed numeral. -/
def isSigned (c : Char) : Bool := c = '-' || c.isDigit

theorem isSigned_of_mem_text {v : Value} {c : Char} (member : c ∈ (Value.text v).toList) :
    isSigned c := by
  simpa [isSigned] using sign_or_digit_of_mem_text member

theorem legible_value : Legible (fun v => (Value.text v).toList) isSigned := by
  refine legible_of_all (fun v w same => ?_) fun v c => isSigned_of_mem_text
  have read := integer?_eq_some_iff.mpr (denotes_text v)
  have read' := integer?_eq_some_iff.mpr (denotes_text w)
  rw [same, read'] at read
  exact (Option.some.inj read).symm

end RegisterMachine.Text
