import RegisterMachine.Text.Blank
import RegisterMachine.Text.Numeral

/-!
# What numerals denote

* `natural?_eq_some_iff`: a numeral is a non-empty list of ASCII digits, of any length and
  with any number of leading zeros, and denotes what its digits add up to in base ten.
* `natural?_toDigits`: the digits that a number is written with denote it.
* `count?_eq_some_iff`: a count is digits with or without a plus, and fits a word;
  `counts_toString`: a number that fits is a count in decimal.
* `integer?_eq_some_iff`: a signed numeral is digits with or without a sign, and denotes a
  word; `denotes_text`: a value in decimal denotes it.
-/

namespace RegisterMachine.Text

theorem isDigit_iff {c : Char} : c.isDigit = true ↔ '0' ≤ c ∧ c ≤ '9' := by
  simp only [Char.isDigit, Bool.and_eq_true, decide_eq_true_eq, Char.le_def]

theorem digit?_eq (c : Char) :
    digit? c = if c.isDigit then some (c.toNat - '0'.toNat) else none := by
  simp only [digit?, isDigit_iff]

theorem digitsFrom_eq_some_iff {acc n : Nat} {cs : List Char} :
    digitsFrom acc cs = some n ↔ (∀ c ∈ cs, c.isDigit) ∧ Nat.ofDigitChars 10 cs acc = n := by
  induction cs generalizing acc with
  | nil => simp [digitsFrom]
  | cons c cs ih =>
    rw [digitsFrom, digit?_eq, List.forall_mem_cons, Nat.ofDigitChars_cons]
    split <;> rename_i found
    · split at found
      · rename_i digit
        cases found
        rw [ih, and_iff_right digit]
      · cases found
    · split at found
      · cases found
      · rename_i other
        simp [other]

theorem toNat_of_isDigit {c : Char} (digit : c.isDigit) : 48 ≤ c.toNat ∧ c.toNat ≤ 57 := by
  simpa [Char.isDigit, UInt32.le_iff_toNat_le] using digit

/-- Digits stand in no gap. -/
theorem isBlank_of_isDigit {c : Char} (digit : c.isDigit) : isBlank c = false := by
  have range := toNat_of_isDigit digit
  simp only [isBlank, Bool.or_eq_false_iff, Bool.and_eq_false_iff, decide_eq_false_iff_not,
    beq_eq_false_iff_ne]
  omega

theorem natural?_eq_some_iff {cs : List Char} {n : Nat} :
    natural? cs = some n ↔
      cs ≠ [] ∧ (∀ c ∈ cs, c.isDigit) ∧ Nat.ofDigitChars 10 cs 0 = n := by
  cases cs with
  | nil => simp [natural?]
  | cons c cs => simp [natural?, digitsFrom_eq_some_iff]

theorem natural?_toDigits (n : Nat) : natural? (Nat.toDigits 10 n) = some n :=
  natural?_eq_some_iff.mpr ⟨Nat.toDigits_ne_nil,
    fun _ member => Nat.isDigit_of_mem_toDigits (by decide) (by decide) member,
    Nat.ofDigitChars_ten_toDigits⟩

/-- One or more digits that denote a number, leading zeros allowed. -/
structure Digits (cs : List Char) (n : Nat) : Prop where
  nonempty : cs ≠ []
  ascii : ∀ c ∈ cs, c.isDigit
  value : Nat.ofDigitChars 10 cs 0 = n

theorem natural?_iff_digits {cs : List Char} {n : Nat} : natural? cs = some n ↔ Digits cs n :=
  natural?_eq_some_iff.trans
    ⟨fun ⟨nonempty, ascii, value⟩ => ⟨nonempty, ascii, value⟩,
      fun digits => ⟨digits.nonempty, digits.ascii, digits.value⟩⟩

theorem digits_toDigits (n : Nat) : Digits (Nat.toDigits 10 n) n :=
  natural?_iff_digits.mp (natural?_toDigits n)

/-- No sign is a digit, so digits do not begin with one. -/
theorem Digits.ne_cons {cs : List Char} {n : Nat} (digits : Digits cs n) {c : Char}
    (other : c.isDigit = false) (rest : List Char) : cs ≠ c :: rest := by
  intro begins
  have digit := digits.ascii c (begins ▸ List.mem_cons_self)
  rw [other] at digit
  cases digit

/-! ## Counts -/

/-- Digits with or without a plus in front of them denote a number that fits a word. -/
inductive Counts : List Char → Nat → Prop
  | bare {cs : List Char} {n : Nat} (digits : Digits cs n) (fits : n < wordBound) : Counts cs n
  | plus {cs : List Char} {n : Nat} (digits : Digits cs n) (fits : n < wordBound) :
    Counts ('+' :: cs) n

theorem count?_eq_some_iff {cs : List Char} {n : Nat} : count? cs = some n ↔ Counts cs n := by
  have fitting {cs : List Char} : (natural? cs).filter (· < wordBound) = some n ↔
      Digits cs n ∧ n < wordBound := by
    simp [Option.filter_eq_some_iff, natural?_iff_digits]
  constructor
  · intro read
    unfold count? at read
    simp only at read
    split at read
    · obtain ⟨digits, fits⟩ := fitting.mp read
      exact .plus digits fits
    · obtain ⟨digits, fits⟩ := fitting.mp read
      exact .bare digits fits
  · intro counts
    cases counts with
    | bare digits fits =>
      unfold count?
      simp only
      split
      · exact absurd rfl (digits.ne_cons (by decide) _)
      · exact fitting.mpr ⟨digits, fits⟩
    | plus digits fits => exact fitting.mpr ⟨digits, fits⟩

theorem count?_eq_none_iff {cs : List Char} : count? cs = none ↔ ∀ n, ¬ Counts cs n := by
  simp only [Option.eq_none_iff_forall_ne_some, Ne, count?_eq_some_iff]

theorem counts_toString {n : Nat} (fits : n < wordBound) : Counts (toString n).toList n := by
  rw [Nat.toString_eq_repr, Nat.toList_repr]
  exact .bare (digits_toDigits n) fits

/-! ## Signed numerals -/

/-- Digits with or without a sign in front of them denote the word that is the number. -/
inductive Denotes : List Char → Value → Prop
  | unsigned {cs : List Char} {n : Nat} {v : Value} (digits : Digits cs n)
    (value : v.toInt = n) : Denotes cs v
  | plus {cs : List Char} {n : Nat} {v : Value} (digits : Digits cs n)
    (value : v.toInt = n) : Denotes ('+' :: cs) v
  | minus {cs : List Char} {n : Nat} {v : Value} (digits : Digits cs n)
    (value : v.toInt = -n) : Denotes ('-' :: cs) v

/-- The words that are not negative are told by the numbers below the bound. -/
theorem map_ofNat_eq_some_iff {n : Option Nat} {v : Value} :
    (n.filter (· < valueBound)).map Int64.ofNat = some v ↔ ∃ k, n = some k ∧ v.toInt = k := by
  simp only [Option.map_eq_some_iff, Option.filter_eq_some_iff, decide_eq_true_eq]
  constructor
  · rintro ⟨k, ⟨found, small⟩, rfl⟩
    exact ⟨k, found, Int64.toInt_ofNat_of_lt small⟩
  · rintro ⟨k, found, value⟩
    have small : k < valueBound := by
      have below : v.toInt < valueBound := v.toInt_lt
      omega
    exact ⟨k, ⟨found, small⟩, Int64.toInt_inj.mp ((Int64.toInt_ofNat_of_lt small).trans value.symm)⟩

/-- The words that are not positive are told by the numbers up to the bound. -/
theorem map_neg_eq_some_iff {n : Option Nat} {v : Value} :
    ((n.filter (· ≤ valueBound)).map fun k : Nat => Int64.ofInt (-k)) = some v ↔
      ∃ k : Nat, n = some k ∧ v.toInt = -k := by
  have exact {k : Nat} (small : k ≤ valueBound) : (Int64.ofInt (-k)).toInt = -k := by
    have low : -(valueBound : Int) ≤ -k := by omega
    have high : -(k : Int) < valueBound := by
      have positive : 0 < valueBound := by decide
      omega
    exact Int64.toInt_ofInt_of_le low high
  simp only [Option.map_eq_some_iff, Option.filter_eq_some_iff, decide_eq_true_eq]
  constructor
  · rintro ⟨k, ⟨found, small⟩, rfl⟩
    exact ⟨k, found, exact small⟩
  · rintro ⟨k, found, value⟩
    have small : k ≤ valueBound := by
      have above : -(valueBound : Int) ≤ v.toInt := v.le_toInt
      omega
    exact ⟨k, ⟨found, small⟩, Int64.toInt_inj.mp ((exact small).trans value.symm)⟩

theorem integer?_minus (cs : List Char) :
    integer? ('-' :: cs) =
      ((natural? cs).filter (· ≤ valueBound)).map fun k : Nat => Int64.ofInt (-k) := by
  rw [integer?]
  cases (natural? cs).filter (· ≤ valueBound) <;> rfl

theorem integer?_eq_some_iff {cs : List Char} {v : Value} :
    integer? cs = some v ↔ Denotes cs v := by
  constructor
  · intro read
    unfold integer? at read
    split at read
    · rename_i cs
      obtain ⟨n, digits, value⟩ := map_neg_eq_some_iff.mp ((integer?_minus cs).symm.trans read)
      exact .minus (natural?_iff_digits.mp digits) value
    · obtain ⟨n, digits, value⟩ := map_ofNat_eq_some_iff.mp read
      exact .plus (natural?_iff_digits.mp digits) value
    · obtain ⟨n, digits, value⟩ := map_ofNat_eq_some_iff.mp read
      exact .unsigned (natural?_iff_digits.mp digits) value
  · intro denotes
    cases denotes with
    | unsigned digits value =>
      rw [integer?]
      · exact map_ofNat_eq_some_iff.mpr ⟨_, natural?_iff_digits.mpr digits, value⟩
      · exact digits.ne_cons (by decide)
      · exact digits.ne_cons (by decide)
    | plus digits value =>
      exact map_ofNat_eq_some_iff.mpr ⟨_, natural?_iff_digits.mpr digits, value⟩
    | minus digits value =>
      rw [integer?_minus]
      exact map_neg_eq_some_iff.mpr ⟨_, natural?_iff_digits.mpr digits, value⟩

/-- A value in decimal: a minus if it is negative, and its digits. -/
theorem toList_text (v : Value) :
    (Value.text v).toList =
      (if v.toInt < 0 then ['-'] else []) ++ Nat.toDigits 10 v.toInt.natAbs := by
  rw [Value.text, Int.toString_eq_repr, Int.repr_eq_if]
  by_cases negative : v.toInt < 0
  · rw [if_neg (by omega), if_pos negative, String.toList_append, Nat.toList_repr,
      show (-v.toInt).toNat = v.toInt.natAbs by omega]
    rfl
  · rw [if_pos (by omega), if_neg negative, Nat.toList_repr,
      show v.toInt.toNat = v.toInt.natAbs by omega]
    rfl

/-- A value in decimal holds nothing but its sign and digits. -/
theorem sign_or_digit_of_mem_text {v : Value} {c : Char} (member : c ∈ (Value.text v).toList) :
    c = '-' ∨ c.isDigit := by
  rw [toList_text, List.mem_append] at member
  rcases member with sign | digits
  · split at sign
    · exact .inl (List.mem_singleton.mp sign)
    · cases sign
  · exact .inr (Nat.isDigit_of_mem_toDigits (by decide) (by decide) digits)

theorem denotes_text (v : Value) : Denotes (Value.text v).toList v := by
  rw [toList_text]
  split <;> rename_i sign
  · exact .minus (digits_toDigits _) (by omega)
  · exact .unsigned (digits_toDigits _) (by omega)

end RegisterMachine.Text
