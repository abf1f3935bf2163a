import Mathlib.Data.List.TakeDrop
import Mathlib.Data.List.TakeWhile
import RegisterMachine.Json.Fields
import RegisterMachine.Proofs.Text.Decimal

/-!
# Written integers

* `JsonNumber.parse?_text_ofInt`: the numeral of an integer is read as that numeral.
* `JsonNumber.toInt?_ofInt`: it denotes the integer.
* `Json.count?_ofNat` and `Json.value?_ofInt`: a count and a value are read from theirs.
-/

namespace RegisterMachine

namespace JsonNumber

theorem isDigit_eq (c : Char) : isDigit c = c.isDigit := by
  rw [isDigit, Text.digit?_eq]
  split <;> simp [*]

theorem isDigit_of_mem_toDigits {n : Nat} {c : Char} (member : c ∈ Nat.toDigits 10 n) :
    isDigit c := by
  rw [isDigit_eq]
  exact Nat.isDigit_of_mem_toDigits (by decide) (by decide) member

/-- Only zero is written with a leading zero. -/
theorem eq_zero_of_head_toDigits {n : Nat} (head : (Nat.toDigits 10 n).head? = some '0') :
    n = 0 := by
  induction n using Nat.strongRecOn with
  | ind n ih =>
    rw [Nat.toDigits_eq_if (by decide)] at head
    split at head
    · simpa using head
    · have front : (Nat.toDigits 10 (n / 10)).head? = some '0' := by
        cases digits : Nat.toDigits 10 (n / 10) with
        | nil => exact absurd digits Nat.toDigits_ne_nil
        | cons c cs => simpa [digits] using head
      have zero := ih (n / 10) (by omega) front
      omega

theorem ofNat_eq_ofInt (n : Nat) : ofNat n = ofInt n := by
  simp [ofNat, ofInt]

/-- The sign of an integer, if it has one, and its digits. -/
theorem text_ofInt (i : Int) :
    (ofInt i).text = (if i < 0 then ['-'] else []) ++ Nat.toDigits 10 i.natAbs := by
  simp [text, ofInt, exponentText]

theorem splitDigits_toDigits (n : Nat) :
    splitDigits (Nat.toDigits 10 n) = (Nat.toDigits 10 n, []) := by
  have all : ∀ c ∈ Nat.toDigits 10 n, isDigit c := fun _ => isDigit_of_mem_toDigits
  rw [splitDigits, List.span_eq_takeWhile_dropWhile, List.takeWhile_eq_self_iff.mpr all,
    List.dropWhile_eq_nil_iff.mpr all]

theorem parse?_digits (negative : Bool) (n : Nat) :
    parse? ((if negative then ['-'] else []) ++ Nat.toDigits 10 n) =
      some ⟨negative, Nat.toDigits 10 n, [], none⟩ := by
  have canonical : ¬ ((Nat.toDigits 10 n).head? = some '0' ∧ 1 < (Nat.toDigits 10 n).length) := by
    rintro ⟨head, longer⟩
    rw [eq_zero_of_head_toDigits head] at longer
    exact absurd longer (by decide)
  have unsigned : (Nat.toDigits 10 n).head? ≠ some '-' := by
    intro head
    exact absurd (isDigit_of_mem_toDigits (List.mem_of_mem_head? head)) (by decide)
  cases negative with
  | true => simp [parse?, splitDigits_toDigits, canonical, exponentOf?]
  | false =>
    rw [if_neg (by decide), List.nil_append]
    unfold parse?
    split
    rename_i signed
    split at signed
    · rename_i digits
      exact absurd (congrArg List.head? digits) unsigned
    · cases signed
      simp [splitDigits_toDigits, canonical, exponentOf?]

theorem parse?_text_ofInt (i : Int) : parse? (ofInt i).text = some (ofInt i) := by
  rw [text_ofInt]
  simpa [ofInt] using parse?_digits (decide (i < 0)) i.natAbs

theorem toInt?_ofInt (i : Int) : (ofInt i).toInt? = some i := by
  by_cases negative : i < 0
  · have nonzero : i.natAbs ≠ 0 := by omega
    simp only [toInt?, ofInt, Text.natural?_toDigits, negative]
    simp only [List.isEmpty_nil, Option.isNone_none, Bool.and_self, decide_true, if_true, nonzero,
      if_false, Option.some.injEq]
    omega
  · simp only [toInt?, ofInt, Text.natural?_toDigits, negative]
    simp
    omega

/-- The numeral of an integer holds nothing but its sign and digits. -/
theorem mem_text_ofInt {i : Int} {c : Char} (member : c ∈ (ofInt i).text) :
    c = '-' ∨ isDigit c := by
  rw [text_ofInt, List.mem_append] at member
  rcases member with sign | digits
  · split at sign
    · exact .inl (List.mem_singleton.mp sign)
    · cases sign
  · exact .inr (isDigit_of_mem_toDigits digits)

end JsonNumber

namespace Json

theorem int?_ofInt (i : Int) : (ofInt i).int? = some i := JsonNumber.toInt?_ofInt i

theorem int?_ofNat (n : Nat) : (ofNat n).int? = some (n : Int) := by
  rw [← int?_ofInt, ofNat, JsonNumber.ofNat_eq_ofInt]
  rfl

theorem natBelow?_ofNat {bound n : Nat} (below : n < bound) :
    (ofNat n).natBelow? bound = some n := by
  rw [natBelow?, int?_ofNat]
  exact if_pos below

theorem count?_ofNat {n : Nat} (below : n < wordBound) : (ofNat n).count? = some n :=
  natBelow?_ofNat below

theorem value?_ofInt (v : Value) : (ofInt v.toInt).value? = some v := by
  have low : -(valueBound : Int) ≤ v.toInt := Int64.le_toInt v
  have high : v.toInt < valueBound := Int64.toInt_lt v
  simp only [value?, int?_ofInt, low, high, and_self, if_true, Int64.ofInt_toInt]

end Json

end RegisterMachine
