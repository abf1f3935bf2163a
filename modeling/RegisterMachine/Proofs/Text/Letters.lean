import Mathlib.Data.List.Forall2
import RegisterMachine.Proofs.Text.Pieces

/-!
# Letters of either case

Names are read without regard to the case of their ASCII letters.

* `SameLetters`: two texts that differ in the case of ASCII letters at most; `upper_eq_iff`,
  `lower_eq_iff`: they have the same capital form, and the same small form.
* `words_lower`: no letter of either case is a blank, so a text in small letters has the words
  of the text, in small letters.
-/

namespace RegisterMachine.Text

/-- The characters are equal, or the capital and the small form of an ASCII letter. -/
def SameLetter (c d : Char) : Prop :=
  c = d ∨ (c.isUpper ∧ d.toNat = c.toNat + 32) ∨ (d.isUpper ∧ c.toNat = d.toNat + 32)

/-- The texts differ in the case of ASCII letters at most. -/
def SameLetters (s t : String) : Prop := List.Forall₂ SameLetter s.toList t.toList

/-- Texts are the same after a change of their characters if these are, one by one. -/
theorem ofList_map_eq_iff {f : Char → Char} {R : Char → Char → Prop}
    (same : ∀ {c d}, f c = f d ↔ R c d) {s t : String} :
    String.ofList (s.toList.map f) = String.ofList (t.toList.map f) ↔
      List.Forall₂ R s.toList t.toList := by
  rw [String.ofList_inj, ← List.forall₂_eq_eq_eq, List.forall₂_map_left_iff,
    List.forall₂_map_right_iff]
  simp only [same]

theorem isUpper_iff {c : Char} : c.isUpper = true ↔ 65 ≤ c.toNat ∧ c.toNat ≤ 90 := by
  have range : c.isUpper = true ↔ 'A'.val ≤ c.val ∧ c.val ≤ 'Z'.val := decide_eq_true_iff
  rw [range, UInt32.le_iff_toNat_le, UInt32.le_iff_toNat_le]
  rfl

/-! ## Capitals -/

theorem toNat_toUpper (c : Char) :
    c.toUpper.toNat = if 97 ≤ c.toNat ∧ c.toNat ≤ 122 then c.toNat - 32 else c.toNat := by
  have small : 'a'.val ≤ c.val ∧ c.val ≤ 'z'.val ↔ 97 ≤ c.toNat ∧ c.toNat ≤ 122 := by
    simp only [UInt32.le_iff_toNat_le]
    rfl
  unfold Char.toUpper
  split <;> rename_i h
  · have h := small.mp h
    rw [if_pos h]
    change (c.val + ('A'.val - 'a'.val)).toNat = c.toNat - 32
    rw [UInt32.toNat_add]
    change (c.toNat + 4294967264) % 4294967296 = c.toNat - 32
    omega
  · rw [if_neg (mt small.mpr h)]

theorem toUpper_eq_iff {c d : Char} : c.toUpper = d.toUpper ↔ SameLetter c d := by
  rw [← Char.toNat_inj, toNat_toUpper, toNat_toUpper, SameLetter, isUpper_iff, isUpper_iff,
    ← Char.toNat_inj]
  split <;> split <;> omega

theorem upper_eq_iff {s t : String} : upper s = upper t ↔ SameLetters s t :=
  ofList_map_eq_iff toUpper_eq_iff

/-! ## Small letters -/

theorem toNat_toLower (c : Char) :
    c.toLower.toNat = if 65 ≤ c.toNat ∧ c.toNat ≤ 90 then c.toNat + 32 else c.toNat := by
  have capital : c.val ≥ 'A'.val ∧ c.val ≤ 'Z'.val ↔ 65 ≤ c.toNat ∧ c.toNat ≤ 90 := by
    simp only [ge_iff_le, UInt32.le_iff_toNat_le]
    rfl
  unfold Char.toLower
  split <;> rename_i h
  · have h := capital.mp h
    rw [if_pos h]
    change (c.val + ('a'.val - 'A'.val)).toNat = c.toNat + 32
    rw [UInt32.toNat_add]
    change (c.toNat + 32) % 4294967296 = c.toNat + 32
    omega
  · rw [if_neg (mt capital.mpr h)]

theorem toLower_eq_iff {c d : Char} : c.toLower = d.toLower ↔ SameLetter c d := by
  rw [← Char.toNat_inj, toNat_toLower, toNat_toLower, SameLetter, isUpper_iff, isUpper_iff,
    ← Char.toNat_inj]
  split <;> split <;> omega

theorem lower_eq_iff {s t : String} : lower s = lower t ↔ SameLetters s t :=
  ofList_map_eq_iff toLower_eq_iff

theorem toLower_of_small {c : Char} (small : ¬ c.isUpper) : c.toLower = c := by
  rw [isUpper_iff] at small
  rw [← Char.toNat_inj, toNat_toLower, if_neg small]

/-- A text without capitals is its own small form. -/
theorem lower_of_small {s : String} (small : ∀ c ∈ s.toList, ¬ c.isUpper) : lower s = s := by
  rw [lower, List.map_congr_left fun c member => toLower_of_small (small c member), List.map_id',
    String.ofList_toList]

theorem isBlank_toLower (c : Char) : isBlank c.toLower = isBlank c := by
  simp only [isBlank, toNat_toLower]
  split
  · rename_i capital
    have below : c.toNat + 32 < 0x85 := by omega
    grind
  · rfl

theorem words_lower (s : String) : words (lower s) = (words s).map lower := by
  have spaced := words_eq_iff.mp (rfl : words s = words s)
  rw [words_eq_iff]
  have small := spaced.map (f := Char.toLower) isBlank_toLower
  simpa [lower, Function.comp_def] using small

end RegisterMachine.Text
