import Mathlib.Algebra.Order.Field.Power
import Mathlib.Algebra.Order.Field.Rat
import Mathlib.Tactic.Linarith
import Mathlib.Tactic.NormNum
import RegisterMachine.Debug.Terminal
import RegisterMachine.Shell.Load

/-!
# Which settings are accepted

Settings are checked twice: a loader validates them, and a debugger validates them and turns the
delay into a span of time.  The two checks are compared over the exact value of the delay.

* `Binary64.rational?`: the exact value of a finite number.
* `Settings.validate_eq_ok_iff` and `Duration.exists_ofSeconds?_iff`: what either check asks
  of the delay.  A span holds less than `2 ^ 64` seconds, and the validation does not ask for that.
* `Settings.create_iff_validate`: a debugger accepts the settings that are valid, but for a delay
  of `2 ^ 64` seconds or more; such a delay is the one reason for which a session refuses settings
  that have been resolved (`Settings.overlong_delay_resolves`).
-/

namespace RegisterMachine

open Text (Bytes)

/-! ## The exact value of a number -/

namespace Binary64

/-- The exact value of a finite number. -/
def rational? : Binary64 → Option ℚ
  | .finite negative mantissa exponent =>
    some ((if negative then -1 else 1) * (mantissa * 2 ^ exponent))
  | _ => none

theorem isFinite_iff {x : Binary64} : x.isFinite = true ↔ ∃ q, x.rational? = some q := by
  cases x <;> simp [isFinite, rational?]

theorem isBelowZero_iff {x : Binary64} {q : ℚ} (value : x.rational? = some q) :
    x.isBelowZero = true ↔ q < 0 := by
  cases x with
  | nan => cases value
  | infinite negative => cases value
  | finite negative m e =>
    obtain rfl := Option.some.inj value
    have power : (0 : ℚ) < 2 ^ e := by positivity
    have magnitude : (0 : ℚ) ≤ m * 2 ^ e := by positivity
    cases negative with
    | false => simpa [isBelowZero] using magnitude
    | true => simp [isBelowZero, power, Nat.pos_iff_ne_zero]

/-- A number as a fraction of natural numbers. -/
theorem scaled_value (m : Nat) (e : Int) :
    (0 : ℚ) < (scaled m 1 e).2 ∧ (m * 2 ^ e : ℚ) = (scaled m 1 e).1 / (scaled m 1 e).2 := by
  by_cases negative : e < 0
  · have fraction : scaled m 1 e = (m, 1 * Nat.pow 2 e.natAbs) := if_pos negative
    obtain ⟨k, rfl⟩ : ∃ k : Nat, e = -k := ⟨e.natAbs, by omega⟩
    simp [fraction, div_eq_mul_inv]
  · have fraction : scaled m 1 e = (m * Nat.pow 2 e.natAbs, 1) := if_neg negative
    obtain ⟨k, rfl⟩ : ∃ k : Nat, e = k := ⟨e.natAbs, by omega⟩
    simp [fraction]

/-- The magnitude of a number that is not negative is the number; a negative zero is none. -/
theorem rational?_of_nonneg {negative : Bool} {m : Nat} {e : Int} {q : ℚ}
    (value : (finite negative m e).rational? = some q) (nonneg : 0 ≤ q) : q = m * 2 ^ e := by
  obtain rfl := Option.some.inj value
  have magnitude : (0 : ℚ) ≤ m * 2 ^ e := by positivity
  cases negative with
  | false => simp
  | true =>
    simp only [if_true] at nonneg ⊢
    linarith

end Binary64

/-- A number of seconds has a span exactly if it is not negative and below the bound. -/
theorem Duration.exists_ofSeconds?_iff {x : Binary64} :
    (∃ span, ofSeconds? x = some span) ↔ ∃ q, x.rational? = some q ∧ 0 ≤ q ∧ q < 2 ^ 64 := by
  cases x with
  | nan => simp [ofSeconds?, Binary64.rational?]
  | infinite negative => simp [ofSeconds?, Binary64.rational?]
  | finite negative m e =>
    obtain ⟨q, value⟩ : ∃ q, (Binary64.finite negative m e).rational? = some q := ⟨_, rfl⟩
    obtain ⟨positive, fraction⟩ := Binary64.scaled_value m e
    have sign := Binary64.isBelowZero_iff value
    have bounded : secondsBound * (Binary64.scaled m 1 e).2 ≤ (Binary64.scaled m 1 e).1 ↔
        (2 ^ 64 : ℚ) ≤ m * 2 ^ e := by
      rw [fraction, le_div_iff₀ positive, secondsBound]
      norm_cast
    have refused : (∃ span, ofSeconds? (.finite negative m e) = some span) ↔
        ¬ (q < 0 ∨ (2 ^ 64 : ℚ) ≤ m * 2 ^ e) := by
      rw [← sign, ← bounded, ofSeconds?]
      split
      simp_all
    rw [refused, value]
    constructor
    · intro fits
      have nonneg : 0 ≤ q := not_lt.mp fun below => fits (.inl below)
      refine ⟨q, rfl, nonneg, not_le.mp fun long => fits (.inr ?_)⟩
      rwa [← Binary64.rational?_of_nonneg value nonneg]
    · rintro ⟨_, ⟨⟩, nonneg, short⟩ (below | long)
      · exact absurd below (not_lt.mpr nonneg)
      · rw [← Binary64.rational?_of_nonneg value nonneg] at long
        exact absurd short (not_lt.mpr long)

/-! ## The two checks -/

namespace Settings

/-- The delay is finite, and longer than any span of time. -/
def Overlong (s : Settings) : Prop := ∃ q, s.delaySeconds.rational? = some q ∧ 2 ^ 64 ≤ q

theorem validate_eq_ok_iff {s : Settings} :
    s.validate = .ok () ↔
      s.instructionLimit ≠ 0 ∧ ∃ q, s.delaySeconds.rational? = some q ∧ 0 ≤ q := by
  have range : (!s.delaySeconds.isFinite || s.delaySeconds.isBelowZero) = false ↔
      ∃ q, s.delaySeconds.rational? = some q ∧ 0 ≤ q := by
    rw [Bool.or_eq_false_iff, Bool.not_eq_false', Binary64.isFinite_iff]
    constructor
    · rintro ⟨⟨q, value⟩, above⟩
      refine ⟨q, value, not_lt.mp fun below => ?_⟩
      rw [(Binary64.isBelowZero_iff value).mpr below] at above
      cases above
    · rintro ⟨q, value, nonneg⟩
      refine ⟨⟨q, value⟩, Bool.eq_false_iff.mpr fun below => ?_⟩
      exact absurd ((Binary64.isBelowZero_iff value).mp below) (not_lt.mpr nonneg)
  rw [← range, validate]
  by_cases zero : s.instructionLimit = 0
  · simp [zero]
  · rw [if_neg zero]
    cases !s.delaySeconds.isFinite || s.delaySeconds.isBelowZero <;> simp [zero]

/-- Valid settings have a delay unless it is overlong. -/
theorem delay_of_validate {s : Settings} (valid : s.validate = .ok ()) :
    (¬ s.Overlong ∧ ∃ span, s.delay = .ok span) ∨
      (s.Overlong ∧ s.delay = .error (.invalidDelay s.delaySeconds)) := by
  obtain ⟨-, q, value, nonneg⟩ := validate_eq_ok_iff.mp valid
  have overlong : s.Overlong ↔ 2 ^ 64 ≤ q := by
    simp [Overlong, value]
  rw [overlong, delay]
  rcases span : Duration.ofSeconds? s.delaySeconds with _ | d
  · refine .inr ⟨not_lt.mp fun short => ?_, rfl⟩
    obtain ⟨d, found⟩ := Duration.exists_ofSeconds?_iff.mpr ⟨q, value, nonneg, short⟩
    cases span.symm.trans found
  · obtain ⟨q', value', -, short⟩ := Duration.exists_ofSeconds?_iff.mp ⟨d, span⟩
    cases value.symm.trans value'
    exact .inl ⟨not_le.mpr short, d, rfl⟩

end Settings

namespace Debugger

/-- Settings are refused because they are not valid, or because the delay is overlong. -/
theorem create_eq_error_iff {m : Machine} {s : Settings} {e : SettingsError} :
    create m s = .error e ↔
      s.validate = .error e ∨
        s.validate = .ok () ∧ s.Overlong ∧ e = .invalidDelay s.delaySeconds := by
  rw [create]
  rcases valid : s.validate with e' | _
  · simp
  · rcases Settings.delay_of_validate valid with ⟨short, span, delay⟩ | ⟨long, delay⟩
    · simp [delay, short]
    · simp [delay, long, eq_comm]

theorem exists_create_iff {m : Machine} {s : Settings} :
    (∃ d, create m s = .ok d) ↔ s.validate = .ok () ∧ ¬ s.Overlong := by
  rw [create]
  rcases valid : s.validate with e' | _
  · simp
  · rcases Settings.delay_of_validate valid with ⟨short, span, delay⟩ | ⟨long, delay⟩
    · simp [delay, short]
    · simp [delay, long]

end Debugger

/-- A session fails for its settings exactly if no debugger accepts them. -/
theorem runSession_settings_iff {σ : Type} [Console σ] {program : Program} {input : List Value}
    {s : Settings} {c : σ} {e : SettingsError} :
    (runSession program input s c).1 = .error (.settings e) ↔
      Debugger.create (Machine.start program input) s = .error e := by
  rw [runSession]
  cases Debugger.create (Machine.start program input) s with
  | error e' => simp
  | ok d =>
    rcases ended : d.run c with ⟨_ | _, d', c'⟩ <;> simp [concludeSession, ended]

/-- Settings that have been resolved are valid. -/
theorem validate_of_resolveSettings {host : Host} {path : Option Bytes} {overrides : Overrides}
    {s : Settings} (resolved : (resolveSettings host path overrides).1 = .ok s) :
    s.validate = .ok () := by
  unfold resolveSettings at resolved
  simp only at resolved
  split at resolved
  · cases resolved
  · split at resolved
    · cases resolved
    · rename_i valid
      cases resolved
      exact valid

/-- A debugger accepts the settings that are valid and no others, but for a delay of `2 ^ 64`
seconds or more.  So settings that have been resolved fail a session exactly if their delay is so
long. -/
theorem Settings.create_iff_validate (s : Settings) :
    (∀ m, (∃ d, Debugger.create m s = .ok d) ↔ s.validate = .ok () ∧ ¬ s.Overlong) ∧
    ∀ host path overrides, (resolveSettings host path overrides).1 = .ok s →
      ∀ (σ : Type) [Console σ] (program : Program) (input : List Value) (c : σ) (e : SettingsError),
        (runSession program input s c).1 = .error (.settings e) ↔
          s.Overlong ∧ e = .invalidDelay s.delaySeconds := by
  refine ⟨fun m => Debugger.exists_create_iff, ?_⟩
  intro host path overrides resolved σ _ program input c e
  have valid := validate_of_resolveSettings resolved
  rw [runSession_settings_iff, Debugger.create_eq_error_iff, valid]
  simp

/-- The longest delay below the bound, from a file. -/
theorem Settings.create_iff_validate_longest :
    let text := "\x7b\"timeoutSeconds\": 18446744073709549568\x7d"
    let tree := FileTree.ofPaths [(Text.encode "c.json", Text.encode text)] []
    let host : Host := ⟨tree.read, fun _ => ""⟩
    let s : Settings := { delaySeconds := .finite false 9007199254740991 11 }
    (resolveSettings host (some (Text.encode "c.json")) {}).1 = .ok s ∧
      s.validate = .ok () ∧ ¬ s.Overlong ∧
      (∃ d, Debugger.create (Machine.start ⟨[]⟩ []) s = .ok d) ∧
      ∀ e, (runSession ⟨[]⟩ [] s ({ unread := [] } : Terminal)).1 ≠ .error (.settings e) := by
  intro text tree host s
  have resolved : (resolveSettings host (some (Text.encode "c.json")) {}).1 = .ok s := by
    decide +kernel
  have short : ¬ s.Overlong := by
    rintro ⟨q, value, long⟩
    cases value
    norm_num at long
  have valid : s.validate = .ok () := by decide
  obtain ⟨accepted, fails⟩ := Settings.create_iff_validate s
  refine ⟨resolved, valid, short, (accepted _).mpr ⟨valid, short⟩, fun e failed => ?_⟩
  exact short ((fails _ _ _ resolved Terminal ⟨[]⟩ [] { unread := [] } e).mp failed).1

/-- A delay of `2 ^ 64` seconds is valid and is resolved, and no debugger accepts it. -/
theorem Settings.overlong_delay_resolves :
    let text := "\x7b\"timeoutSeconds\": 18446744073709551616\x7d"
    let tree := FileTree.ofPaths [(Text.encode "c.json", Text.encode text)] []
    let host : Host := ⟨tree.read, fun _ => ""⟩
    let s : Settings := { delaySeconds := .finite false 4503599627370496 12 }
    let m := Machine.start ⟨[⟨.halt, .absent, 1⟩]⟩ []
    (resolveSettings host (some (Text.encode "c.json")) {}).1 = .ok s ∧
      s.delaySeconds.rational? = some (2 ^ 64) ∧
      s.validate = .ok () ∧ Debugger.create m s = .error (.invalidDelay s.delaySeconds) ∧
      ¬ ((∃ d, Debugger.create m s = .ok d) ↔ s.validate = .ok ()) ∧
      (runSession m.program m.input s ({ unread := [] } : Terminal)).1 =
        .error (.settings (.invalidDelay s.delaySeconds)) := by
  intro text tree host s m
  have refused : Debugger.create m s = .error (.invalidDelay s.delaySeconds) := by decide +kernel
  have valid : s.validate = .ok () := by decide
  refine ⟨by decide +kernel, ?_, valid, refused, fun agree => ?_, ?_⟩
  · simp only [s, Binary64.rational?]
    norm_num
  · obtain ⟨d, accepted⟩ := agree.mpr valid
    cases refused.symm.trans accepted
  · exact runSession_settings_iff.mpr refused

end RegisterMachine
