import Mathlib.Tactic.Common
import RegisterMachine.Engine.Addressing

/-!
# Indirection chains

`Registers.follow` goes along a chain of look-ups from its front.  Here the chain is a relation
that says how far the look-ups lead, over the integers and without a word about how they are
made, and an operand is told by it:

* `Registers.Leads`: a number of look-ups leads from one address to another.
* `Operand.Designates`, `Operand.Strays` and `Operand.Yields`: the register that an operand
  designates, the first negative value that is met on the way there, and the value of the operand.
* `Registers.follow_add`: look-ups are made one after the other, so that more of them go on where
  fewer have ended, and fail where fewer have failed.
* `Operand.resolves_chain`: address, value and their pair are those of the chain, at every depth
  and from one depth to the next.
-/

namespace RegisterMachine

/-! ## Words as integers and addresses -/

theorem Value.toInt_ofLiteral {literal : Address} (small : literal.toNat < valueBound) :
    (Value.ofLiteral literal).toInt = literal.toNat := by
  rw [Value.ofLiteral, if_pos small]
  have cast : literal.toInt64 = Int64.ofNat literal.toNat := by
    rw [← UInt64.toInt64_ofNat', UInt64.ofNat_toNat]
  rw [cast, Int64.toInt_ofNat_of_lt small]

/-- A literal is capped at the largest word. -/
theorem Value.toInt_ofLiteral_eq_min (literal : Address) :
    (Value.ofLiteral literal).toInt = min (literal.toNat : Int) Int64.maxValue.toInt := by
  have largest : Int64.maxValue.toInt = (valueBound : Int) - 1 := by decide
  by_cases small : literal.toNat < valueBound
  · rw [toInt_ofLiteral small]
    omega
  · rw [ofLiteral, if_neg small]
    omega

theorem Value.toAddress?_of_neg {v : Value} (negative : v.toInt < 0) :
    Value.toAddress? v = none := by
  rw [Value.toAddress?, if_pos (Int64.lt_iff_toInt_lt.2 negative)]

theorem Value.toAddress?_of_nonneg {v : Value} (nonneg : ¬ v.toInt < 0) :
    Value.toAddress? v = some v.toUInt64 ∧ (v.toUInt64.toNat : Int) = v.toInt := by
  have le : 0 ≤ v := Int64.le_iff_toInt_le.2 (Int.not_lt.1 nonneg)
  refine ⟨?_, ?_⟩
  · rw [Value.toAddress?, if_neg fun lt => nonneg (Int64.lt_iff_toInt_lt.1 lt)]
  · rw [Int64.toNat_toUInt64_of_le le, Int64.toNatClampNeg]
    exact Int.toNat_of_nonneg (Int.not_lt.1 nonneg)

namespace Registers

variable {r : Registers}

/-- `n` look-ups lead from `start` to an address.  The value at each address on the way is not
negative, and is the next address. -/
inductive Leads (r : Registers) (start : Address) : Nat → Address → Prop
  | start : Leads r start 0 start
  | onward {n : Nat} {a b : Address} (reached : Leads r start n a)
    (next : (r.get a).toInt = b.toNat) : Leads r start (n + 1) b

/-! ## Look-ups one after the other -/

theorem follow_add (r : Registers) (n k : Nat) (a : Address) :
    r.follow (n + k) a = (r.follow n a).bind (r.follow k) := by
  induction n generalizing a with
  | zero => rw [Nat.zero_add, follow, Except.bind]
  | succ n ih =>
    rw [Nat.succ_add, follow, follow]
    cases Value.toAddress? (r.get a) with
    | none => rfl
    | some next => exact ih next

theorem follow_one_eq_ok_iff {a b : Address} :
    r.follow 1 a = .ok b ↔ (r.get a).toInt = b.toNat := by
  rw [follow]
  by_cases negative : (r.get a).toInt < 0
  · rw [Value.toAddress?_of_neg negative]
    constructor
    · intro found
      cases found
    · intro same
      omega
  · obtain ⟨named, same⟩ := Value.toAddress?_of_nonneg negative
    simp only [named, follow, ← same, Except.ok.injEq, Int.ofNat_inj, UInt64.toNat_inj]

theorem follow_one_eq_error_iff {a : Address} {v : Value} :
    r.follow 1 a = .error v ↔ r.get a = v ∧ v.toInt < 0 := by
  rw [follow]
  by_cases negative : (r.get a).toInt < 0
  · rw [Value.toAddress?_of_neg negative]
    constructor
    · intro failed
      cases failed
      exact ⟨rfl, negative⟩
    · rintro ⟨rfl, -⟩
      rfl
  · obtain ⟨named, -⟩ := Value.toAddress?_of_nonneg negative
    simp only [named, follow, reduceCtorEq, false_iff]
    rintro ⟨rfl, below⟩
    exact negative below

/-- Look-ups succeed where the chain leads. -/
theorem follow_eq_ok_iff {n : Nat} {a b : Address} : r.follow n a = .ok b ↔ r.Leads a n b := by
  induction n generalizing b with
  | zero =>
    rw [follow]
    constructor
    · intro here
      cases here
      exact .start
    · intro leads
      cases leads
      rfl
  | succ n ih =>
    rw [follow_add]
    constructor
    · intro found
      cases before : r.follow n a with
      | error v =>
        rw [before] at found
        cases found
      | ok c =>
        rw [before] at found
        exact .onward (ih.mp before) (follow_one_eq_ok_iff.mp found)
    · intro leads
      cases leads with
      | onward reached next =>
        rw [ih.mpr reached]
        exact follow_one_eq_ok_iff.mpr next

/-- Look-ups fail at the first negative value: the chain leads up to it. -/
theorem follow_eq_error_iff {n : Nat} {a : Address} {v : Value} :
    r.follow n a = .error v ↔ ∃ i b, i < n ∧ r.Leads a i b ∧ r.get b = v ∧ v.toInt < 0 := by
  induction n with
  | zero => simp [follow]
  | succ n ih =>
    rw [follow_add]
    constructor
    · intro failed
      cases before : r.follow n a with
      | error w =>
        rw [before] at failed
        cases failed
        obtain ⟨i, b, below, rest⟩ := ih.mp before
        exact ⟨i, b, Nat.lt_succ_of_lt below, rest⟩
      | ok c =>
        rw [before] at failed
        exact ⟨n, c, Nat.lt_succ_self n, follow_eq_ok_iff.mp before,
          follow_one_eq_error_iff.mp failed⟩
    · rintro ⟨i, b, below, leads, negative⟩
      rcases Nat.lt_or_eq_of_le (Nat.le_of_lt_succ below) with earlier | rfl
      · rw [ih.mpr ⟨i, b, earlier, leads, negative⟩]
        rfl
      · rw [follow_eq_ok_iff.mpr leads]
        exact follow_one_eq_error_iff.mpr negative

end Registers

/-! ## Operands -/

namespace Operand

variable {o : Operand} {r : Registers}

/-- The operand designates the register where the look-ups from its literal end, one fewer than
it has markers. -/
def Designates (o : Operand) (r : Registers) (a : Address) : Prop :=
  r.Leads o.literal (o.markers.toNat - 1) a

/-- The look-ups meet a negative value where they need an address.  No other has been met
before, since the chain leads up to it. -/
def Strays (o : Operand) (r : Registers) (v : Value) : Prop :=
  ∃ n a, n < o.markers.toNat - 1 ∧ r.Leads o.literal n a ∧ r.get a = v ∧ v.toInt < 0

/-- The value of an operand: the literal without a marker, capped at the largest word, and
otherwise what the register that it designates holds. -/
inductive Yields (o : Operand) (r : Registers) : Value → Prop
  | literal {v : Value} (bare : o.markers.toNat = 0)
    (capped : v.toInt = min (o.literal.toNat : Int) Int64.maxValue.toInt) : Yields o r v
  | register {a : Address} (marked : 1 ≤ o.markers.toNat) (designates : o.Designates r a) :
    Yields o r (r.get a)

theorem isMarked_iff : o.isMarked = true ↔ 1 ≤ o.markers.toNat := by
  rw [isMarked, bne_iff_ne, Ne, ← UInt32.toNat_inj]
  exact Nat.one_le_iff_ne_zero.symm

theorem address_eq_ok_iff {a : Address} : o.address r = .ok a ↔ o.Designates r a :=
  Registers.follow_eq_ok_iff

theorem address_eq_error_iff {v : Value} : o.address r = .error v ↔ o.Strays r v :=
  Registers.follow_eq_error_iff

theorem Designates.unique {a b : Address} (h : o.Designates r a) (h' : o.Designates r b) : a = b :=
  Except.ok.inj ((address_eq_ok_iff.mpr h).symm.trans (address_eq_ok_iff.mpr h'))

theorem Strays.unique {v w : Value} (h : o.Strays r v) (h' : o.Strays r w) : v = w :=
  Except.error.inj ((address_eq_error_iff.mpr h).symm.trans (address_eq_error_iff.mpr h'))

theorem Designates.not_strays {a : Address} (h : o.Designates r a) (v : Value) :
    ¬ o.Strays r v := by
  intro strays
  cases (address_eq_ok_iff.mpr h).symm.trans (address_eq_error_iff.mpr strays)

theorem address_of_bare (bare : o.markers.toNat ≤ 1) : o.address r = .ok o.literal := by
  have none : o.markers.toNat - 1 = 0 := by omega
  rw [address, none, Registers.follow]

theorem value_of_bare (bare : o.markers.toNat = 0) :
    o.value r = .ok (Value.ofLiteral o.literal) :=
  if_neg fun marked => absurd (isMarked_iff.mp marked) (by omega)

theorem value_of_marked (marked : 1 ≤ o.markers.toNat) :
    o.value r = (o.address r).map r.get :=
  if_pos (isMarked_iff.mpr marked)

theorem value_eq_ok_iff {v : Value} : o.value r = .ok v ↔ o.Yields r v := by
  rcases Nat.eq_zero_or_pos o.markers.toNat with bare | marked
  · rw [value_of_bare bare, Except.ok.injEq]
    constructor
    · rintro rfl
      exact .literal bare (Value.toInt_ofLiteral_eq_min _)
    · intro yields
      cases yields with
      | literal _ capped =>
        exact Int64.toInt_inj.mp ((Value.toInt_ofLiteral_eq_min _).trans capped.symm)
      | register marked => omega
  · rw [value_of_marked marked]
    constructor
    · intro found
      cases address : o.address r with
      | error e =>
        rw [address] at found
        cases found
      | ok a =>
        rw [address] at found
        cases found
        exact .register marked (address_eq_ok_iff.mp address)
    · intro yields
      cases yields with
      | literal bare => omega
      | register _ designates =>
        rw [address_eq_ok_iff.mpr designates]
        rfl

theorem Yields.unique {v w : Value} (h : o.Yields r v) (h' : o.Yields r w) : v = w :=
  Except.ok.inj ((value_eq_ok_iff.mpr h).symm.trans (value_eq_ok_iff.mpr h'))

/-- The value is found where the address is. -/
theorem value_eq_error_iff {e : Value} : o.value r = .error e ↔ o.address r = .error e := by
  rcases Nat.eq_zero_or_pos o.markers.toNat with bare | marked
  · rw [value_of_bare bare, address_of_bare (by omega)]
    simp
  · rw [value_of_marked marked]
    cases o.address r <;> simp [Except.map]

theorem valueAt_of_address {a : Address} (found : o.address r = .ok a) :
    o.value r = .ok (o.valueAt r a) := by
  rw [value, valueAt, found]
  split <;> rfl

theorem resolve_eq_ok_iff {a : Address} {v : Value} :
    o.resolve r = .ok (a, v) ↔ o.address r = .ok a ∧ o.value r = .ok v := by
  rw [resolve]
  cases found : o.address r with
  | error e => simp [Except.map]
  | ok b =>
    rw [valueAt_of_address found]
    simp only [Except.map, Except.ok.injEq, Prod.mk.injEq]

theorem resolve_eq_error_iff {e : Value} : o.resolve r = .error e ↔ o.address r = .error e := by
  rw [resolve]
  cases o.address r <;> simp [Except.map]

/-! ## From one depth to the next -/

/-- More markers go on from the register that fewer designate. -/
theorem address_deeper {literal : Address} {k deeper : UInt32} {n : Nat} (marked : 1 ≤ k.toNat)
    (more : deeper.toNat = k.toNat + n) :
    (⟨literal, deeper⟩ : Operand).address r =
      ((⟨literal, k⟩ : Operand).address r).bind (r.follow n) := by
  have split : deeper.toNat - 1 = (k.toNat - 1) + n := by omega
  rw [address, split, Registers.follow_add, address]

/-- The value at one depth is the address at the next. -/
theorem address_succ_eq_ok_iff {literal : Address} {k next : UInt32}
    (succ : next.toNat = k.toNat + 1) (exact : 1 ≤ k.toNat ∨ literal.toNat < valueBound)
    {a : Address} :
    (⟨literal, next⟩ : Operand).address r = .ok a ↔
      ∃ v, (⟨literal, k⟩ : Operand).value r = .ok v ∧ v.toInt = a.toNat := by
  rcases Nat.eq_zero_or_pos k.toNat with bare | marked
  · -- Both are the literal, which a cap would tell apart.
    have small : literal.toNat < valueBound := by omega
    have direct : (⟨literal, next⟩ : Operand).address r = .ok literal :=
      address_of_bare (o := ⟨literal, next⟩) (by simp only; omega)
    have immediate : (⟨literal, k⟩ : Operand).value r = .ok (Value.ofLiteral literal) :=
      value_of_bare (o := ⟨literal, k⟩) bare
    simp only [direct, immediate, Except.ok.injEq, exists_eq_left', Value.toInt_ofLiteral small,
      Int.ofNat_inj, UInt64.toNat_inj]
  · rw [address_deeper marked succ, value_of_marked (o := ⟨literal, k⟩) marked]
    cases (⟨literal, k⟩ : Operand).address r with
    | error e => simp [Except.bind, Except.map]
    | ok b => simp [Except.bind, Except.map, Registers.follow_one_eq_ok_iff]

/-- A failure stays. -/
theorem address_deeper_of_error {literal : Address} {k deeper : UInt32} {e : Value}
    (lt : k < deeper) (failed : (⟨literal, k⟩ : Operand).address r = .error e) :
    (⟨literal, deeper⟩ : Operand).address r = .error e := by
  rcases Nat.lt_or_ge k.toNat 1 with bare | marked
  · rw [address_of_bare (o := ⟨literal, k⟩) (by simp only; omega)] at failed
    cases failed
  · have lt : k.toNat < deeper.toNat := UInt32.lt_iff_toNat_lt.mp lt
    have more : deeper.toNat = k.toNat + (deeper.toNat - k.toNat) := by omega
    rw [address_deeper marked more, failed]
    rfl

/-- An operand is resolved along its chain.  Its address is where one look-up fewer than it has
markers leads, or the first negative value on the way; its value is the literal without a marker
and what the register holds otherwise; both together are found where each is, and all fail alike.
The value at a depth is the address at the next, and what fails at a depth fails at every greater
one. -/
theorem resolves_chain (r : Registers) (literal : Address) (k : UInt32) :
    let o : Operand := ⟨literal, k⟩
    (k.toNat ≤ 1 → o.address r = .ok literal) ∧
    (∀ a, o.address r = .ok a ↔ r.Leads literal (k.toNat - 1) a) ∧
    (∀ v, o.address r = .error v ↔
      ∃ n a, n < k.toNat - 1 ∧ r.Leads literal n a ∧ r.get a = v ∧ v.toInt < 0) ∧
    (k = 0 → ∃ v, o.value r = .ok v ∧ v.toInt = min (literal.toNat : Int) Int64.maxValue.toInt) ∧
    (k ≠ 0 → o.value r = (o.address r).map r.get) ∧
    (∀ a v, o.resolve r = .ok (a, v) ↔ o.address r = .ok a ∧ o.value r = .ok v) ∧
    (∀ e, (o.value r = .error e ↔ o.address r = .error e) ∧
      (o.resolve r = .error e ↔ o.address r = .error e)) ∧
    (∀ next : UInt32, next.toNat = k.toNat + 1 →
      (k ≠ 0 ∨ (literal.toNat : Int) ≤ Int64.maxValue.toInt) →
      ∀ a, (⟨literal, next⟩ : Operand).address r = .ok a ↔
        ∃ v, o.value r = .ok v ∧ v.toInt = a.toNat) ∧
    (∀ deeper : UInt32, k < deeper → ∀ e, o.address r = .error e →
      (⟨literal, deeper⟩ : Operand).address r = .error e ∧
      (⟨literal, deeper⟩ : Operand).value r = .error e ∧
      (⟨literal, deeper⟩ : Operand).resolve r = .error e) := by
  intro o
  have positive : k ≠ 0 ↔ 1 ≤ k.toNat := by
    rw [Ne, ← UInt32.toNat_inj]
    exact Nat.one_le_iff_ne_zero.symm
  have largest : Int64.maxValue.toInt = (valueBound : Int) - 1 := by decide
  refine ⟨fun bare => address_of_bare (o := o) bare, fun a => address_eq_ok_iff,
    fun v => address_eq_error_iff, ?_, ?_, fun a v => resolve_eq_ok_iff,
    fun e => ⟨value_eq_error_iff, resolve_eq_error_iff⟩, ?_, ?_⟩
  · rintro rfl
    exact ⟨_, value_of_bare rfl, Value.toInt_ofLiteral_eq_min literal⟩
  · intro marked
    exact value_of_marked (positive.mp marked)
  · intro next succ exact a
    refine address_succ_eq_ok_iff succ (exact.imp positive.mp fun small => ?_)
    omega
  · intro deeper lt e failed
    have failed := address_deeper_of_error lt failed
    exact ⟨failed, value_eq_error_iff.mpr failed, resolve_eq_error_iff.mpr failed⟩

/-- Two registers that name each other, and two that lead to a negative value. -/
def crossed : Registers := Registers.empty.setAll [(1, 2), (2, 1), (3, 4), (4, -9)]

/-- The chain from the first goes round, and the one from the third fails at any depth beyond
two, far more than program text can write. -/
theorem resolves_chain_crossed :
    (⟨1, 32⟩ : Operand).value crossed = .ok 1 ∧ (⟨1, 33⟩ : Operand).address crossed = .ok 1 ∧
      (⟨3, 3⟩ : Operand).address crossed = .error (-9) ∧
      (⟨3, 4294967295⟩ : Operand).resolve crossed = .error (-9) := by
  have round : (⟨1, 32⟩ : Operand).value crossed = .ok 1 := by decide +kernel
  have negative : (⟨3, 3⟩ : Operand).address crossed = .error (-9) := by decide +kernel
  obtain ⟨-, -, -, -, -, -, -, next, -⟩ := resolves_chain crossed 1 32
  obtain ⟨-, -, -, -, -, -, -, -, deeper⟩ := resolves_chain crossed 3 3
  exact ⟨round, (next 33 rfl (.inl (by decide)) 1).mpr ⟨1, round, rfl⟩, negative,
    (deeper 4294967295 (by decide) _ negative).2.2⟩

end Operand

end RegisterMachine
