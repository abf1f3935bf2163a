import RegisterMachine.Text.Utf8

/-!
# Texts as bytes and back

* `Completes state bytes c`: the bytes take the decoder from the state to the end of the
  character `c`, and not before.
* `completes_encodeChar`: so do the bytes of a character, between characters.
* `decodeLossy_encode`: a text is decoded from its bytes.
* `head?_decodeLossy_eq_some_iff`: any bytes, well-formed or not, decode to a text that begins
  with an ASCII character exactly if they begin with its byte.
-/

namespace RegisterMachine.Text

/-- The bytes end the character and no byte before the last one does. -/
inductive Completes : Utf8State → Bytes → Char → Prop
  | last {state : Utf8State} {b : UInt8} {c : Char} (fed : state.feed b = .complete c) :
    Completes state [b] c
  | more {state state' : Utf8State} {b : UInt8} {bs : Bytes} {c : Char}
    (fed : state.feed b = .goOn state') (rest : Completes state' bs c) :
    Completes state (b :: bs) c

theorem Completes.decodeLossyFrom {state : Utf8State} {bytes : Bytes} {c : Char}
    (completes : Completes state bytes c) (rest : Bytes) :
    decodeLossyFrom state (bytes ++ rest) = c :: decodeLossyFrom .between rest := by
  induction completes with
  | last fed => simp only [List.singleton_append, Text.decodeLossyFrom, fed]
  | more fed _ ih => simp only [List.cons_append, Text.decodeLossyFrom, fed, ih]

/-! ## The bytes of a character -/

theorem toNat_continuation (n : Nat) : (continuation n).toNat = 0x80 + n % 64 := by
  rw [continuation, UInt8.toNat_ofNat_of_lt']
  change 0x80 + n % 64 < 256
  omega

/-- A byte that goes on a character adds its six bits. -/
theorem feed_continuation {code owed n : Nat} {low high : UInt8}
    (above : low.toNat ≤ 0x80 + n % 64) (below : 0x80 + n % 64 ≤ high.toNat) :
    (Utf8State.within code owed low high).feed (continuation n) =
      if owed ≤ 1 then .complete (Char.ofNat (64 * code + n % 64))
      else .goOn (.within (64 * code + n % 64) (owed - 1) 0x80 0xBF) := by
  have within : low ≤ continuation n ∧ continuation n ≤ high := by
    rw [UInt8.le_iff_toNat_le, UInt8.le_iff_toNat_le, toNat_continuation]
    exact ⟨above, below⟩
  rw [Utf8State.feed, if_pos within]
  simp only [toNat_continuation, Nat.add_sub_cancel_left]

theorem completes_last {code n : Nat} {low high : UInt8} {c : Char}
    (above : low.toNat ≤ 0x80 + n % 64) (below : 0x80 + n % 64 ≤ high.toNat)
    (whole : 64 * code + n % 64 = c.toNat) :
    Completes (.within code 1 low high) [continuation n] c := by
  refine .last ?_
  rw [feed_continuation above below, if_pos (Nat.le_refl 1), whole, Char.ofNat_toNat]

theorem completes_more {code owed n : Nat} {low high : UInt8} {c : Char} {bs : Bytes}
    (above : low.toNat ≤ 0x80 + n % 64) (below : 0x80 + n % 64 ≤ high.toNat)
    (rest : Completes (.within (64 * code + n % 64) (owed + 1) 0x80 0xBF) bs c) :
    Completes (.within code (owed + 2) low high) (continuation n :: bs) c := by
  refine .more ?_ rest
  rw [feed_continuation above below, if_neg (by omega)]
  rfl

/-- No code of a character stands for half of a surrogate pair. -/
theorem isScalar (c : Char) : c.toNat < 0xD800 ∨ (0xDFFF < c.toNat ∧ c.toNat < 0x110000) :=
  c.valid

theorem first_two {n : Nat} (two : 0x80 ≤ n) (few : n < 0x800) :
    Utf8Step.first (UInt8.ofNat (0xC0 + n / 64)) = .goOn (.within (n / 64) 1 0x80 0xBF) := by
  have lead : (UInt8.ofNat (0xC0 + n / 64)).toNat = 0xC0 + n / 64 :=
    UInt8.toNat_ofNat_of_lt' (by change _ < 256; omega)
  simp only [Utf8Step.first, lead]
  rw [if_neg (by omega), if_neg (by omega), if_pos (by omega), Nat.add_sub_cancel_left]

/-- The bounds on the second of three bytes admit the characters and no surrogate. -/
theorem first_three {c : Char} (three : 0x800 ≤ c.toNat) (few : c.toNat < 0x10000) :
    ∃ low high : UInt8,
      Utf8Step.first (UInt8.ofNat (0xE0 + c.toNat / 4096)) =
          .goOn (.within (c.toNat / 4096) 2 low high) ∧
        low.toNat ≤ 0x80 + c.toNat / 64 % 64 ∧ 0x80 + c.toNat / 64 % 64 ≤ high.toNat := by
  have scalar := isScalar c
  have lead : (UInt8.ofNat (0xE0 + c.toNat / 4096)).toNat = 0xE0 + c.toNat / 4096 :=
    UInt8.toNat_ofNat_of_lt' (by change _ < 256; omega)
  simp only [Utf8Step.first, lead]
  rw [if_neg (by omega), if_neg (by omega), if_neg (by omega)]
  by_cases overlong : c.toNat / 4096 = 0
  · refine ⟨0xA0, 0xBF, by rw [if_pos (by omega), overlong], ?_, ?_⟩
    · change 0xA0 ≤ _
      omega
    · change _ ≤ 0xBF
      omega
  · rw [if_neg (by omega)]
    by_cases surrogates : c.toNat / 4096 = 0xD
    · refine ⟨0x80, 0x9F, by rw [if_pos (by omega), surrogates], Nat.le_add_right _ _, ?_⟩
      change _ ≤ 0x9F
      omega
    · refine ⟨0x80, 0xBF, ?_, Nat.le_add_right _ _, ?_⟩
      · rw [if_neg (by omega), if_pos (by omega), Nat.add_sub_cancel_left]
      · change _ ≤ 0xBF
        omega

/-- The bounds on the second of four bytes admit the codes up to the last one. -/
theorem first_four {c : Char} (four : 0x10000 ≤ c.toNat) :
    ∃ low high : UInt8,
      Utf8Step.first (UInt8.ofNat (0xF0 + c.toNat / 262144)) =
          .goOn (.within (c.toNat / 262144) 3 low high) ∧
        low.toNat ≤ 0x80 + c.toNat / 4096 % 64 ∧ 0x80 + c.toNat / 4096 % 64 ≤ high.toNat := by
  have scalar := isScalar c
  have lead : (UInt8.ofNat (0xF0 + c.toNat / 262144)).toNat = 0xF0 + c.toNat / 262144 :=
    UInt8.toNat_ofNat_of_lt' (by change _ < 256; omega)
  simp only [Utf8Step.first, lead]
  rw [if_neg (by omega), if_neg (by omega), if_neg (by omega), if_neg (by omega),
    if_neg (by omega), if_neg (by omega)]
  by_cases overlong : c.toNat / 262144 = 0
  · refine ⟨0x90, 0xBF, by rw [if_pos (by omega), overlong], ?_, ?_⟩
    · change 0x90 ≤ _
      omega
    · change _ ≤ 0xBF
      omega
  · rw [if_neg (by omega)]
    by_cases past : c.toNat / 262144 = 4
    · refine ⟨0x80, 0x8F, ?_, Nat.le_add_right _ _, ?_⟩
      · rw [if_neg (by omega), if_pos (by omega), past]
      · change _ ≤ 0x8F
        omega
    · refine ⟨0x80, 0xBF, ?_, Nat.le_add_right _ _, ?_⟩
      · rw [if_pos (by omega), Nat.add_sub_cancel_left]
      · change _ ≤ 0xBF
        omega

theorem completes_encodeChar (c : Char) : Completes .between (encodeChar c) c := by
  have low (n : Nat) : (0x80 : UInt8).toNat ≤ 0x80 + n % 64 := Nat.le_add_right _ _
  have high (n : Nat) : 0x80 + n % 64 ≤ (0xBF : UInt8).toNat := by
    change _ ≤ 0xBF
    omega
  simp only [encodeChar]
  by_cases one : c.toNat < 0x80
  · have lead : (UInt8.ofNat c.toNat).toNat = c.toNat :=
      UInt8.toNat_ofNat_of_lt' (by change _ < 256; omega)
    rw [if_pos one]
    refine .last ?_
    simp only [Utf8State.feed, Utf8Step.first, lead, if_pos one, Char.ofNat_toNat]
  rw [if_neg one]
  by_cases two : c.toNat < 0x800
  · rw [if_pos two]
    exact .more (first_two (by omega) two) (completes_last (low _) (high _) (by omega))
  rw [if_neg two]
  by_cases three : c.toNat < 0x10000
  · obtain ⟨l, h, lead, above, below⟩ := first_three (by omega) three
    rw [if_pos three]
    exact .more lead
      (completes_more above below (completes_last (low _) (high _) (by omega)))
  · obtain ⟨l, h, lead, above, below⟩ := first_four (by omega : 0x10000 ≤ c.toNat)
    rw [if_neg three]
    exact .more lead (completes_more above below
      (completes_more (low _) (high _) (completes_last (low _) (high _) (by omega))))

/-- A text is decoded from its bytes. -/
theorem decodeLossy_encode (s : String) : decodeLossy (encode s) = s := by
  have chars (cs : List Char) : decodeLossyFrom .between (cs.flatMap encodeChar) = cs := by
    induction cs with
    | nil => rfl
    | cons c cs ih => rw [List.flatMap_cons, (completes_encodeChar c).decodeLossyFrom, ih]
  rw [decodeLossy, encode, chars, String.ofList_toList]

/-! ## What a decoded text begins with -/

theorem toNat_ofNat_eq (n : Nat) : (Char.ofNat n).toNat = if n.isValidChar then n else 0 := by
  by_cases valid : n.isValidChar
  · rw [Char.ofNat, dif_pos valid, if_pos valid]
    rfl
  · rw [Char.ofNat, dif_neg valid, if_neg valid]
    rfl

/-- No code beyond ASCII is decoded to an ASCII character, but a code of no character to the
null. -/
theorem ofNat_ne_ascii {n : Nat} {c : Char} (beyond : 0x80 ≤ n) (ascii : c.toNat < 0x80)
    (proper : c.toNat ≠ 0) : Char.ofNat n ≠ c := by
  rintro rfl
  rw [toNat_ofNat_eq] at ascii proper
  split at ascii
  · omega
  · rename_i invalid
    exact proper (if_neg invalid)

/-- The state is in the middle of a character of more than one byte.  The bounds on the next
byte shut out that the character turns out to be an ASCII one. -/
def Utf8State.Beyond : Utf8State → Prop
  | .between => False
  | .within code owed low _ => 2 ≤ code ∨ 2 ≤ owed ∧ (1 ≤ code ∨ 0x82 ≤ low.toNat)

theorem first_one {b : UInt8} (one : b.toNat < 0x80) :
    Utf8Step.first b = .complete (Char.ofNat b.toNat) :=
  if_pos one

theorem first_many {b : UInt8} (many : ¬ b.toNat < 0x80) :
    Utf8Step.first b = .illFormed ∨ ∃ state, Utf8Step.first b = .goOn state ∧ state.Beyond := by
  simp only [Utf8Step.first, if_neg many]
  repeat' split
  all_goals simp [Utf8State.Beyond]
  all_goals omega

/-- A character of more than one byte stays so, and ends beyond ASCII. -/
theorem beyond_of_feed {b : UInt8} {state : Utf8State} (beyond : state.Beyond) :
    (∀ next, state.feed b = .goOn next → next.Beyond) ∧
      ∀ c, state.feed b = .complete c → ∃ n, 0x80 ≤ n ∧ c = Char.ofNat n := by
  cases state with
  | between => cases beyond
  | within code owed low high =>
    simp only [Utf8State.Beyond] at beyond
    simp only [Utf8State.feed]
    split
    · rename_i bounds
      have above : low.toNat ≤ b.toNat := UInt8.le_iff_toNat_le.mp bounds.1
      split
      · refine ⟨fun next led => (by cases led), fun c ended => ?_⟩
        exact ⟨_, by omega, (Utf8Step.complete.inj ended).symm⟩
      · refine ⟨fun next led => ?_, fun c ended => (by cases ended)⟩
        cases led
        simp only [Utf8State.Beyond]
        omega
    · exact ⟨fun next led => (by cases led), fun c ended => (by cases ended)⟩

theorem head?_decodeLossyFrom_beyond {state : Utf8State} (beyond : state.Beyond) (bytes : Bytes)
    {c : Char} (ascii : c.toNat < 0x80) (proper : c.toNat ≠ 0) :
    (decodeLossyFrom state bytes).head? ≠ some c := by
  have replaced : replacement ≠ c := by
    rintro rfl
    exact absurd ascii (by decide)
  have inside : state ≠ .between := by
    rintro rfl
    exact beyond
  induction bytes generalizing state with
  | nil => simpa [decodeLossyFrom, inside] using replaced
  | cons b bytes ih =>
    obtain ⟨goesOn, ends⟩ := beyond_of_feed (b := b) beyond
    rw [decodeLossyFrom]
    split
    · rename_i next led
      have further := goesOn next led
      refine ih further ?_
      rintro rfl
      exact further
    · rename_i last ended
      obtain ⟨n, large, rfl⟩ := ends last ended
      simpa using ofNat_ne_ascii large ascii proper
    · rw [if_neg inside]
      split <;> simpa using replaced

/-- A decoded text begins with an ASCII character exactly if the bytes do. -/
theorem head?_decodeLossy_eq_some_iff {bytes : Bytes} {c : Char} (ascii : c.toNat < 0x80)
    (proper : c.toNat ≠ 0) :
    (decodeLossy bytes).toList.head? = some c ↔ bytes.head? = some (UInt8.ofNat c.toNat) := by
  rw [decodeLossy, String.toList_ofList]
  rcases bytes with _ | ⟨b, bytes⟩
  · simp [decodeLossyFrom]
  have code : (UInt8.ofNat c.toNat).toNat = c.toNat :=
    UInt8.toNat_ofNat_of_lt' (by change _ < 256; omega)
  rw [List.head?_cons, Option.some_inj, ← UInt8.toNat_inj, code, decodeLossyFrom,
    Utf8State.feed]
  by_cases one : b.toNat < 0x80
  · have valid : b.toNat.isValidChar := .inl (Nat.lt_trans one (by decide))
    simp only [first_one one, List.head?_cons, Option.some_inj, ← Char.toNat_inj, toNat_ofNat_eq,
      if_pos valid]
  · refine iff_of_false ?_ (by omega)
    rcases first_many one with illFormed | ⟨state, led, beyond⟩
    · simp only [illFormed, if_true, List.head?_cons]
      intro replaced
      cases replaced
      exact absurd ascii (by decide)
    · simp only [led]
      exact head?_decodeLossyFrom_beyond beyond bytes ascii proper

end RegisterMachine.Text
