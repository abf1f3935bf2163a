import RegisterMachine.Json.Token

/-!
# Encoded texts

A text that is written between quotes is one token and stands for itself again.

* `Raw`: characters that a lexer takes into the string it is in, all of them and nothing
  more.
* `raw_encodeText` and `decodeText?_encodeText`: the encoding of any text is such a list, and
  is decoded to the text.
-/

namespace RegisterMachine.Json

/-- A character that completes no token. -/
theorem tokensFrom?_cons {state state' : LexState} {c : Char}
    (fed : state.feed? c = some ([], state')) (cs : List Char) :
    tokensFrom? state (c :: cs) = tokensFrom? state' cs := by
  simp [tokensFrom?, fed]

/-! ## Strings as tokens -/

/-- The characters can stand between quotes. -/
def Raw (raw : List Char) : Prop :=
  ∀ seen rest, tokensFrom? (.inString seen) (raw ++ rest) =
    tokensFrom? (.inString (raw.reverse ++ seen)) rest

theorem Raw.nil : Raw [] := fun _ _ => rfl

theorem Raw.append {raw raw' : List Char} (h : Raw raw) (h' : Raw raw') : Raw (raw ++ raw') := by
  intro seen rest
  rw [List.append_assoc, h, h', List.reverse_append, List.append_assoc]

/-- A character that needs no escape. -/
def IsPlain (c : Char) : Prop := c ≠ '"' ∧ c ≠ '\\' ∧ 0x20 ≤ c.toNat

theorem IsPlain.raw {c : Char} (plain : IsPlain c) : Raw [c] := by
  intro seen rest
  refine tokensFrom?_cons ?_ rest
  simp [LexState.feed?, plain.1, plain.2.1, Nat.not_lt.mpr plain.2.2]

theorem raw_of_plain {raw : List Char} (plain : ∀ c ∈ raw, IsPlain c) : Raw raw := by
  induction raw with
  | nil => exact .nil
  | cons c raw ih =>
    obtain ⟨head, tail⟩ := List.forall_mem_cons.mp plain
    exact head.raw.append (ih tail)

theorem raw_escape {e : Char} (known : (escaped? e).isSome) : Raw ['\\', e] := by
  intro seen rest
  have short : e ≠ 'u' := by
    rintro rfl
    cases known
  rw [List.cons_append, List.cons_append, tokensFrom?_cons rfl]
  exact tokensFrom?_cons (by simp [LexState.feed?, short, known]) rest

theorem raw_hexEscape {a b c d : Char} (known : ∀ x ∈ [a, b, c, d], (hexDigit? x).isSome) :
    Raw ['\\', 'u', a, b, c, d] := by
  intro seen rest
  simp only [List.forall_mem_cons] at known
  obtain ⟨ha, hb, hc, hd, -⟩ := known
  simp [tokensFrom?, LexState.feed?, ha, hb, hc, hd]

/-! ## Encoding and decoding -/

/-- How a control character is written that has no escape of its own. -/
theorem hexCode?_hexDigit {n : Nat} (small : n < 0x20) :
    hexCode? '0' '0' (hexDigit (n / 16)) (hexDigit n) = some n := by
  revert n
  decide

theorem isSome_hexDigit {n : Nat} (small : n < 0x20) : (hexDigit? (hexDigit n)).isSome := by
  revert n
  decide

/-- The ways in which a character is written. -/
inductive Encodes (c : Char) : List Char → Prop
  | plain (plain : IsPlain c) : Encodes c [c]
  | escape {e : Char} (known : escaped? e = some c) : Encodes c ['\\', e]
  | code (control : c.toNat < 0x20) :
    Encodes c ['\\', 'u', '0', '0', hexDigit (c.toNat / 16), hexDigit c.toNat]

theorem encodes_encodeChar (c : Char) : Encodes c (encodeChar c) := by
  unfold encodeChar
  split
  · exact .escape rfl
  · exact .escape rfl
  · exact .escape rfl
  · exact .escape rfl
  · exact .escape rfl
  · exact .escape rfl
  · exact .escape rfl
  · split
    · exact .code ‹_›
    · exact .plain ⟨‹_›, ‹_›, Nat.not_lt.mp ‹_›⟩

theorem Encodes.raw {c : Char} {cs : List Char} (encodes : Encodes c cs) : Raw cs := by
  cases encodes with
  | plain plain => exact plain.raw
  | escape known => exact raw_escape (by simp [known])
  | code control =>
    have zero : (hexDigit? '0').isSome := by decide
    have high := isSome_hexDigit (Nat.lt_of_le_of_lt (Nat.div_le_self c.toNat 16) control)
    have low := isSome_hexDigit control
    exact raw_hexEscape (by simp [zero, high, low])

theorem raw_encodeText (s : String) : Raw (encodeText s) := by
  unfold encodeText
  induction s.toList with
  | nil => exact .nil
  | cons c cs ih => exact (encodes_encodeChar c).raw.append ih

theorem units?_plain {c : Char} (plain : c ≠ '\\') (rest : List Char) :
    units? (c :: rest) = (units? rest).map (.char c :: ·) := by
  rw [units?.eq_def]
  split
  · rename_i none
    cases none
  · rename_i escape
    cases escape
    exact absurd rfl plain
  · rename_i escape
    cases escape
    exact absurd rfl plain
  · rename_i same
    cases same
    rw [if_neg plain]

theorem units?_escape {e c : Char} (known : escaped? e = some c) (rest : List Char) :
    units? ('\\' :: e :: rest) = (units? rest).map (.char c :: ·) := by
  rw [units?.eq_def]
  split
  · rename_i none
    cases none
  · rename_i escape
    cases escape
    cases known
  · rename_i escape
    cases escape
    simp only [known]
  · rename_i other same
    cases same
    exact (other e rest rfl rfl).elim

/-- A code below the surrogates is a character, whatever follows it. -/
theorem joinUnits?_code {n : Nat} (low : n < 0xD800) (us : List TextUnit) :
    joinUnits? (.code n :: us) = (joinUnits? us).map (Char.ofNat n :: ·) := by
  have notHigh : isHighSurrogate n = false := by
    simp only [isHighSurrogate, Bool.and_eq_false_iff, decide_eq_false_iff_not]
    omega
  have notLow : isLowSurrogate n = false := by
    simp only [isLowSurrogate, Bool.and_eq_false_iff, decide_eq_false_iff_not]
    omega
  rcases us with _ | ⟨c | code, us⟩ <;> simp [joinUnits?, notHigh, notLow]

theorem Encodes.decodes {c : Char} {cs : List Char} (encodes : Encodes c cs) (rest : List Char) :
    (units? (cs ++ rest)).bind joinUnits? = ((units? rest).bind joinUnits?).map (c :: ·) := by
  cases encodes with
  | plain plain =>
    rw [List.singleton_append, units?_plain plain.2.1]
    cases units? rest <;> rfl
  | escape known =>
    rw [List.cons_append, List.singleton_append, units?_escape known]
    cases units? rest <;> rfl
  | code control =>
    simp only [List.cons_append, List.nil_append, units?, hexCode?_hexDigit control]
    cases units? rest with
    | none => rfl
    | some us =>
      have low : c.toNat < 0xD800 := Nat.lt_trans control (by decide)
      exact (joinUnits?_code low us).trans (by rw [Char.ofNat_toNat]; rfl)

theorem decodeText?_encodeText (s : String) : decodeText? (encodeText s) = some s := by
  have decoded (cs : List Char) :
      (units? (cs.flatMap encodeChar)).bind joinUnits? = some cs := by
    induction cs with
    | nil => rfl
    | cons c cs ih => rw [List.flatMap_cons, (encodes_encodeChar c).decodes, ih, Option.map_some]
  rw [decodeText?, encodeText, decoded, Option.map_some, String.ofList_toList]

end RegisterMachine.Json
