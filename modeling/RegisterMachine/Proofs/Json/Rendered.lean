import RegisterMachine.Proofs.Json.Numbers
import RegisterMachine.Proofs.Json.Strings

/-!
# Reading what is written

`tokens j` are the tokens of a value in the order in which they are written.  Reading goes
the same way back in two steps.

* `ofTokens?_tokens`: the machine with the open frames reads the tokens of any value as
  that value.
* `IsWritten.tokens?_chars`: the characters of a value are cut into its tokens, if its numerals
  are those of integers and its strings can stand between quotes.
* `IsWritten.parse?_render`: so the text written for such a value is read as the value.
-/

namespace RegisterMachine

/-- Induction over the items and the members that a value holds. -/
theorem Json.induct {P : Json → Prop} (null : P .null) (bool : ∀ b, P (.bool b))
    (number : ∀ n, P (.number n)) (string : ∀ raw, P (.string raw))
    (array : ∀ items, (∀ j ∈ items, P j) → P (.array items))
    (object : ∀ members, (∀ member ∈ members, P member.2) → P (.object members)) (j : Json) :
    P j := by
  refine @Json.rec P (fun items => ∀ j ∈ items, P j) (fun members => ∀ m ∈ members, P m.2)
    (fun member => P member.2) null bool number string array object ?_ ?_ ?_ ?_ ?_ j
  · simp
  · exact fun j items here there => List.forall_mem_cons.mpr ⟨here, there⟩
  · simp
  · exact fun m members here there => List.forall_mem_cons.mpr ⟨here, there⟩
  · exact fun _ _ here => here

namespace Json

mutual

/-- The tokens of a value. -/
def tokens : Json → List Token
  | .null => [.null]
  | .bool b => [.bool b]
  | .number n => [.number n]
  | .string raw => [.string raw]
  | .array items => .leftBracket :: itemTokens items ++ [.rightBracket]
  | .object members => .leftBrace :: memberTokens members ++ [.rightBrace]

/-- The tokens of the items of an array, with commas in between. -/
def itemTokens : List Json → List Token
  | [] => []
  | [item] => tokens item
  | item :: rest => tokens item ++ .comma :: itemTokens rest

/-- The tokens of the members of an object, with commas in between. -/
def memberTokens : List (List Char × Json) → List Token
  | [] => []
  | [(key, value)] => .string key :: .colon :: tokens value
  | (key, value) :: rest => .string key :: .colon :: tokens value ++ .comma :: memberTokens rest

end

/-- No value begins with a closing bracket. -/
theorem itemTokens_cons (item : Json) (items : List Json) :
    ∃ t ts, t ≠ .rightBracket ∧ itemTokens (item :: items) = t :: ts := by
  cases items <;> cases item <;> simp [itemTokens, tokens]

theorem memberTokens_cons (key : List Char) (value : Json) (members : List (List Char × Json)) :
    ∃ ts, memberTokens ((key, value) :: members) = .string key :: ts := by
  cases members <;> simp [memberTokens]

/-! ## From tokens to values -/

namespace ReadState

theorem foldlM_cons {state state' : ReadState} {t : Token} (fed : state.feed? t = some state')
    (ts : List Token) : (t :: ts).foldlM feed? state = ts.foldlM feed? state' := by
  rw [List.foldlM_cons, fed]
  rfl

/-- The machine takes the tokens of the value for it, inside whatever is open. -/
def Reads (j : Json) : Prop :=
  ∀ (outer : List Frame) (ts : List Token),
    (j.tokens ++ ts).foldlM feed? (.value outer) = ts.foldlM feed? (.after j outer)

/-- Items up to the end of their array, of which `done` have been read. -/
theorem reads_items {item : Json} {items : List Json} (first : Reads item)
    (others : ∀ j ∈ items, Reads j) (done : List Json) (outer : List Frame) (ts : List Token) :
    (itemTokens (item :: items) ++ .rightBracket :: ts).foldlM feed?
        (.value (.array done :: outer)) =
      ts.foldlM feed? (.after (.array (done.reverse ++ item :: items)) outer) := by
  induction items generalizing item done with
  | nil =>
    rw [itemTokens, first, foldlM_cons rfl]
    simp
  | cons next items ih =>
    obtain ⟨second, others⟩ := List.forall_mem_cons.mp others
    rw [itemTokens, List.append_assoc, first, List.cons_append, foldlM_cons rfl,
      ih second others (item :: done)]
    · simp
    · simp

theorem reads_array {items : List Json} (each : ∀ j ∈ items, Reads j) : Reads (.array items) := by
  intro outer ts
  rw [tokens, List.append_assoc, List.cons_append, foldlM_cons rfl]
  cases items with
  | nil => exact foldlM_cons rfl ts
  | cons item items =>
    obtain ⟨first, others⟩ := List.forall_mem_cons.mp each
    have read := reads_items first others [] outer ts
    -- The array is not taken for an empty one, so its first token begins a value.
    obtain ⟨t, more, begins, shape⟩ := itemTokens_cons item items
    have same : feed? (.firstItem outer) t = feed? (.value (.array [] :: outer)) t := if_neg begins
    rw [shape, List.cons_append, List.foldlM_cons] at read ⊢
    rw [same]
    exact read

/-- Members up to the end of their object, of which `done` have been read. -/
theorem reads_members {key : List Char} {value : Json} {members : List (List Char × Json)}
    (first : Reads value) (others : ∀ m ∈ members, Reads m.2)
    (done : List (List Char × Json)) (outer : List Frame) (ts : List Token) :
    (memberTokens ((key, value) :: members) ++ .rightBrace :: ts).foldlM feed?
        (.key done outer) =
      ts.foldlM feed? (.after (.object (done.reverse ++ (key, value) :: members)) outer) := by
  induction members generalizing key value done with
  | nil =>
    rw [memberTokens, List.cons_append, foldlM_cons rfl, List.cons_append, foldlM_cons rfl, first,
      foldlM_cons rfl]
    simp
  | cons next members ih =>
    obtain ⟨second, others⟩ := List.forall_mem_cons.mp others
    rw [memberTokens]
    · simp only [List.cons_append, List.append_assoc]
      rw [foldlM_cons rfl, foldlM_cons rfl, first, foldlM_cons rfl,
        ih second others ((key, value) :: done)]
      simp
    · simp

theorem reads_object {members : List (List Char × Json)} (each : ∀ m ∈ members, Reads m.2) :
    Reads (.object members) := by
  intro outer ts
  rw [tokens, List.append_assoc, List.cons_append, foldlM_cons rfl]
  cases members with
  | nil => exact foldlM_cons rfl ts
  | cons member members =>
    obtain ⟨key, value⟩ := member
    obtain ⟨first, others⟩ := List.forall_mem_cons.mp each
    have read := @reads_members key value members first others [] outer ts
    obtain ⟨more, shape⟩ := memberTokens_cons key value members
    rw [shape, List.cons_append, foldlM_cons rfl] at read ⊢
    exact read

theorem reads (j : Json) : Reads j := by
  induction j using Json.induct with
  | null | bool b | number n | string raw => exact fun outer ts => foldlM_cons rfl ts
  | array items each => exact reads_array each
  | object members each => exact reads_object each

end ReadState

theorem ofTokens?_tokens (j : Json) : ofTokens? j.tokens = some j := by
  have read := ReadState.reads j [] []
  rw [List.append_nil] at read
  rw [ofTokens?, read]
  rfl

/-! ## From characters to tokens -/

/-- A mark is a token by itself. -/
theorem tokensFrom?_mark {c : Char} {t : Token} (mark : LexState.start? c = some ([t], .between))
    (rest : List Char) :
    tokensFrom? .between (c :: rest) = (tokensFrom? .between rest).map (t :: ·) := by
  simp [tokensFrom?, LexState.feed?, mark]

theorem tokensFrom?_quoted {raw : List Char} (written : Raw raw) (rest : List Char) :
    tokensFrom? .between (quoted raw ++ rest) =
      (tokensFrom? .between rest).map (.string raw :: ·) := by
  rw [quoted, List.append_assoc, List.cons_append, tokensFrom?_cons rfl, written]
  simp [tokensFrom?, LexState.feed?]

/-- The text goes on with nothing that could belong to a numeral or a word. -/
def Stops (rest : List Char) : Prop :=
  ∀ c ∈ rest.head?, isNumberChar c = false ∧ isWordChar c = false

theorem stops_nil : Stops [] := by simp [Stops]

theorem stops_cons {c : Char} (h : isNumberChar c = false ∧ isWordChar c = false)
    (rest : List Char) : Stops (c :: rest) := by
  simpa [Stops] using h

/-- A numeral or a word ends where nothing more belongs to it. -/
theorem tokensFrom?_stops {state : LexState} {t : Token} (ends : state.finish? = some [t])
    (next : ∀ c, isNumberChar c = false → isWordChar c = false →
      state.feed? c = LexState.after? (some t) c)
    {rest : List Char} (stops : Stops rest) :
    tokensFrom? state rest = (tokensFrom? .between rest).map (t :: ·) := by
  cases rest with
  | nil => rw [tokensFrom?, ends]; rfl
  | cons c rest =>
    obtain ⟨number, word⟩ := stops c rfl
    rw [tokensFrom?, tokensFrom?, next c number word, LexState.feed?]
    cases started : LexState.start? c with
    | none => simp [LexState.after?, started]
    | some fed => simp [LexState.after?, started, Function.comp_def]

theorem tokensFrom?_inNumber {cs : List Char} (all : ∀ c ∈ cs, isNumberChar c)
    (seen rest : List Char) :
    tokensFrom? (.inNumber seen) (cs ++ rest) =
      tokensFrom? (.inNumber (cs.reverse ++ seen)) rest := by
  induction cs generalizing seen with
  | nil => rfl
  | cons c cs ih =>
    obtain ⟨first, others⟩ := List.forall_mem_cons.mp all
    have fed : LexState.feed? c (.inNumber seen) = some ([], .inNumber (c :: seen)) := if_pos first
    rw [List.cons_append, tokensFrom?_cons fed, ih others]
    simp

/-- A sign or a digit begins a numeral. -/
theorem start?_integer {c : Char} (h : c = '-' ∨ JsonNumber.isDigit c) :
    LexState.start? c = some ([], .inNumber [c]) := by
  have ne {d : Char} (other : ¬ (d = '-' ∨ JsonNumber.isDigit d)) : c ≠ d :=
    fun same => other (same ▸ h)
  have blank : isJsonBlank c = false := by
    simp only [isJsonBlank, Bool.or_eq_false_iff, decide_eq_false_iff_not]
    exact ⟨⟨⟨ne (by decide), ne (by decide)⟩, ne (by decide)⟩, ne (by decide)⟩
  rw [LexState.start?, blank, if_neg Bool.false_ne_true, if_neg (ne (by decide)),
    if_neg (ne (by decide)), if_neg (ne (by decide)), if_neg (ne (by decide)),
    if_neg (ne (by decide)), if_neg (ne (by decide)), if_neg (ne (by decide)),
    if_pos (by simpa using h)]

theorem tokensFrom?_ofInt (i : Int) {rest : List Char} (stops : Stops rest) :
    tokensFrom? .between ((JsonNumber.ofInt i).text ++ rest) =
      (tokensFrom? .between rest).map (.number (JsonNumber.ofInt i) :: ·) := by
  have parsed := JsonNumber.parse?_text_ofInt i
  have all : ∀ c ∈ (JsonNumber.ofInt i).text, c = '-' ∨ JsonNumber.isDigit c :=
    fun _ => JsonNumber.mem_text_ofInt
  generalize (JsonNumber.ofInt i).text = text at parsed all
  cases text with
  | nil => cases parsed
  | cons c cs =>
    obtain ⟨first, others⟩ := List.forall_mem_cons.mp all
    have members : ∀ c ∈ cs, isNumberChar c := fun c member => by
      rcases others c member with sign | digit <;> simp [isNumberChar, *]
    have token : numberToken? (cs.reverse ++ [c]) = some (.number (JsonNumber.ofInt i)) := by
      simp [numberToken?, parsed]
    have fed : LexState.feed? c .between = some ([], .inNumber [c]) := start?_integer first
    rw [List.cons_append, tokensFrom?_cons fed, tokensFrom?_inNumber members]
    refine tokensFrom?_stops ?_ ?_ stops
    · rw [LexState.finish?, token]
      rfl
    · intro c number _
      rw [LexState.feed?, number, token]
      exact if_neg Bool.false_ne_true

/-- The value has no numerals but those of integers, and its strings and keys can stand between
quotes. -/
inductive IsWritten : Json → Prop
  | integer (i : Int) : IsWritten (ofInt i)
  | string {raw : List Char} (written : Raw raw) : IsWritten (.string raw)
  | array {items : List Json} (each : ∀ j ∈ items, IsWritten j) : IsWritten (.array items)
  | object {members : List (List Char × Json)} (keys : ∀ m ∈ members, Raw m.1)
    (each : ∀ m ∈ members, IsWritten m.2) : IsWritten (.object members)

/-- The characters of the value are cut into its tokens. -/
def Lexes (j : Json) : Prop :=
  ∀ rest, Stops rest →
    tokensFrom? .between (j.chars ++ rest) = (tokensFrom? .between rest).map (j.tokens ++ ·)

theorem lexes_items {items : List Json} (each : ∀ j ∈ items, Lexes j) {rest : List Char}
    (stops : Stops rest) :
    tokensFrom? .between (itemChars items ++ rest) =
      (tokensFrom? .between rest).map (itemTokens items ++ ·) := by
  induction items with
  | nil => simp [itemChars, itemTokens]
  | cons item items ih =>
    obtain ⟨first, others⟩ := List.forall_mem_cons.mp each
    cases items with
    | nil => exact first rest stops
    | cons next items =>
      rw [itemChars, itemTokens]
      · rw [List.append_assoc, List.cons_append, first _ (stops_cons (by decide) _),
          tokensFrom?_mark rfl, ih others]
        simp [Function.comp_def]
      · simp
      · simp

theorem lexes_members {members : List (List Char × Json)} (keys : ∀ m ∈ members, Raw m.1)
    (each : ∀ m ∈ members, Lexes m.2) {rest : List Char} (stops : Stops rest) :
    tokensFrom? .between (memberChars members ++ rest) =
      (tokensFrom? .between rest).map (memberTokens members ++ ·) := by
  induction members with
  | nil => simp [memberChars, memberTokens]
  | cons member members ih =>
    obtain ⟨key, value⟩ := member
    obtain ⟨named, keys⟩ := List.forall_mem_cons.mp keys
    obtain ⟨first, others⟩ := List.forall_mem_cons.mp each
    cases members with
    | nil =>
      rw [memberChars, List.append_assoc, tokensFrom?_quoted named, List.cons_append,
        tokensFrom?_mark rfl, first rest stops]
      simp [memberTokens, Function.comp_def]
    | cons next members =>
      rw [memberChars, memberTokens]
      · simp only [List.append_assoc, List.cons_append]
        rw [tokensFrom?_quoted named, tokensFrom?_mark rfl, first _ (stops_cons (by decide) _),
          tokensFrom?_mark rfl, ih keys others]
        simp [Function.comp_def]
      · simp
      · simp

theorem IsWritten.lexes {j : Json} (written : IsWritten j) : Lexes j := by
  induction written with
  | integer i => exact fun rest => tokensFrom?_ofInt i
  | string written => exact fun rest _ => tokensFrom?_quoted written rest
  | array each ih =>
    intro rest _
    rw [chars, List.append_assoc, List.cons_append, tokensFrom?_mark rfl,
      List.singleton_append, lexes_items ih (stops_cons (by decide) _), tokensFrom?_mark rfl]
    simp [tokens, Function.comp_def]
  | object keys each ih =>
    intro rest _
    rw [chars, List.append_assoc, List.cons_append, tokensFrom?_mark rfl,
      List.singleton_append, lexes_members keys ih (stops_cons (by decide) _),
      tokensFrom?_mark rfl]
    simp [tokens, Function.comp_def]

theorem IsWritten.tokens?_chars {j : Json} (written : IsWritten j) :
    tokens? j.chars = some j.tokens := by
  have cut := written.lexes [] stops_nil
  rw [List.append_nil] at cut
  simpa [tokens?, tokensFrom?, LexState.finish?] using cut

/-- The text that is written for a value is read as the value. -/
theorem IsWritten.parse?_render {j : Json} (written : IsWritten j) : parse? j.render = some j := by
  rw [parse?, render, String.toList_ofList, written.tokens?_chars]
  exact ofTokens?_tokens j

end Json

end RegisterMachine
