import RegisterMachine.Debug.Operator
import RegisterMachine.Proofs.Text.Decimal
import RegisterMachine.Proofs.Text.Letters

/-!
# The grammar of an operator's line

What an operator may type is said here by the words of the line in small letters.

* `Phrase`: the words that are a command, and which one.
* `Flaw`: the words that are none, and the first thing that is wrong with them.
* `ofWords_eq_ok_iff` and `ofWords_eq_error_iff`: words are read and refused accordingly.
* `parse_grammar`: so neither the case of letters nor the layout makes a difference, and every
  command is read from its name and its argument.
-/

namespace RegisterMachine.OperatorCommand

open Text (Counts SameLetters Spaced isBlank)

/-! ## Names -/

/-- The name is that of a command that stands alone. -/
inductive Alone : String → OperatorCommand → Prop
  | step : Alone "step" .step
  | help : Alone "help" .help
  | exit : Alone "exit" .exit
  | proceed : Alone "continue" .proceed
  | reset : Alone "reset" .reset
  | states : Alone "states" .states

/-- The name is that of a command that takes an argument. -/
inductive Taking : String → (Nat → OperatorCommand) → Prop
  | rollback : Taking "rollback" .rollback
  | suspendUntil : Taking "suspenduntil" .suspendUntil

/-- The word names no command. -/
structure Nameless (word : String) : Prop where
  notAlone : ∀ c, ¬ Alone word c
  notTaking : ∀ build, ¬ Taking word build

/-- Every command has one of these names. -/
theorem alone_or_taking (c : OperatorCommand) :
    (c.argument? = none ∧ Alone c.name c) ∨
      ∃ build n, c = build n ∧ c.argument? = some n ∧ Taking c.name build := by
  cases c with
  | step => exact .inl ⟨rfl, .step⟩
  | help => exact .inl ⟨rfl, .help⟩
  | exit => exact .inl ⟨rfl, .exit⟩
  | proceed => exact .inl ⟨rfl, .proceed⟩
  | reset => exact .inl ⟨rfl, .reset⟩
  | states => exact .inl ⟨rfl, .states⟩
  | rollback n => exact .inr ⟨.rollback, n, rfl, rfl, .rollback⟩
  | suspendUntil n => exact .inr ⟨.suspendUntil, n, rfl, rfl, .suspendUntil⟩

theorem Alone.name_eq {word : String} {c : OperatorCommand} (named : Alone word c) :
    c.name = word := by
  cases named <;> rfl

theorem Taking.name_eq {word : String} {build : Nat → OperatorCommand}
    (named : Taking word build) (n : Nat) : (build n).name = word := by
  cases named <;> rfl

theorem Alone.ofWords_eq {word : String} {c : OperatorCommand} (named : Alone word c)
    (rest : List String) : ofWords (word :: rest) = unlessSurplus c rest := by
  cases named <;> simp [ofWords, plain, name]

theorem Taking.ofWords_eq {word : String} {build : Nat → OperatorCommand}
    (named : Taking word build) (rest : List String) :
    ofWords (word :: rest) = withArgument word build rest := by
  cases named <;> simp [ofWords]

theorem Nameless.ofWords_eq {word : String} (nameless : Nameless word) (rest : List String) :
    ofWords (word :: rest) = .error (.unknownCommand word) := by
  have first : word ≠ "rollback" := by
    rintro rfl
    exact nameless.notTaking _ .rollback
  have second : word ≠ "suspenduntil" := by
    rintro rfl
    exact nameless.notTaking _ .suspendUntil
  have others : plain.find? (fun c => c.name = word) = none := by
    rw [List.find?_eq_none]
    intro c member named
    rcases c.alone_or_taking with ⟨-, alone⟩ | ⟨build, n, -, -, taking⟩
    · exact nameless.notAlone c (of_decide_eq_true named ▸ alone)
    · exact nameless.notTaking build (of_decide_eq_true named ▸ taking)
  rw [ofWords, if_neg first, if_neg second, others]

theorem named_or_nameless (word : String) :
    (∃ c, Alone word c) ∨ (∃ build, Taking word build) ∨ Nameless word := by
  by_cases alone : ∃ c, Alone word c
  · exact .inl alone
  · by_cases taking : ∃ build, Taking word build
    · exact .inr (.inl taking)
    · exact .inr (.inr ⟨not_exists.mp alone, not_exists.mp taking⟩)

/-! ## Words -/

/-- The words are a command. -/
inductive Phrase : List String → OperatorCommand → Prop
  | enter : Phrase [] .step
  | alone {word : String} {c : OperatorCommand} (named : Alone word c) : Phrase [word] c
  | taking {word token : String} {build : Nat → OperatorCommand} {n : Nat}
    (named : Taking word build) (counts : Counts token.toList n) : Phrase [word, token] (build n)

/-- The words are no command, for this reason: the name before the argument, and the argument
before what stands behind it. -/
inductive Flaw : List String → OperatorError → Prop
  | name {word : String} {rest : List String} (nameless : Nameless word) :
    Flaw (word :: rest) (.unknownCommand word)
  | missing {word : String} {build : Nat → OperatorCommand} (named : Taking word build) :
    Flaw [word] (.missingArgument word)
  | argument {word token : String} {build : Nat → OperatorCommand} {rest : List String}
    (named : Taking word build) (countless : ∀ n, ¬ Counts token.toList n) :
    Flaw (word :: token :: rest) (.invalidArgument word token)
  | surplus {word token : String} {c : OperatorCommand} {rest : List String}
    (named : Alone word c) : Flaw (word :: token :: rest) (.invalidArgument word token)
  | surplusBehind {word token surplus : String} {build : Nat → OperatorCommand} {n : Nat}
    {rest : List String} (named : Taking word build) (counts : Counts token.toList n) :
    Flaw (word :: token :: surplus :: rest) (.invalidArgument word surplus)

theorem ofWords_of_phrase {words : List String} {c : OperatorCommand} (phrase : Phrase words c) :
    ofWords words = .ok c := by
  cases phrase with
  | enter => rfl
  | alone named => rw [named.ofWords_eq, unlessSurplus]
  | taking named counts =>
    simp only [named.ofWords_eq, withArgument, Text.count?_eq_some_iff.mpr counts, unlessSurplus]

theorem ofWords_of_flaw {words : List String} {e : OperatorError} (flaw : Flaw words e) :
    ofWords words = .error e := by
  cases flaw with
  | name nameless => exact nameless.ofWords_eq _
  | missing named => rw [named.ofWords_eq, withArgument]
  | argument named countless =>
    simp only [named.ofWords_eq, withArgument, Text.count?_eq_none_iff.mpr countless]
  | surplus named => rw [named.ofWords_eq, unlessSurplus, named.name_eq]
  | surplusBehind named counts =>
    simp only [named.ofWords_eq, withArgument, Text.count?_eq_some_iff.mpr counts, unlessSurplus,
      named.name_eq]

/-- Any words are a command or have a flaw. -/
theorem phrase_or_flaw (words : List String) :
    (∃ c, Phrase words c) ∨ ∃ e, Flaw words e := by
  rcases words with _ | ⟨word, rest⟩
  · exact .inl ⟨_, .enter⟩
  rcases named_or_nameless word with ⟨c, named⟩ | ⟨build, named⟩ | nameless
  · rcases rest with _ | ⟨token, rest⟩
    · exact .inl ⟨c, .alone named⟩
    · exact .inr ⟨_, .surplus named⟩
  · rcases rest with _ | ⟨token, rest⟩
    · exact .inr ⟨_, .missing named⟩
    rcases read : Text.count? token.toList with _ | n
    · exact .inr ⟨_, .argument named (Text.count?_eq_none_iff.mp read)⟩
    have counts := Text.count?_eq_some_iff.mp read
    rcases rest with _ | ⟨surplus, rest⟩
    · exact .inl ⟨build n, .taking named counts⟩
    · exact .inr ⟨_, .surplusBehind named counts⟩
  · exact .inr ⟨_, .name nameless⟩

theorem ofWords_eq_ok_iff {words : List String} {c : OperatorCommand} :
    ofWords words = .ok c ↔ Phrase words c := by
  refine ⟨fun read => ?_, ofWords_of_phrase⟩
  rcases phrase_or_flaw words with ⟨c', phrase⟩ | ⟨e, flaw⟩
  · rw [ofWords_of_phrase phrase] at read
    cases read
    exact phrase
  · rw [ofWords_of_flaw flaw] at read
    cases read

theorem ofWords_eq_error_iff {words : List String} {e : OperatorError} :
    ofWords words = .error e ↔ Flaw words e := by
  refine ⟨fun refused => ?_, ofWords_of_flaw⟩
  rcases phrase_or_flaw words with ⟨c, phrase⟩ | ⟨e', flaw⟩
  · rw [ofWords_of_phrase phrase] at refused
    cases refused
  · rw [ofWords_of_flaw flaw] at refused
    cases refused
    exact flaw

/-! ## Lines -/

/-- Letters of either case are read alike. -/
theorem parse_sameLetters {line line' : String} (same : SameLetters line line') :
    parse line = parse line' := by
  rw [parse, parse, Text.lower_eq_iff.mpr same]

/-- Layouts of the same words are read alike. -/
theorem parse_spaced {line line' : String} {words : List (List Char)}
    (spaced : Spaced isBlank words line.toList) (spaced' : Spaced isBlank words line'.toList) :
    parse line = parse line' := by
  have same : Text.words line = Text.words line' := by
    rw [Text.words, Text.words, spaced.pieces_eq, spaced'.pieces_eq]
  rw [parse, parse, Text.words_lower, Text.words_lower, same]

/-- The words that a command is typed with. -/
def spelled (c : OperatorCommand) : List String := c.name :: (c.argument?.map toString).toList

theorem phrase_spelled {c : OperatorCommand} (fits : ∀ n ∈ c.argument?, n < wordBound) :
    Phrase c.spelled c := by
  rcases c.alone_or_taking with ⟨none, alone⟩ | ⟨build, n, same, some, taking⟩
  · rw [spelled, none]
    exact .alone alone
  · rw [spelled, some]
    have phrase := Phrase.taking taking (Text.counts_toString (fits n some))
    rwa [← same] at phrase

/-- Commands are typed in small letters and digits. -/
theorem lower_spelled (c : OperatorCommand) : c.spelled.map Text.lower = c.spelled := by
  have name : Text.lower c.name = c.name := by cases c <;> simp only [name] <;> decide +kernel
  have argument (n : Nat) : Text.lower (toString n) = toString n := by
    refine Text.lower_of_small fun c member capital => ?_
    rw [Nat.toString_eq_repr, Nat.toList_repr] at member
    have digit := Text.toNat_of_isDigit
      (Nat.isDigit_of_mem_toDigits (by decide) (by decide) member)
    have letter := Text.isUpper_iff.mp capital
    omega
  cases taken : c.argument? <;> simp only [spelled, taken, Option.map_some, Option.map_none,
    Option.toList_some, Option.toList_none, List.map_cons, List.map_nil, name, argument]

theorem parse_spelled {c : OperatorCommand} (fits : ∀ n ∈ c.argument?, n < wordBound)
    {line : String} (spaced : Spaced isBlank (c.spelled.map String.toList) line.toList) :
    parse line = .ok c := by
  rw [parse, Text.words_lower, Text.words_eq_iff.mpr spaced, lower_spelled]
  exact ofWords_of_phrase (phrase_spelled fits)

/-- A line is read by its words in small letters.  They are a command, or the line is refused for
the first thing that is wrong with them.  So the case of letters makes no difference, nor does
the layout, and each command is read from its name and its argument. -/
theorem parse_grammar :
    (∀ line : String, ∃ words,
      Spaced isBlank (words.map String.toList) (Text.lower line).toList ∧
        (∀ c, parse line = .ok c ↔ Phrase words c) ∧
        ∀ e, parse line = .error e ↔ Flaw words e) ∧
    (∀ line line' : String, SameLetters line line' → parse line = parse line') ∧
    (∀ (line line' : String) (words : List (List Char)),
      Spaced isBlank words line.toList → Spaced isBlank words line'.toList →
      parse line = parse line') ∧
    ∀ (c : OperatorCommand) (line : String), (∀ n ∈ c.argument?, n < wordBound) →
      Spaced isBlank (c.spelled.map String.toList) line.toList → parse line = .ok c := by
  refine ⟨fun line => ?_, fun _ _ => parse_sameLetters, fun _ _ _ => parse_spaced,
    fun _ _ fits => parse_spelled fits⟩
  refine ⟨Text.words (Text.lower line), Text.words_eq_iff.mp rfl, fun c => ?_, fun e => ?_⟩
  · exact ofWords_eq_ok_iff
  · exact ofWords_eq_error_iff

/-- A surplus word behind the largest argument, an argument that is too large in front of one, a
name in capitals, blanks of any kind around a name, and the largest argument typed. -/
theorem parse_grammar_largest :
    parse "\u3000RollBack\t+0018446744073709551615 x y" =
        .error (.invalidArgument "rollback" "x") ∧
      parse "rollback 18446744073709551616 x" =
        .error (.invalidArgument "rollback" "18446744073709551616") ∧
      parse "JUMP 3" = parse "jUmP 3" ∧ parse "\u00a0states\r\n" = parse "states" ∧
      parse "rollback\u2003 18446744073709551615" = .ok (.rollback 18446744073709551615) := by
  obtain ⟨grammar, letters, layouts, typed⟩ := parse_grammar
  refine ⟨?_, ?_, ?_, ?_, ?_⟩
  · obtain ⟨words, spaced, -, refused⟩ := grammar "\u3000RollBack\t+0018446744073709551615 x y"
    have split : words = ["rollback", "+0018446744073709551615", "x", "y"] :=
      (Text.words_eq_iff.mpr spaced).symm.trans (by decide +kernel)
    have counts : Counts "+0018446744073709551615".toList 18446744073709551615 :=
      Text.count?_eq_some_iff.mp (by decide +kernel)
    rw [refused, split]
    exact .surplusBehind .rollback counts
  · obtain ⟨words, spaced, -, refused⟩ := grammar "rollback 18446744073709551616 x"
    have split : words = ["rollback", "18446744073709551616", "x"] :=
      (Text.words_eq_iff.mpr spaced).symm.trans (by decide +kernel)
    rw [refused, split]
    exact .argument .rollback (Text.count?_eq_none_iff.mp (by decide +kernel))
  · exact letters _ _ (Text.lower_eq_iff.mp (by decide +kernel))
  · have spaced {line : String} (words : Text.words line = ["states"]) :=
      Text.words_eq_iff.mp words
    exact layouts _ _ _ (spaced (by decide +kernel)) (spaced (by decide +kernel))
  · refine typed (.rollback 18446744073709551615) _ ?_ (Text.words_eq_iff.mp (by decide +kernel))
    intro n given
    cases given
    decide

end RegisterMachine.OperatorCommand
