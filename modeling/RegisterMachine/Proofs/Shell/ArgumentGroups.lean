import Mathlib.Data.List.Perm.Basic
import RegisterMachine.Proofs.Text.Decimal
import RegisterMachine.Proofs.Text.Encoding
import RegisterMachine.Shell.Arguments

/-!
# Arguments in any order

The arguments of a run come in groups: the program, an option with its value, or a flag.

* `Group.arguments`: the arguments of a group, in either spelling of its option.
* `RunRequest.ToldBy groups`: the groups tell the request, whatever their order.  All but the
  flags come once; every request is told by groups (`RunRequest.exists_toldBy`).
* `RunDraft.fill_group`: a group is taken as a whole, with any arguments behind it.  An option
  takes its value whatever the value looks like.
* `RunDraft.Told`: the invariant of the reader.  What the draft holds and what the groups to
  come tell make up the request.
* `RunRequest.ofArguments_groups`: so the groups are read as the request that they tell, in
  every order.
-/

namespace RegisterMachine

open Text (Bytes)

/-! ## Groups -/

/-- Most options have a long and a short name. -/
inductive Spelling where
  | long | short
  deriving DecidableEq, Repr

/-- The name of an option in a spelling. -/
def Spelling.name (long short : String) : Spelling → String
  | .long => long
  | .short => short

/-- Arguments of a run that belong together. -/
inductive Group where
  | program (path : Bytes)
  | input (spelling : Spelling) (path : Bytes)
  | tape (spelling : Spelling) (values : String)
  | settings (spelling : Spelling) (path : Bytes)
  | limit (n : Nat)
  | debug (spelling : Spelling)
  | logging (spelling : Spelling)
  | verbose (spelling : Spelling)
  deriving DecidableEq, Repr

namespace Group

/-- The arguments of a group.  A value stands right behind the name of its option. -/
def arguments : Group → List Bytes
  | program path => [path]
  | input spelling path => [Text.encode (spelling.name "--input" "-i"), path]
  | tape spelling values => [Text.encode (spelling.name "--tape" "-t"), Text.encode values]
  | settings spelling path => [Text.encode (spelling.name "--config" "-c"), path]
  | limit n => [Text.encode "--max-instructions", Text.encode (toString n)]
  | debug spelling => [Text.encode (spelling.name "--debug" "-d")]
  | logging spelling => [Text.encode (spelling.name "--logging" "-l")]
  | verbose spelling => [Text.encode (spelling.name "--verbose" "-v")]

/-- The program that a group names. -/
def program? : Group → Option Bytes
  | program path => some path
  | _ => none

/-- The tape that a group gives. -/
def tape? : Group → Option TapeSource
  | input _ path => some (.file path)
  | tape _ values => some (.inline values)
  | _ => none

/-- The settings file that a group names. -/
def settings? : Group → Option Bytes
  | settings _ path => some path
  | _ => none

/-- The limit that a group gives. -/
def limit? : Group → Option Nat
  | limit n => some n
  | _ => none

/-- Whether the group asks for prompts. -/
def isDebug : Group → Bool
  | debug _ => true
  | _ => false

/-- Whether the group asks for frames. -/
def isLogging : Group → Bool
  | logging _ => true
  | _ => false

/-- Whether the group asks for the log. -/
def isVerbose : Group → Bool
  | verbose _ => true
  | _ => false

end Group

/-- The groups tell the request: one group names the program, one gives the tape if there is one,
and so on, and one or more stand for each flag that is set. -/
structure RunRequest.ToldBy (r : RunRequest) (groups : List Group) : Prop where
  program : groups.filterMap Group.program? = [r.program]
  tape : groups.filterMap Group.tape? = r.tape.toList
  settings : groups.filterMap Group.settings? = r.settings.toList
  limit : groups.filterMap Group.limit? = r.overrides.instructionLimit.toList
  debug : groups.any Group.isDebug = r.overrides.interactive
  logging : groups.any Group.isLogging = r.overrides.logging
  verbose : groups.any Group.isVerbose = r.verbose

/-- A permutation of no more than one item is no other list. -/
theorem eq_toList_of_perm {α : Type} {items : List α} {o : Option α} (perm : items.Perm o.toList) :
    items = o.toList := by
  cases o with
  | none => exact List.perm_nil.mp perm
  | some x => exact List.perm_singleton.mp perm

/-- The order of the groups does not matter to what they tell. -/
theorem RunRequest.ToldBy.of_perm {r : RunRequest} {groups ordering : List Group}
    (told : r.ToldBy groups) (perm : ordering.Perm groups) : r.ToldBy ordering where
  program := List.perm_singleton.mp (told.program ▸ perm.filterMap _)
  tape := eq_toList_of_perm (told.tape ▸ perm.filterMap _)
  settings := eq_toList_of_perm (told.settings ▸ perm.filterMap _)
  limit := eq_toList_of_perm (told.limit ▸ perm.filterMap _)
  debug := perm.any_eq.trans told.debug
  logging := perm.any_eq.trans told.logging
  verbose := perm.any_eq.trans told.verbose

/-! ## Taking a group -/

/-- A text with no hyphen in front is the name of no option. -/
theorem RunOption.lookup_names_eq_none {name : String} (plain : looksLikeOption name = false) :
    names.lookup name = none := by
  refine List.lookup_eq_none_iff.mpr fun entry member => ?_
  have hyphens : names.all fun entry => looksLikeOption entry.1 := by decide +kernel
  refine bne_iff_ne.mpr ?_
  rintro rfl
  simpa [plain] using List.all_eq_true.mp hyphens entry member

/-- The byte of a hyphen. -/
def hyphen : UInt8 := 0x2D

theorem looksLikeOption_decodeLossy {path : Bytes} (plain : path.head? ≠ some hyphen) :
    looksLikeOption (Text.decodeLossy path) = false := by
  refine decide_eq_false fun begins => plain ?_
  exact (Text.head?_decodeLossy_eq_some_iff (by decide) (by decide)).mp begins

namespace RunDraft

variable {d : RunDraft} {g : Group} {groups : List Group} {r : RunRequest}

/-- The draft with what a group tells. -/
def take (d : RunDraft) : Group → RunDraft
  | .program path => { d with program := some path }
  | .input _ path => { d with tape := some (.file path) }
  | .tape _ values => { d with tape := some (.inline values) }
  | .settings _ path => { d with settings := some path }
  | .limit n => { d with overrides := { d.overrides with instructionLimit := some n } }
  | .debug _ => { d with overrides := { d.overrides with interactive := true } }
  | .logging _ => { d with overrides := { d.overrides with logging := true } }
  | .verbose _ => { d with verbose := true }

/-- The group may be told to the draft: no second program and no second tape, and the limit is a
machine word. -/
def Admits (d : RunDraft) : Group → Prop
  | .program path => path.head? ≠ some hyphen ∧ d.program = none
  | .input .. | .tape .. => d.tape = none
  | .limit n => n < wordBound
  | _ => True

/-- An option takes the argument behind it as its value. -/
theorem fill_value {d' : RunDraft} {name : String} {value : Bytes} (option : RunOption)
    (named : RunOption.names.lookup name = some option)
    (valued : option ∈ [.input, .tape, .config, .maxInstructions])
    (fresh : givesTape option = true → d.tape = none)
    (taken : d.withValue option value = .ok d') (rest : List Bytes) :
    d.fill (Text.encode name :: value :: rest) = d'.fill rest := by
  have once : (givesTape option && d.tape.isSome) = false := by
    cases gives : givesTape option with
    | false => rfl
    | true => simp [fresh gives]
  rw [fill, Text.decodeLossy_encode, named]
  simp only [List.mem_cons, List.not_mem_nil, or_false] at valued
  rcases valued with rfl | rfl | rfl | rfl <;> simp [once, taken]

/-- A group is taken as a whole. -/
theorem fill_group (admits : d.Admits g) (rest : List Bytes) :
    d.fill (g.arguments ++ rest) = (d.take g).fill rest := by
  cases g with
  | program path =>
    obtain ⟨plain, first⟩ := admits
    have text := looksLikeOption_decodeLossy plain
    simp [Group.arguments, fill, RunOption.lookup_names_eq_none text, withProgram, text, first,
      take]
  | input spelling path =>
    refine fill_value .input ?_ (by decide) (fun _ => admits) rfl rest
    cases spelling <;> decide +kernel
  | tape spelling values =>
    refine fill_value .tape ?_ (by decide) (fun _ => admits) ?_ rest
    · cases spelling <;> decide +kernel
    · rw [withValue, Text.decodeLossy_encode, take]
  | settings spelling path =>
    refine fill_value .config ?_ (by decide) (fun gives => by cases gives) rfl rest
    cases spelling <;> decide +kernel
  | limit n =>
    refine fill_value .maxInstructions (by decide +kernel) (by decide)
      (fun gives => by cases gives) ?_ rest
    rw [withValue, Text.decodeLossy_encode,
      Text.count?_eq_some_iff.mpr (Text.counts_toString admits), take]
  | debug spelling =>
    have named : RunOption.names.lookup (spelling.name "--debug" "-d") = some .debug := by
      cases spelling <;> decide +kernel
    simp [Group.arguments, fill, Text.decodeLossy_encode, named, take]
  | logging spelling =>
    have named : RunOption.names.lookup (spelling.name "--logging" "-l") = some .logging := by
      cases spelling <;> decide +kernel
    simp [Group.arguments, fill, Text.decodeLossy_encode, named, take]
  | verbose spelling =>
    have named : RunOption.names.lookup (spelling.name "--verbose" "-v") = some .verbose := by
      cases spelling <;> decide +kernel
    simp [Group.arguments, fill, Text.decodeLossy_encode, named, take]

/-! ## Taking all groups -/

/-- What the draft holds and what the groups tell is the request. -/
structure Told (d : RunDraft) (groups : List Group) (r : RunRequest) : Prop where
  program : d.program.toList ++ groups.filterMap Group.program? = [r.program]
  tape : d.tape.toList ++ groups.filterMap Group.tape? = r.tape.toList
  settings : d.settings.toList ++ groups.filterMap Group.settings? = r.settings.toList
  limit : d.overrides.instructionLimit.toList ++ groups.filterMap Group.limit? =
    r.overrides.instructionLimit.toList
  debug : (d.overrides.interactive || groups.any Group.isDebug) = r.overrides.interactive
  logging : (d.overrides.logging || groups.any Group.isLogging) = r.overrides.logging
  verbose : (d.verbose || groups.any Group.isVerbose) = r.verbose

/-- Of what comes once, an item to come is the only one. -/
theorem only_of_toList_append {α : Type} {o : Option α} (whole : Option α) {x : α} {xs : List α}
    (all : o.toList ++ x :: xs = whole.toList) : o = none ∧ whole = some x ∧ xs = [] := by
  cases o <;> cases whole <;> simp_all

/-- Of what comes once, an item to come may be taken. -/
theorem toList_append_of_cons {α : Type} {o : Option α} (whole : Option α) {x : α} {xs : List α}
    (all : o.toList ++ x :: xs = whole.toList) : (some x).toList ++ xs = whole.toList := by
  obtain ⟨-, rfl, rfl⟩ := only_of_toList_append whole all
  rfl

theorem or_or_of_true {flag set whole : Bool} (all : (flag || (true || set)) = whole) :
    (true || set) = whole := by
  rw [← all, Bool.true_or, Bool.or_true]

theorem Told.admits (told : d.Told (g :: groups) r) (plain : r.program.head? ≠ some hyphen)
    (fits : ∀ n ∈ r.overrides.instructionLimit, n < wordBound) : d.Admits g := by
  cases g with
  | program path =>
    obtain ⟨first, same, -⟩ := only_of_toList_append (some r.program) told.program
    cases same
    exact ⟨plain, first⟩
  | input spelling path => exact (only_of_toList_append r.tape told.tape).1
  | tape spelling values => exact (only_of_toList_append r.tape told.tape).1
  | limit n => exact fits n (only_of_toList_append _ told.limit).2.1
  | settings | debug | logging | verbose => trivial

/-- What a group tells goes over to the draft. -/
theorem Told.take (told : d.Told (g :: groups) r) : (d.take g).Told groups r := by
  cases g with
  | program path =>
    exact { told with program := toList_append_of_cons (some r.program) told.program }
  | input spelling path => exact { told with tape := toList_append_of_cons r.tape told.tape }
  | tape spelling values => exact { told with tape := toList_append_of_cons r.tape told.tape }
  | settings spelling path =>
    exact { told with settings := toList_append_of_cons r.settings told.settings }
  | limit n => exact { told with limit := toList_append_of_cons _ told.limit }
  | debug spelling => exact { told with debug := or_or_of_true told.debug }
  | logging spelling => exact { told with logging := or_or_of_true told.logging }
  | verbose spelling => exact { told with verbose := or_or_of_true told.verbose }

theorem Told.finish (told : d.Told [] r) : d.finish = .ok r := by
  have held {α : Type} {o whole : Option α} (all : o.toList ++ [] = whole.toList) : o = whole := by
    cases o <;> cases whole <;> simp_all
  have set {flag whole : Bool} (all : (flag || [].any Group.isDebug) = whole) : flag = whole := by
    rwa [List.any_nil, Bool.or_false] at all
  have program : d.program = some r.program := held told.program
  have overrides : d.overrides = r.overrides :=
    calc d.overrides
        = ⟨d.overrides.interactive, d.overrides.logging, d.overrides.instructionLimit⟩ := rfl
      _ = ⟨r.overrides.interactive, r.overrides.logging, r.overrides.instructionLimit⟩ := by
          rw [set told.debug, set told.logging, held told.limit]
  rw [RunDraft.finish, program]
  simp only [held told.tape, held told.settings, overrides, set told.verbose]

/-- The groups fill the draft up to the request. -/
theorem Told.fill (told : d.Told groups r) (plain : r.program.head? ≠ some hyphen)
    (fits : ∀ n ∈ r.overrides.instructionLimit, n < wordBound) :
    ∃ d', d.fill (groups.flatMap Group.arguments) = .ok d' ∧ d'.finish = .ok r := by
  induction groups generalizing d with
  | nil => exact ⟨d, rfl, told.finish⟩
  | cons g groups ih =>
    rw [List.flatMap_cons, fill_group (told.admits plain fits)]
    exact ih told.take

end RunDraft

namespace RunRequest

/-- Every request is told by groups. -/
theorem exists_toldBy (r : RunRequest) : ∃ groups, r.ToldBy groups := by
  obtain ⟨path, tape, settings, ⟨interactive, logging, limit⟩, verbose⟩ := r
  have bare : ToldBy { program := path } [.program path] := ⟨rfl, rfl, rfl, rfl, rfl, rfl, rfl⟩
  obtain ⟨groups, told⟩ : ∃ groups, ToldBy { program := path, tape } groups := by
    rcases tape with _ | file | values
    · exact ⟨[.program path], bare⟩
    · exact ⟨[.input .long file, .program path], { bare with tape := rfl }⟩
    · exact ⟨[.tape .long values, .program path], { bare with tape := rfl }⟩
  obtain ⟨groups, told⟩ : ∃ groups, ToldBy { program := path, tape, settings } groups := by
    rcases settings with _ | file
    · exact ⟨groups, told⟩
    · exact ⟨.settings .long file :: groups,
        { told with settings := congrArg (file :: ·) told.settings }⟩
  obtain ⟨groups, told⟩ : ∃ groups,
      ToldBy ⟨path, tape, settings, { instructionLimit := limit }, false⟩ groups := by
    rcases limit with _ | n
    · exact ⟨groups, told⟩
    · exact ⟨.limit n :: groups, { told with limit := congrArg (n :: ·) told.limit }⟩
  obtain ⟨groups, told⟩ : ∃ groups,
      ToldBy ⟨path, tape, settings, ⟨interactive, false, limit⟩, false⟩ groups := by
    cases interactive
    · exact ⟨groups, told⟩
    · exact ⟨.debug .long :: groups, { told with debug := rfl }⟩
  obtain ⟨groups, told⟩ : ∃ groups,
      ToldBy ⟨path, tape, settings, ⟨interactive, logging, limit⟩, false⟩ groups := by
    cases logging
    · exact ⟨groups, told⟩
    · exact ⟨.logging .long :: groups, { told with logging := rfl }⟩
  cases verbose
  · exact ⟨groups, told⟩
  · exact ⟨.verbose .long :: groups, { told with verbose := rfl }⟩

/-- Every request has groups that tell it, and groups are read as the request that they tell, in
whatever order they stand. -/
theorem ofArguments_groups {r : RunRequest} (plain : r.program.head? ≠ some hyphen)
    (fits : ∀ n ∈ r.overrides.instructionLimit, n < wordBound) :
    (∃ groups, r.ToldBy groups) ∧
    ∀ groups ordering : List Group, r.ToldBy groups → ordering.Perm groups →
      ofArguments (ordering.flatMap Group.arguments) = .ok r := by
  refine ⟨r.exists_toldBy, fun groups ordering told perm => ?_⟩
  have told : RunDraft.Told {} ordering r := by
    obtain ⟨program, tape, settings, limit, debug, logging, verbose⟩ := told.of_perm perm
    exact ⟨program, tape, settings, limit, debug, logging, verbose⟩
  obtain ⟨d, filled, finished⟩ := told.fill plain fits
  simp only [ofArguments, filled, finished]

/-- Values that look like options, a flag in both spellings, and the largest limit. -/
theorem ofArguments_groups_misleading :
    let r : RunRequest :=
      { program := Text.encode "größe.ram", tape := some (.inline "--help")
        settings := some (Text.encode "-t")
        overrides := { interactive := true, instructionLimit := some (wordBound - 1) }
        verbose := true }
    let groups : List Group :=
      [.verbose .short, .program r.program, .debug .long, .settings .short (Text.encode "-t"),
        .limit (wordBound - 1), .tape .long "--help", .debug .short]
    r.program.head? ≠ some hyphen ∧ (∀ n ∈ r.overrides.instructionLimit, n < wordBound) ∧
      r.ToldBy groups ∧ groups.reverse.Perm groups ∧
      groups.reverse.flatMap Group.arguments =
        ["-d", "--tape", "--help", "--max-instructions", "18446744073709551615", "-c", "-t",
          "--debug", "größe.ram", "-v"].map Text.encode ∧
      ofArguments (groups.reverse.flatMap Group.arguments) = .ok r := by
  intro r groups
  have plain : r.program.head? ≠ some hyphen := by decide +kernel
  have fits : ∀ n ∈ r.overrides.instructionLimit, n < wordBound := by
    rintro n ⟨⟩
    decide
  have told : r.ToldBy groups := ⟨rfl, rfl, rfl, rfl, rfl, rfl, rfl⟩
  have perm : groups.reverse.Perm groups := List.reverse_perm groups
  exact ⟨plain, fits, told, perm, by decide +kernel,
    (ofArguments_groups plain fits).2 groups groups.reverse told perm⟩

end RunRequest

end RegisterMachine
