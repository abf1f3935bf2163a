import RegisterMachine.Debug.Settings
import RegisterMachine.Json.Fields

/-!
# Settings in JSON

A settings file holds an object whose keys are all optional, or an array of the
first few settings in order. A key that is not known is refused, so that a
misspelling does not go unnoticed.
-/

namespace RegisterMachine.Settings

/-- The keys of the settings, in order. -/
def jsonKeys : List String :=
  ["maxInstructions", "logging", "debug", "timeoutSeconds", "numOfLinesLogged"]

/-- A binary number; integers count. -/
def binary? : Json → Option Binary64
  | .number n => n.toBinary64?
  | _ => none

/-- Reads a field, or takes the default when there is none. -/
def orDefault {α : Type} (read : Json → Option α) (default : α) : Option Json → Option α
  | none => some default
  | some j => read j

/-- Reads settings; what is missing keeps its default. -/
def ofJson? (j : Json) : Option Settings :=
  match j.optionalFields? jsonKeys with
  | some [limit, logging, interactive, delay, rows] => do
    let base : Settings := {}
    return {
      instructionLimit := ← orDefault Json.count? base.instructionLimit limit
      logging := ← orDefault Json.bool? base.logging logging
      interactive := ← orDefault Json.bool? base.interactive interactive
      delaySeconds := ← orDefault binary? base.delaySeconds delay
      frameRows := ← orDefault Json.count? base.frameRows rows }
  | _ => none

/-- Reads the text of a settings file. -/
def ofText? (s : String) : Option Settings := (Json.parse? s).bind ofJson?

end RegisterMachine.Settings
