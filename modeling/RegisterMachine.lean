import RegisterMachine.Json.Forms
import RegisterMachine.Main
import RegisterMachine.Proofs.Debug.Trace
import RegisterMachine.Proofs.Debug.Transparency
import RegisterMachine.Proofs.Debug.Reachable
import RegisterMachine.Proofs.Debug.Timeline
import RegisterMachine.Proofs.Debug.Replay
import RegisterMachine.Proofs.Engine.Indirection
import RegisterMachine.Proofs.Ideal.Machine
import RegisterMachine.Proofs.Ideal.WordSteps
import RegisterMachine.Proofs.Ideal.Refinement
import RegisterMachine.Proofs.Debug.Simulation
import RegisterMachine.Proofs.Debug.Terminal
import RegisterMachine.Proofs.Debug.Termination
import RegisterMachine.Proofs.Debug.Events
import RegisterMachine.Proofs.Debug.Announcement
import RegisterMachine.Proofs.Debug.Limit
import RegisterMachine.Proofs.Language.Grammar
import RegisterMachine.Proofs.Language.SourceText
import RegisterMachine.Proofs.Json.StateForms
import RegisterMachine.Proofs.Shell.SilentRun
import RegisterMachine.Proofs.Shell.TapeText
import RegisterMachine.Proofs.Engine.Tapes
import RegisterMachine.Proofs.Engine.Budgets
import RegisterMachine.Proofs.Debug.Phases
import RegisterMachine.Proofs.Debug.Breakpoint
import RegisterMachine.Proofs.Debug.Endless
import RegisterMachine.Proofs.Debug.Interjection
import RegisterMachine.Proofs.Debug.OperatorGrammar
import RegisterMachine.Proofs.Debug.Redraw
import RegisterMachine.Proofs.Debug.Frame
import RegisterMachine.Proofs.Programs.Factorial
import RegisterMachine.Proofs.Shell.ArgumentGroups
import RegisterMachine.Proofs.Shell.AcceptedSettings
import RegisterMachine.Proofs.Json.Representation
