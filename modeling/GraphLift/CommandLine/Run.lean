import GraphLift.CommandLine.Options
import GraphLift.Library.Builtin

/-! # Running a command line

    A command line ends in one of four ways.

    * **Early**: help was asked for, or the arguments are unusable.
    * **Finished**: there is a document, which is printed unless it was saved.
    * **Failed**: the input is at fault; the failure is reported as an error.
    * **Broken off**: a value of the wrong shape was met where nothing checks for it, or something that a run
      relies on is not there.
-/

namespace GraphLift

namespace CommandLine

/-- How a command line ends. -/
inductive Ending where
  | stopped (why : Stop)
  | finished (product : Product)
  | failed (why : Failure)
  | brokenOff (why : Failure)

/-- What a command line comes to: what is reported and how it ends. -/
structure Outcome where
  records : List Record
  ending : Ending

/-- The failure is one that is reported as a fault of the input. -/
def isReported : Failure → Bool
  | .config _ | .mapping _ | .value _ | .file _ | .decode _ | .json _ => true
  | .shape _ | .encoding _ | .noHome _ | .unwritable _ => false

variable [Library]

/-- Runs a command. -/
def Command.run (c : Command) (env : Environment) (fs : Files) : Traced Product :=
  match c with
  | .exporting r => fs.runExport env r
  | .mapping r => fs.runMap r

/-- Runs a command line. -/
def run (env : Environment) (fs : Files) (arguments : List String) : Outcome :=
  match Options.parse arguments with
  | .error why => ⟨[], .stopped why⟩
  | .ok o =>
    let run := o.command.run env fs
    ⟨run.records.filter (·.isSeen o.threshold),
      match run.outcome with
      | .ok product => .finished product
      | .error why => if isReported why then .failed why else .brokenOff why⟩

section

variable {env : Environment} {fs : Files} {arguments : List String} {o : Options}
  (hparse : Options.parse arguments = .ok o)

include hparse

/-- A command that comes out well finishes the command line. -/
theorem ending_of_ok {p : Product} (hrun : (o.command.run env fs).outcome = .ok p) :
    (run env fs arguments).ending = .finished p := by
  simp only [run, hparse, hrun]

/-- A command that fails ends the command line in one of two ways. -/
theorem ending_of_error {why : Failure} (hrun : (o.command.run env fs).outcome = .error why) :
    (run env fs arguments).ending = if isReported why then .failed why else .brokenOff why := by
  simp only [run, hparse, hrun]

end

/-- The exit code of an ending; there is none when a run is broken off. -/
def Ending.exitCode? : Ending → Option Nat
  | .stopped .help => some 0
  | .stopped .usage => some 2
  | .finished _ => some 0
  | .failed _ => some 1
  | .brokenOff _ => none

/-- What is printed: the text of a document that was not saved. -/
def Ending.output : Ending → String
  | .finished p => if p.saved.isNone then p.document.text else ""
  | _ => ""

end CommandLine

end GraphLift
