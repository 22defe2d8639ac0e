import CommandShell.Environment
import CommandShell.File.Path
import CommandShell.Child.Failure

/-!
# Starting Programs

The shell does not run programs itself. It asks for one to be run, with its
arguments and its environment, and learns how it ended. The *spawner* that
answers may remember what it was asked before, so it is a function of the
requests made so far and the one at hand.

Besides the outcome, an answer tells what the program wrote to the streams
that it shares with the shell, and whether an interrupt reached the shell
while the program ran.

## Main definitions

* `Request`: A program that is to be run.
* `Answer`: What came of it.
* `Spawner`: The answers to requests.
* `Spawner.byName`: A spawner that looks at the program's name only.
-/

namespace CommandShell

namespace Child

open Text

/-- A program that is to be run. -/
structure Request where
  program : String
  /-- The words of the command; the first is the name that was typed. -/
  arguments : List String
  environment : Environment
  directory : File.Location
deriving DecidableEq

/-- What came of running a program. -/
structure Answer where
  /-- Whether the shell was interrupted meanwhile. -/
  interrupts : Bool
  /-- How the program ended, or why it could not be run. -/
  result : Except Failure Outcome
  /-- What the program wrote to the standard output. -/
  output : Bytes
  /-- What the program wrote to the standard error. -/
  diagnostics : Bytes

/-- The answer for a program that writes nothing and interrupts nobody. -/
def Answer.quiet (result : Except Failure Outcome) : Answer :=
  ⟨false, result, [], []⟩

/-- The answers to requests, given the requests made before. -/
abbrev Spawner := List Request → Request → Answer

/-- A spawner that answers by the file name of the program alone. -/
def Spawner.byName (answer : String → Answer) : Spawner :=
  fun _ request => answer (File.baseName request.program)

end Child

end CommandShell
