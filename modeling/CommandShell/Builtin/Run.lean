import CommandShell.Builtin.Alias
import CommandShell.Builtin.ChangeDirectory
import CommandShell.Builtin.Exit
import CommandShell.Builtin.Help
import CommandShell.Builtin.Variables

/-!
# Running a Builtin

The words after a builtin's name are its arguments. A builtin ends with a
status or with an error; an error is reported and leaves the status of its
kind, whether or not the report could be written.

## Main definitions

* `execute`: What a builtin does.
* `run`: What it does, and the status it leaves.
-/

namespace CommandShell

namespace Builtin

/-- What a builtin does when it is called with some arguments. -/
def execute (m : Machine) : Builtin → List String → Session → Session × Except Error Int
  | .exit => runExit
  | .changeDirectory => runChangeDirectory m
  | .listVariables => runListVariables
  | .setVariable => runSetVariable
  | .unsetVariables => runUnsetVariables
  | .help => runHelp
  | .defineAliases => runDefineAliases
  | .removeAliases => runRemoveAliases

/-- A builtin is run, and an error that it ends with is reported. -/
def run (m : Machine) (b : Builtin) (args : List String) (s : Session) : Session × Int :=
  match b.execute m args s with
  | (s, .ok status) => (s, status)
  | (s, .error e) => (s.complain e.message, e.status)

end Builtin

end CommandShell
