import CommandShell.Builtin.Basic
import CommandShell.Session.Basic

/-!
# The Builtins `env`, `setenv` and `unsetenv`

The variables of the session are listed in the order of their names, one
variable is set, or some are removed. A variable that is not set can be
removed without complaint.

## Main definitions

* `runListVariables`: The builtin `env`.
* `runSetVariable`: The builtin `setenv`.
* `runUnsetVariables`: The builtin `unsetenv`.
-/

namespace CommandShell

namespace Builtin

/-- The variables are written out. -/
def runListVariables (args : List String) (s : Session) : Session × Except Error Int :=
  if args.isEmpty then
    match s.printAll (s.state.environment.toList.map fun (name, value) =>
        name ++ "=" ++ value ++ "\n") with
    | (s, .ok ()) => (s, .ok 0)
    | (s, .error e) => (s, .error (.write e))
  else (s, .error (.invalidArguments "usage: env"))

/-- A variable is set. -/
def runSetVariable (args : List String) (s : Session) : Session × Except Error Int :=
  match args with
  | [name, value] =>
      match s.state.environment.set name value with
      | .ok env => ({ s with state.environment := env }, .ok 0)
      | .error e => (s, .error (.invalidArguments e.message))
  | _ => (s, .error (.invalidArguments "usage: setenv NAME VALUE"))

/-- Variables are removed. -/
def runUnsetVariables (args : List String) (s : Session) : Session × Except Error Int :=
  if args.isEmpty then (s, .error (.invalidArguments "usage: unsetenv NAME..."))
  else
    ({ s with state.environment := args.foldl Environment.unset s.state.environment }, .ok 0)

end Builtin

end CommandShell
