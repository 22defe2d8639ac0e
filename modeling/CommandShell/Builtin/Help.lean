import CommandShell.Builtin.Basic
import CommandShell.Session.Basic

/-!
# The Builtin `help`

An overview of the shell, or the use of one builtin. Arguments after the
first are ignored.

## Main definitions

* `overview`: The text without an argument.
* `usage`: The text for a builtin.
* `runHelp`: The builtin.
-/

namespace CommandShell

namespace Builtin

/-- What the shell can do. -/
def overview : String :=
  "\n".intercalate
    ["hsh: a small command interpreter",
      "",
      "Commands may be joined with `&&` (run if the previous one succeeded),",
      "`||` (run if it failed) and `;` (always run). `$?`, `$$` and `$NAME`",
      "are expanded before a command runs.",
      "",
      "Builtins:",
      "  exit [n]              leave the shell",
      "  cd [dir|-]            change the working directory",
      "  env                   print the environment",
      "  setenv NAME VALUE     set an environment variable",
      "  unsetenv NAME...      remove environment variables",
      "  alias [name[=value]]  define or print aliases",
      "  unalias NAME...       remove aliases",
      "  help [builtin]        show this text or help for one builtin",
      ""]

/-- How a builtin is used. -/
def usage : Builtin → String
  | .exit => "exit [n]\n\tExit the shell with status n, or with the status of the last command.\n"
  | .changeDirectory =>
      "cd [dir|-]\n\tChange the working directory to dir, to HOME without an argument,\n"
        ++ "\tor to the previous directory with `-`.\n"
  | .listVariables => "env\n\tPrint every environment variable as NAME=VALUE.\n"
  | .setVariable => "setenv NAME VALUE\n\tCreate or overwrite an environment variable.\n"
  | .unsetVariables => "unsetenv NAME...\n\tRemove environment variables.\n"
  | .defineAliases =>
      "alias [name[=value] ...]\n\tWithout arguments, list aliases. With name, print "
        ++ "that alias.\n\tWith name=value, define it.\n"
  | .removeAliases => "unalias NAME...\n\tRemove aliases.\n"
  | .help => "help [builtin]\n\tShow general help or help for one builtin.\n"

/-- The text that the arguments ask for. -/
def helpText : List String → Except Error String
  | [] => .ok overview
  | word :: _ =>
      match ofName? word with
      | some b => .ok b.usage
      | none => .error (.notFound ("no help topics match '" ++ word ++ "'"))

/-- A text of help is written out. -/
def runHelp (args : List String) (s : Session) : Session × Except Error Int :=
  match helpText args with
  | .error e => (s, .error e)
  | .ok text =>
      match s.print text with
      | (s, .ok ()) => (s, .ok 0)
      | (s, .error e) => (s, .error (.write e))

end Builtin

end CommandShell
