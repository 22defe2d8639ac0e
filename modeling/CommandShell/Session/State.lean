import CommandShell.Alias.Store
import CommandShell.Environment
import CommandShell.Line.Expansion

/-!
# The State of a Session

What a session knows while it runs lines: its variables and aliases, the
status of the last command, and the line at work with its number, which every
diagnostic names. Once `exit` has been run the state holds the code to leave
with, and no further command runs.

## Main definitions

* `State`: What a session knows.
* `State.beginLine`: The state at the start of a line.
* `State.diagnostic`: A complaint of the running command.
* `State.parameters`: The values that words can refer to.
* `State.expandWords`: The words of a command as they are run.
-/

namespace CommandShell

open Line

/-- What a session knows. -/
structure State where
  /-- The name under which the shell was started. -/
  programName : String
  /-- The line at work, or the last one. -/
  line : String
  /-- The first word of the command at work, after expansion. -/
  leading : String
  /-- The number of lines begun so far. -/
  counter : Nat
  /-- The words of the command at work. -/
  tokens : List String
  environment : Environment
  aliases : Aliases
  status : Int
  pid : Nat
  /-- The code to leave with, once that has been asked for. -/
  exitRequest : Option Int
deriving DecidableEq

namespace State

/-- The state in which a session begins. -/
def initial (programName : String) (environment : Environment) (pid : Nat) : State :=
  { programName := programName
    line := ""
    leading := ""
    counter := 0
    tokens := []
    environment := environment
    aliases := Aliases.empty
    status := 0
    pid := pid
    exitRequest := none }

/-- The state at the start of a line. -/
def beginLine (s : State) (line : String) : State :=
  { s with
    line := line
    leading := ""
    counter := s.counter + 1
    tokens := [] }

/-- A complaint of the running command: who complains, in which line, about which command,
    and why. -/
def diagnostic (s : State) (reason : String) : String :=
  s.programName ++ ": " ++ toString s.counter ++ ": " ++ s.leading ++ ": " ++ reason

/-- The values that words can refer to. -/
def parameters (s : State) : Parameters :=
  { status := s.status
    pid := s.pid
    value? := s.environment.get? }

/-- The words of a command as they are run: values are put in, words that became empty are
    dropped, and the first word is replaced if it is an alias. -/
def expandWords (s : State) (words : List String) : List String :=
  s.aliases.substitute ((words.map s.parameters.expand).filter (· ≠ ""))

end State

end CommandShell
