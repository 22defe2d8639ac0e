import CommandShell.Program.Script

/-!
# Utilities

Small programs that a machine may come with, each of which makes one thing
visible that a program learns from the shell: its arguments, its variables,
and the process it was started by.

## Main definitions

* `Utility`: The programs.
* `Utility.content`: The text of a program.
-/

namespace CommandShell

namespace Program

/-- Small programs that a machine may come with. -/
inductive Utility where
  /-- Prints its arguments. -/
  | say
  /-- Exits with its first argument. -/
  | ret
  /-- Kills itself with the signal that its first argument names. -/
  | sig
  /-- Exits with the number of its arguments. -/
  | argc
  /-- Whether the variable of its first argument has the value of its second. -/
  | testenv
  /-- Whether the variable of its first argument is set. -/
  | hasenv
  /-- Interrupts the shell. -/
  | intparent
  /-- A script that does not name its interpreter. -/
  | noshebang
  /-- A script that names an interpreter that does not exist. -/
  | badinterp
deriving DecidableEq

namespace Utility

/-- The name of a utility. -/
def name : Utility → String
  | .say => "say"
  | .ret => "ret"
  | .sig => "sig"
  | .argc => "argc"
  | .testenv => "testenv"
  | .hasenv => "hasenv"
  | .intparent => "intparent"
  | .noshebang => "noshebang"
  | .badinterp => "badinterp"

/-- All utilities. -/
def all : List Utility :=
  [.say, .ret, .sig, .argc, .testenv, .hasenv, .intparent, .noshebang, .badinterp]

/-- The utility of a name. -/
def ofName? (word : String) : Option Utility :=
  all.find? fun u => u.name = word

/-- The commands of a utility. -/
def commands : Utility → List Command
  | .say => [.printArguments]
  | .ret => [.exitFirst]
  | .sig => [.signalSelf]
  | .argc => [.exitCount]
  | .testenv => [.readVariable, .compareRead]
  | .hasenv => [.testSet]
  | .intparent => [.interruptParent, .exitWith "4"]
  | .noshebang => [.exitWith "6"]
  | .badinterp => []

/-- The first line of a utility, which names its interpreter. -/
def header : Utility → String
  | .noshebang => ""
  | .badinterp => "#!/no/such/interpreter\n"
  | _ => "#!/bin/sh\n"

/-- The text of a utility. -/
def content (u : Utility) : String :=
  u.header ++ String.join (u.commands.map fun c => c.text ++ "\n")

end Utility

end Program

end CommandShell
