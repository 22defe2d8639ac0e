import CommandShell.File.Tree
import CommandShell.Program.Signal
import CommandShell.Child.Spawner

/-!
# Scripts of the Machine

The programs of a machine are scripts for its command interpreter. A script
is a list of commands, one in a line, and only a few commands are known: to
print the arguments, to exit, to send a signal, and to look at a variable. A
line that is none of them names a program that the machine does not have.

The interpreter imports the variables it is started with, and sets a few of
its own.

## Main definitions

* `Command`: What a line of a script does.
* `Command.text`: How a command is written.
* `Call`: A script that is to be run, with its arguments.
* `Call.value?`: The value of a variable in a script.
* `Call.run`: What comes of a script.
-/

namespace CommandShell

namespace Program

open Text Child

/-- What a line of a script does. -/
inductive Command where
  | printArguments
  | exitFirst
  | exitCount
  | exitWith (word : String)
  /-- The signal that the first argument names is sent to the script. -/
  | signalSelf
  /-- The process that started the script is interrupted. -/
  | interruptParent
  /-- The variable that the first argument names is read. -/
  | readVariable
  /-- The variable that was read is compared with the second argument. -/
  | compareRead
  /-- Whether the variable is set that the first argument names. -/
  | testSet
  /-- Nothing: the line is empty or a comment. -/
  | skip
  /-- A program that the machine does not have. -/
  | missing (word : String)
deriving DecidableEq

/-- How a command is written. -/
def Command.text : Command → String
  | .printArguments => "printf '%s\\n' \"$*\""
  | .exitFirst => "exit $1"
  | .exitCount => "exit $#"
  | .exitWith word => "exit " ++ word
  | .signalSelf => "kill -$1 $$"
  | .interruptParent => "kill -INT $PPID"
  | .readVariable => "eval v=\\\"\\$$1\\\""
  | .compareRead => "test \"$v\" = \"$2\""
  | .testSet => "eval test -n \\\"\\$\x7b$1+x\x7d\\\""
  | .skip => ""
  | .missing word => word

/-- The commands that are written in one way only. -/
def Command.fixed : List Command :=
  [.printArguments, .exitFirst, .exitCount, .signalSelf, .interruptParent, .readVariable,
    .compareRead, .testSet]

/-- Whether a character separates the words of a script. -/
def isScriptBlank (c : Char) : Bool :=
  c = ' ' || c = '\t' || c = '\n'

/-- The words of a text in a script. -/
def scriptWords (s : String) : List String :=
  (solidFields isScriptBlank s.toList).map String.ofList

/-- What a line of a script does. -/
def Command.ofLine (line : String) : Command :=
  match Command.fixed.find? fun c => c.text = line with
  | some c => c
  | none =>
      match scriptWords line with
      | [] => .skip
      | ["exit"] => .exitWith "0"
      | ["exit", word] => .exitWith word
      | word :: _ => if word.toList.head? = some '#' then .skip else .missing word

/-- A script that is to be run, with its arguments. -/
structure Call where
  files : File.Tree
  directory : File.Location
  path : String
  arguments : List String
  /-- The variables that the script is started with. -/
  imported : List (String × String)

/-- How far a script has come. -/
structure Progress where
  status : Int
  /-- The value that was read last. -/
  read : String
  output : String
  diagnostics : String
  interrupts : Bool

namespace Call

/-- The argument of a number, counted from zero; a missing one is empty. -/
def argument (call : Call) (n : Nat) : String :=
  call.arguments[n]?.getD ""

/-- The directory as the interpreter knows it: the value of `PWD` if that is an absolute
    path of the directory, and otherwise the path read back from the system. -/
def workingDirectory (call : Call) : String :=
  let actual := (call.files.currentPath? call.directory).getD ""
  match call.imported.lookup "PWD" with
  | some path =>
      match call.files.enter call.directory path with
      | .ok location =>
          if File.isAbsolute path && location = call.directory then path else actual
      | .error _ => actual
  | none => actual

/-- The value of a variable in the script. -/
def value? (call : Call) (name : String) : Option String :=
  match name with
  | "PWD" => some call.workingDirectory
  | "IFS" => some " \t\n"
  | "OPTIND" => some "1"
  | "PPID" => some "1"
  | "PATH" =>
      (call.imported.lookup name).or
        (some "/usr/local/sbin:/usr/local/bin:/usr/sbin:/usr/bin:/sbin:/bin")
  | "PS1" => (call.imported.lookup name).or (some "# ")
  | "PS2" => (call.imported.lookup name).or (some "> ")
  | "PS4" => (call.imported.lookup name).or (some "+ ")
  | _ => call.imported.lookup name

/-- Whether a character can stand in the name of a variable of a script. -/
def isVariableChar (c : Char) : Bool :=
  c.isAlphanum || c = '_'

/-- The value of a `$` before a word: that of the variable of the longest name at the
    word's start, and then the rest of the word. -/
def dollarValue (call : Call) (word : String) : String :=
  let cs := word.toList
  match cs with
  | [] => "$"
  | c :: rest =>
      -- A digit is a name by itself, so `$12` is the first argument and a 2.
      if c.isDigit then
        let n := c.toNat - '0'.toNat
        (if n = 0 then call.path else call.argument (n - 1)) ++ String.ofList rest
      else if isVariableChar c then
        let name := String.ofList (cs.takeWhile isVariableChar)
        (call.value? name).getD "" ++ String.ofList (cs.dropWhile isVariableChar)
      else "$" ++ word

/-- The greatest number that the interpreter takes for an exit code. -/
def maxExitNumber : Nat := 2147483647

/-- The number that a word writes, with a sign or without. -/
def exitNumber? (word : String) : Option Nat :=
  let digitsOf (cs : List Char) : Option Nat :=
    if !cs.isEmpty && cs.all Char.isDigit then some (decimalValue cs) else none
  let value :=
    match word.toList with
    | '+' :: cs => digitsOf cs
    | '-' :: cs => (digitsOf cs).filter (· = 0)
    | cs => digitsOf cs
  value.filter (· ≤ maxExitNumber)

/-- The line of an error in the `n`-th line of the script. -/
def errorLine (call : Call) (n : Nat) (reason : String) : String :=
  call.path ++ ": " ++ toString n ++ ": " ++ reason ++ "\n"

/-- The script ends at an error that cannot be survived. -/
def giveUp (call : Call) (n : Nat) (p : Progress) (reason : String) : Progress × Option Outcome :=
  ({ p with diagnostics := p.diagnostics ++ call.errorLine n reason }, some (.exited 2))

/-- The script exits, with the status of the last command or with a number. -/
def leave (call : Call) (n : Nat) (p : Progress) : List String → Progress × Option Outcome
  | [] => (p, some (.exited p.status))
  | word :: _ =>
      match exitNumber? word with
      | some code => (p, some (.exited (code % 256)))
      | none => call.giveUp n p ("exit: Illegal number: " ++ word)

/-- A signal is sent to the script itself. -/
def signal (call : Call) (n : Nat) (p : Progress) (word : String) : Progress × Option Outcome :=
  match signalNumber? word with
  | some number =>
      if isFatal number then (p, some (.signaled number)) else ({ p with status := 0 }, none)
  | none =>
      match word.toList with
      | [] => call.giveUp n p "kill: Illegal number: "
      | c :: _ => call.giveUp n p ("kill: Illegal option -" ++ String.singleton c)

/-- The status of a test. -/
def testStatus (holds : Bool) : Int :=
  if holds then 0 else 1

/-- The `n`-th line of the script is run; there is an outcome if it ends the script. -/
def perform (call : Call) (n : Nat) (p : Progress) : Command → Progress × Option Outcome
  | .printArguments =>
      ({ p with
          status := 0
          output := p.output ++ " ".intercalate call.arguments ++ "\n" }, none)
  | .exitFirst => call.leave n p (scriptWords (call.argument 0))
  | .exitCount => call.leave n p [toString call.arguments.length]
  | .exitWith word => call.leave n p [word]
  | .signalSelf => call.signal n p (((scriptWords (call.argument 0)).head?).getD "")
  | .interruptParent => ({ p with status := 0, interrupts := true }, none)
  | .readVariable => ({ p with status := 0, read := call.dollarValue (call.argument 0) }, none)
  | .compareRead => ({ p with status := testStatus (p.read = call.argument 1) }, none)
  | .testSet => ({ p with status := testStatus (call.value? (call.argument 0)).isSome }, none)
  | .skip => (p, none)
  | .missing word =>
      ({ p with
          status := 127
          diagnostics := p.diagnostics ++ call.errorLine n (word ++ ": not found") }, none)

/-- Commands are run up to the first that ends the script. -/
def performAll (call : Call) : Nat → Progress → List Command → Progress × Outcome
  | _, p, [] => (p, .exited p.status)
  | n, p, command :: more =>
      match call.perform n p command with
      | (p, some outcome) => (p, outcome)
      | (p, none) => performAll call (n + 1) p more

/-- What comes of a script with a given text. -/
def run (call : Call) (text : String) : Answer :=
  let (p, outcome) :=
    call.performAll 1 ⟨0, "", "", "", false⟩
      ((fields (· = '\n') text.toList).map fun line => Command.ofLine (String.ofList line))
  { interrupts := p.interrupts
    result := .ok outcome
    output := encode p.output
    diagnostics := encode p.diagnostics }

end Call

end Program

end CommandShell
