import CommandShell.Input.Source
import CommandShell.Session.Evaluation

/-!
# Reading and Running

A shell reads a line, runs it, and goes on until the input ends or the session
asks to end. Before each line it looks whether an interrupt was noted, and
begins a new line on the standard error if so. A user at a terminal is
prompted.

When the input ends, the status of the last command is the shell's result.
When the session has asked to end, it is the code that was asked for, and
nothing more is read.

## Main definitions

* `ShellError`: Why a shell stops working.
* `Shell`: A session with the source of its lines.
* `Shell.prepare`: What happens before a line is read.
* `Shell.run`: Lines are read and run to the end.

## Theorems

* `run_of_exitRequest`: A session that has asked to end reads nothing.
-/

namespace CommandShell

open Input

/-- Why a shell stops working. -/
inductive ShellError where
  /-- A line could not be edited. -/
  | editor (cause : EditorError)
  /-- Reading or writing failed. -/
  | transfer (cause : SystemError)
  | script (path : String) (cause : SystemError)
  /-- Processes could not be set up. -/
  | process (cause : Child.Failure)
  /-- The arguments of the command line make no sense. -/
  | options (reason : String)
deriving DecidableEq

/-- The words for why a shell stops working. -/
def ShellError.message : ShellError → String
  | .editor cause => "Readline error: " ++ cause.message
  | .transfer cause => "IO error: " ++ cause.message
  | .script path _ => "Can't open " ++ path
  | .process cause => "Process error: " ++ cause.message
  | .options reason => "Flag error: " ++ reason

/-- A line that could not be read stops the shell. -/
def ShellError.ofRead : Input.Failure → ShellError
  | .feed cause => .transfer cause
  | .editor cause => .editor cause

/-- A session with the source of its lines. -/
structure Shell where
  session : Session
  source : Source
  prompt : String

namespace Shell

/-- A noted interrupt is taken, and a new line is begun for what follows. -/
def takeInterrupt (s : Session) : Session × Except SystemError Unit :=
  let (due, monitor) := s.monitor.poll
  let polled := { s with monitor := monitor }
  if due then polled.write .standardError "\n" else (polled, .ok ())

/-- What happens before a line is read. -/
def prepare (sh : Shell) : Session × Except ShellError Unit :=
  match takeInterrupt sh.session with
  | (s, .error e) => (s, .error (.transfer e))
  | (s, .ok ()) =>
      if sh.source.isInteractive then
        match s.print sh.prompt with
        | (s, .ok ()) => (s, .ok ())
        | (s, .error e) => (s, .error (.editor (.transfer e)))
      else (s, .ok ())

/-- What happens when the input has come to its end. -/
def finish (s : Session) (interactive : Bool) : Session × Except ShellError Int :=
  if interactive then
    match s.print "\n" with
    | (s, .ok ()) => (s, .ok s.state.status)
    | (s, .error e) => (s, .error (.transfer e))
  else (s, .ok s.state.status)

/-- Lines are read and run to the end. -/
def run (m : Machine) (sh : Shell) : Shell × Except ShellError Int :=
  match sh.session.state.exitRequest with
  | some code => (sh, .ok code)
  | none =>
      match sh.prepare with
      | (s, .error e) => ({ sh with session := s }, .error e)
      | (s, .ok ()) =>
          match hread : sh.source.readLine with
          | (.error e, source) =>
              ({ sh with session := s, source := source }, .error (.ofRead e))
          | (.ok none, source) =>
              let (s, result) := finish s sh.source.isInteractive
              ({ sh with session := s, source := source }, result)
          | (.ok (some line), source) =>
              have : source.size < sh.source.size := Source.size_readLine_lt hread
              run m { sh with session := s.evalLine m line, source := source }
  termination_by sh.source.size

/-- A session that has asked to end reads nothing and does nothing. -/
theorem run_of_exitRequest (m : Machine) {sh : Shell} {code : Int}
    (h : sh.session.state.exitRequest = some code) : sh.run m = (sh, .ok code) := by
  rw [run, h]

end Shell

end CommandShell
