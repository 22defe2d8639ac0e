import CommandShell.File.Tree
import CommandShell.Interrupt
import CommandShell.Session.Journal
import CommandShell.Session.State

/-!
# Sessions

A session is the state of a shell together with the directory where it stands,
its watch over interrupts and its journal. It runs on a machine, which does
not change while lines are run: the files, the home directory of the account,
and the spawner that answers when a program is to be run.

## Main definitions

* `Machine`: What a session runs on.
* `Machine.bare`: A machine without files.
* `Session`: A shell at work.
* `Session.fresh`: A session in which nothing was done yet.
* `Session.print`: A text goes to the standard output.
* `Session.report`: A diagnostic goes to the standard error.
* `Session.spawn`: A program is run and waited for.

## Theorems

* `state_write`, `state_complain`, `state_spawn`: What happens on the streams
  and in programs leaves the state as it is.
-/

namespace CommandShell

open Child

/-- What a session runs on. -/
structure Machine where
  files : File.Tree
  /-- The home directory of the account. -/
  accountHome : Option File.RawPath
  spawner : Spawner

/-- A machine without files and without an account's home. -/
def Machine.bare (spawner : Spawner) : Machine :=
  { files := File.Tree.empty
    accountHome := none
    spawner := spawner }

/-- A shell at work. -/
structure Session where
  state : State
  directory : File.Location
  monitor : Interrupt.Monitor
  journal : Journal

namespace Session

/-- A session in which nothing was done yet, on streams that take everything. -/
def fresh (environment : Environment) : Session :=
  { state := State.initial "sh" environment 1
    directory := []
    monitor := Interrupt.Monitor.new
    journal := Journal.new none none }

/-- The session after a text was handed to a stream, and whether that failed. -/
def write (s : Session) (stream : Stream) (text : String) :
    Session × Except SystemError Unit :=
  let (journal, result) := s.journal.write stream text
  ({ s with journal := journal }, result)

/-- A text goes to the standard output. -/
def print (s : Session) (text : String) : Session × Except SystemError Unit :=
  s.write .standardOutput text

/-- Texts go to the standard output one after the other, up to the first that
    fails. -/
def printAll (s : Session) : List String → Session × Except SystemError Unit
  | [] => (s, .ok ())
  | text :: more =>
      match s.print text with
      | (s, .ok ()) => s.printAll more
      | (s, .error e) => (s, .error e)

/-- A diagnostic of the running command goes to the standard error. -/
def report (s : Session) (reason : String) : Session × Except SystemError Unit :=
  s.write .standardError (s.state.diagnostic reason ++ "\n")

/-- A diagnostic of which nobody asks whether it could be written. -/
def complain (s : Session) (reason : String) : Session :=
  (s.report reason).1

/-- A program is run and waited for. Interrupts that arrive meanwhile are meant
    for the program. -/
def spawn (m : Machine) (s : Session) (request : Request) :
    Session × Except Failure Outcome :=
  let answer := m.spawner s.journal.requests request
  let running := s.monitor.enter
  let watched := if answer.interrupts then running.raise else running
  ({ s with
      monitor := watched.leave
      journal := s.journal.add (.ran request answer) },
    answer.result)

@[simp]
theorem state_write (s : Session) (stream : Stream) (text : String) :
    (s.write stream text).1.state = s.state := rfl

@[simp]
theorem directory_write (s : Session) (stream : Stream) (text : String) :
    (s.write stream text).1.directory = s.directory := rfl

@[simp]
theorem monitor_write (s : Session) (stream : Stream) (text : String) :
    (s.write stream text).1.monitor = s.monitor := rfl

@[simp]
theorem state_complain (s : Session) (reason : String) :
    (s.complain reason).state = s.state := rfl

@[simp]
theorem state_spawn (m : Machine) (s : Session) (request : Request) :
    (spawn m s request).1.state = s.state := rfl

end Session

end CommandShell
