/-!
# Interrupts

An interrupt from the keyboard is noted and looked at later, when the shell is
about to read a line. While a program runs the interrupt is meant for the
program, so what has been noted is dropped when the program ends. A monitor
that is not installed notes nothing.

## Main definitions

* `Activity`: What the shell is doing.
* `Monitor`: The state of the interrupt handling.
* `Monitor.raise`: An interrupt arrives.
* `Monitor.poll`: A noted interrupt is taken, if the shell is idle.

## Theorems

* `poll_enter`: While a program runs no interrupt is taken.
* `poll_leave`: No interrupt survives the end of a program.
-/

namespace CommandShell

namespace Interrupt

/-- What the shell is doing. -/
inductive Activity where
  /-- It waits for a line or works on one by itself. -/
  | idle
  /-- It waits for a program. -/
  | running
deriving DecidableEq

/-- The state of the interrupt handling. -/
structure Monitor where
  installed : Bool
  pending : Bool
  activity : Activity
deriving DecidableEq

namespace Monitor

/-- A monitor that notes nothing yet. -/
def new : Monitor :=
  ⟨false, false, .idle⟩

/-- From now on interrupts are noted. -/
def install (m : Monitor) : Monitor :=
  { m with installed := true }

/-- An interrupt arrives. -/
def raise (m : Monitor) : Monitor :=
  if m.installed then { m with pending := true } else m

/-- A program starts. -/
def enter (m : Monitor) : Monitor :=
  { m with activity := .running }

/-- The program has ended; what was noted meanwhile was meant for it. -/
def leave (m : Monitor) : Monitor :=
  { m with activity := .idle, pending := false }

/-- Whether an interrupt was noted, and the monitor once it has been taken. -/
def poll (m : Monitor) : Bool × Monitor :=
  match m.activity with
  | .idle => (m.pending, { m with pending := false })
  | .running => (false, m)

theorem poll_enter (m : Monitor) : m.enter.poll = (false, m.enter) := rfl

theorem poll_leave (m : Monitor) : m.leave.poll = (false, m.leave) := rfl

end Monitor

end Interrupt

end CommandShell
