/-!
# Outcomes of Programs

A program ends with an exit code or is killed by a signal. The shell keeps
one number for either, the *status*: the code's residue modulo 256, or 128
more than the signal's number. The system reports an end as one word, of
which the low seven bits tell the two cases apart.

## Main definitions

* `Outcome`: How a program ended.
* `Outcome.status`: The status for an outcome.
* `Outcome.ofWaitStatus`: The outcome that the system reports.

## Theorems

* `Outcome.status_exited_range`: The status of an exit fits into a byte.
-/

namespace CommandShell

namespace Child

/-- The status for a command that could not be found. -/
def statusNotFound : Int := 127

/-- The status for a file that exists but cannot be run. -/
def statusNotExecutable : Int := 126

/-- The status for a program that could not be started or waited for. -/
def statusFailed : Int := 125

/-- The signal that an interrupt from the keyboard sends. -/
def interruptSignal : Int := 2

/-- How a program ended. -/
inductive Outcome where
  | exited (code : Int)
  | signaled (signal : Int)
deriving DecidableEq

/-- The status for an outcome. -/
def Outcome.status : Outcome → Int
  | .exited code => code % 256
  | .signaled signal => 128 + signal

/-- The outcome in a status word: bits 8 to 15 are the exit code if the low
    seven bits are zero, and otherwise these are the signal, unless all are
    one. -/
def Outcome.ofWaitStatus (word : Int) : Outcome :=
  let low := word % 128
  if low = 0 then .exited (word / 256 % 256)
  else if low = 127 then .exited statusFailed
  else .signaled low

/-- The status of an exit fits into a byte. -/
theorem Outcome.status_exited_range (code : Int) :
    0 ≤ (Outcome.exited code).status ∧ (Outcome.exited code).status < 256 := by
  simp only [Outcome.status]
  omega

end Child

end CommandShell
