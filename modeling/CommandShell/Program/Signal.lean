import CommandShell.Text.Fields

/-!
# Signals

A signal has a number and a name. A process that does nothing about a signal
is killed by most of them; a few are ignored, and some suspend it until it is
told to go on.

## Main definitions

* `signalNames`: The names, from number 1 on.
* `signalNumber?`: The signal that a word means.
* `isFatal`: Whether a signal kills a process that does nothing about it.
-/

namespace CommandShell

namespace Program

/-- The names of the signals, from number 1 on. -/
def signalNames : List String :=
  ["HUP", "INT", "QUIT", "ILL", "TRAP", "ABRT", "BUS", "FPE", "KILL", "USR1", "SEGV", "USR2",
    "PIPE", "ALRM", "TERM", "STKFLT", "CHLD", "CONT", "STOP", "TSTP", "TTIN", "TTOU", "URG",
    "XCPU", "XFSZ", "VTALRM", "PROF", "WINCH", "IO", "PWR", "SYS"]

/-- The greatest number of a signal. -/
def maxSignal : Nat := 64

/-- The number that some decimal digits write. -/
def decimalValue (digits : List Char) : Nat :=
  digits.foldl (fun value c => value * 10 + (c.toNat - '0'.toNat)) 0

/-- The signal that a word means, by its number or by its name in upper or lower case; 0
    is no signal but a way to ask whether a process is there. -/
def signalNumber? (word : String) : Option Nat :=
  let cs := word.toList
  if !cs.isEmpty && cs.all Char.isDigit then
    if decimalValue cs ≤ maxSignal then some (decimalValue cs) else none
  else
    let upper := String.ofList (cs.map Char.toUpper)
    (signalNames.findIdx? (· = upper)).map (· + 1)

/-- Whether a signal kills a process that does nothing about it. The signals that suspend
    a process are left out along with those it ignores. -/
def isFatal (signal : Nat) : Bool :=
  !([0, 17, 18, 19, 20, 21, 22, 23, 28].contains signal)

end Program

end CommandShell
