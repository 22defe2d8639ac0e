import CommandShell.Builtin.Basic
import CommandShell.Session.Basic

/-!
# The Builtin `exit`

The session is asked to end. The code to leave with is the status of the last
command, or the number that the first argument writes in decimal digits, of
which the residue modulo 256 is kept. Since the residue is taken digit by
digit, the number may have any length.

## Main definitions

* `decimalResidue`: The residue modulo 256 of a decimal number.
* `exitCode?`: The code that a word means.
* `runExit`: The builtin.

## Theorems

* `decimalResidue_lt`: A residue is less than 256.
-/

namespace CommandShell

namespace Builtin

/-- The value of a decimal digit. -/
def digitValue (c : Char) : Nat :=
  c.toNat - '0'.toNat

/-- The residue modulo 256 of the number that some digits write. -/
def decimalResidue (digits : List Char) : Nat :=
  digits.foldl (fun value c => (value * 10 + digitValue c) % 256) 0

/-- The code that a word means, if it is made of decimal digits. -/
def exitCode? (word : String) : Option Nat :=
  if word ≠ "" && word.toList.all Char.isDigit then some (decimalResidue word.toList) else none

/-- The session is asked to end. Arguments after the first are ignored. -/
def runExit (args : List String) (s : Session) : Session × Except Error Int :=
  let leave (code : Int) : Session × Except Error Int :=
    ({ s with state.exitRequest := some code }, .ok code)
  match args with
  | [] => leave s.state.status
  | word :: _ =>
      match exitCode? word with
      | some code => leave code
      | none => (s, .error (.illegalNumber word))

theorem decimalResidue_lt (digits : List Char) : decimalResidue digits < 256 := by
  unfold decimalResidue
  suffices h : ∀ start < 256,
      digits.foldl (fun value c => (value * 10 + digitValue c) % 256) start < 256 from
    h 0 (by decide)
  induction digits with
  | nil => simp
  | cons c rest ih => exact fun start _ => ih _ (Nat.mod_lt _ (by decide))

end Builtin

end CommandShell
