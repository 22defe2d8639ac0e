import CommandShell.Child.Outcome
import CommandShell.System.Error

/-!
# Failures of Programs

A program may fail to start, and waiting for it may fail. Each failure is
reported in words and leaves a status.

## Main definitions

* `Failure`: Why a program could not be run.
* `Failure.ofSpawn`: The failure for an error that came up at the start.
* `Failure.status`: The status that a failure leaves.
* `Failure.message`: The words for a failure.
-/

namespace CommandShell

namespace Child

/-- Why a program could not be run. -/
inductive Failure where
  | notFound (program : String)
  | permissionDenied (program : String)
  /-- The file is in no format that can be run. -/
  | execFormat (program : String)
  /-- The program could not be started for another reason. -/
  | spawn (cause : SystemError)
  /-- The end of the program could not be waited for. -/
  | wait (cause : SystemError)
  /-- Signals could not be set up. -/
  | signals (reason : String)
deriving DecidableEq

/-- The failure for an error that came up when a program was started. -/
def Failure.ofSpawn (program : String) (cause : SystemError) : Failure :=
  if cause.isNotFound then .notFound program
  else if cause.isPermissionDenied then .permissionDenied program
  else if cause = .execFormat then .execFormat program
  else .spawn cause

/-- The status that a failure leaves. -/
def Failure.status : Failure → Int
  | .notFound _ => statusNotFound
  | .permissionDenied _ => statusNotExecutable
  | .execFormat _ => statusNotExecutable
  | .spawn _ => statusFailed
  | .wait _ => statusFailed
  | .signals _ => statusFailed

/-- The words for a failure. -/
def Failure.message : Failure → String
  | .notFound _ => "not found"
  | .permissionDenied _ => "Permission denied"
  | .execFormat _ => "Exec format error"
  | .spawn cause => "cannot spawn: " ++ cause.message
  | .wait cause => "cannot wait for child: " ++ cause.message
  | .signals reason => "Signal error: " ++ reason

end Child

end CommandShell
