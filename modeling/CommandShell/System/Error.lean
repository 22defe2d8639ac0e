/-!
# Errors of the System

An operation on files, streams or processes fails for a reason that the
system gives by number, or for one that is found before the system is asked.
Either is shown to the user as text. The number of a system's error is shown
beside its text.

## Main definitions

* `ErrorKind`: Classes of errors.
* `SystemError`: Why an operation failed.
* `SystemError.message`: The text for the user.
* `SystemError.isNotFound`, `SystemError.isPermissionDenied`: The two classes
  that decide how a failure is reported.
-/

namespace CommandShell

/-- Classes of errors, for those that have no number. -/
inductive ErrorKind where
  | notFound
  | permissionDenied
  | outOfMemory
  | timedOut
  | invalidInput
  | wouldBlock
  | brokenPipe
  | other
deriving DecidableEq

/-- The text of a class. -/
def ErrorKind.message : ErrorKind → String
  | .notFound => "entity not found"
  | .permissionDenied => "permission denied"
  | .outOfMemory => "out of memory"
  | .timedOut => "timed out"
  | .invalidInput => "invalid input parameter"
  | .wouldBlock => "operation would block"
  | .brokenPipe => "broken pipe"
  | .other => "other error"

/-- Why an operation on files, streams or processes failed. -/
inductive SystemError where
  /-- The system's error of this number. -/
  | number (n : Nat)
  /-- An error of which only the class is known. -/
  | ofKind (kind : ErrorKind)
  /-- What was read as text is not UTF-8. -/
  | notUtf8
  /-- The name of a file holds a NUL. -/
  | nulInPath
  /-- What a program is started with holds a NUL. -/
  | nulInCommand
deriving DecidableEq

namespace SystemError

/-- There is no file of that name. -/
def noEntry : SystemError := .number 2

/-- What a program is started with takes too much room. -/
def argumentListTooLong : SystemError := .number 7

/-- The file is in no format that can be run. -/
def execFormat : SystemError := .number 8

/-- The file may not be used in that way. -/
def accessDenied : SystemError := .number 13

/-- A part of the path is no directory. -/
def notDirectory : SystemError := .number 20

/-- The file is a directory. -/
def isDirectory : SystemError := .number 21

/-- Nobody reads what is written. -/
def brokenPipe : SystemError := .number 32

/-- A path or one of its parts is too long. -/
def nameTooLong : SystemError := .number 36

/-- The links of a path lead round in a circle. -/
def tooManyLinks : SystemError := .number 40

/-- What the system says about an error of a given number. -/
def description : Nat → String
  | 1 => "Operation not permitted"
  | 2 => "No such file or directory"
  | 4 => "Interrupted system call"
  | 5 => "Input/output error"
  | 7 => "Argument list too long"
  | 8 => "Exec format error"
  | 9 => "Bad file descriptor"
  | 10 => "No child processes"
  | 11 => "Resource temporarily unavailable"
  | 12 => "Cannot allocate memory"
  | 13 => "Permission denied"
  | 20 => "Not a directory"
  | 21 => "Is a directory"
  | 22 => "Invalid argument"
  | 24 => "Too many open files"
  | 26 => "Text file busy"
  | 32 => "Broken pipe"
  | 36 => "File name too long"
  | 40 => "Too many levels of symbolic links"
  | n => "Unknown error " ++ toString n

/-- The text for the user. -/
def message : SystemError → String
  | .number n => description n ++ " (os error " ++ toString n ++ ")"
  | .ofKind kind => kind.message
  | .notUtf8 => "stream did not contain valid UTF-8"
  | .nulInPath => "file name contained an unexpected NUL byte"
  | .nulInCommand => "nul byte found in provided data"

/-- Whether the error says that something does not exist. -/
def isNotFound (e : SystemError) : Bool :=
  e = noEntry || e = .ofKind .notFound

/-- Whether the error says that something is not allowed. -/
def isPermissionDenied (e : SystemError) : Bool :=
  e = .number 1 || e = accessDenied || e = .ofKind .permissionDenied

end SystemError

end CommandShell
