import CommandShell.Session.Evaluation
import CommandShell.Text.Lines

/-!
# The Startup File

Before a shell reads its input it may run the lines of a file. A user can name
the file, and it then has to exist; otherwise a shell that talks to a user
looks for a file of a fixed name in the home directory of the account, and
does without if there is none.

The file has to be UTF-8 as a whole before any line of it is run.

## Main definitions

* `Startup`: The file to run, if any.
* `Startup.choose`: The file that a shell runs.
* `StartupError`: Why no file was run.
* `Startup.load`: The lines of the file are run.
-/

namespace CommandShell

open Text

/-- The file to run, if any, and whether it has to exist. -/
structure Startup where
  path : Option File.RawPath
  required : Bool
deriving DecidableEq

/-- Why no file was run. -/
inductive StartupError where
  /-- A file that has to exist does not. -/
  | missing (path : String)
  | unreadable (path : String) (cause : SystemError)
deriving DecidableEq

/-- The words for a file that was not run. -/
def StartupError.message : StartupError → String
  | .missing path => "Config file not found: " ++ path
  | .unreadable path cause => path ++ ": " ++ cause.message

namespace Startup

/-- The name of the file that is looked for. -/
def defaultName : String := ".hshrc"

/-- The file that a shell runs: the one that was named, or else the one in the home
    directory if the shell talks to a user. -/
def choose (named : Option String) (interactive : Bool) (accountHome : Option File.RawPath) :
    Startup :=
  match named with
  | some path => ⟨some (.text path), true⟩
  | none => ⟨if interactive then accountHome.map (·.below defaultName) else none, false⟩

/-- The text of a file. -/
def readText (m : Machine) (here : File.Location) (path : File.RawPath) :
    Except SystemError String := do
  let bytes ← m.files.read here path
  match decode? bytes with
  | some text => .ok text
  | none => .error .notUtf8

/-- The lines of the file are run. -/
def load (m : Machine) (startup : Startup) (s : Session) : Session × Except StartupError Unit :=
  match startup.path with
  | none => (s, .ok ())
  | some path =>
      match readText m s.directory path with
      | .ok text => (s.evalLines m (lines text), .ok ())
      | .error e =>
          if e.isNotFound then
            (s, if startup.required then .error (.missing path.shown) else .ok ())
          else (s, .error (.unreadable path.shown e))

end Startup

end CommandShell
