import CommandShell.Builtin.Basic
import CommandShell.File.Home
import CommandShell.Session.Basic

/-!
# The Builtin `cd`

The session moves to another directory. Without an argument that is the home
directory, and for `-` it is the one left last, which `OLDPWD` names; it is
then written to the standard output, as the user did not spell it out.
Arguments after the first are ignored.

The move comes first, and only when it has been made are `OLDPWD` and `PWD`
set. Where the directory is read back from the system, it is free of links. A
directory that was removed cannot be read back; the variable `PWD`, or the
text of the target, then has to do. The variables are texts, so they have a
directory whose path is not text with U+FFFD in the places that are not.

## Main definitions

* `Target`: Where to go, and whether to say so.
* `target`: The target that the arguments mean.
* `runChangeDirectory`: The builtin.

## Theorems

* `get?_recordMove`: A move changes two variables and no others.
-/

namespace CommandShell

namespace Builtin

/-- Where to go, and whether the directory is written out afterwards. -/
structure Target where
  path : File.RawPath
  announced : Bool
deriving DecidableEq

/-- The target that the arguments mean. -/
def target (m : Machine) (env : Environment) : List String → Except Error Target
  | [] =>
      match File.homeDirectory env m.accountHome with
      | .ok home => .ok ⟨home, false⟩
      | .error e => .error (.invalidArguments e.message)
  | word :: _ =>
      if word = "-" then
        match env.get? "OLDPWD" with
        | some previous =>
            if previous ≠ "" then .ok ⟨.text previous, true⟩
            else .error (.invalidArguments "OLDPWD not set")
        | none => .error (.invalidArguments "OLDPWD not set")
      else
        match File.expandTilde env m.accountHome word with
        | .ok path => .ok ⟨path, false⟩
        | .error e => .error (.invalidArguments e.message)

/-- The variables after a move: `OLDPWD` for the directory that was left, if it is known,
    and `PWD` for the one that was entered. -/
def recordMove (env : Environment) (left : Option String) (entered : String) : Environment :=
  let withOld :=
    match left with
    | some directory => env.put "OLDPWD" directory
    | none => env
  withOld.put "PWD" entered

/-- The session moves to another directory. -/
def runChangeDirectory (m : Machine) (args : List String) (s : Session) :
    Session × Except Error Int :=
  match target m s.state.environment args with
  | .error e => (s, .error e)
  | .ok goal =>
      let left := (m.files.currentPath? s.directory).or (s.state.environment.get? "PWD")
      match m.files.enter s.directory goal.path with
      | .error _ => (s, .error (.cannotEnter goal.path.shown))
      | .ok directory =>
          -- Nothing after this point can undo the move.
          let entered := (m.files.currentPath? directory).getD goal.path.shown
          let moved :=
            { s with
              directory := directory
              state.environment := recordMove s.state.environment left entered }
          if goal.announced then
            match moved.print (entered ++ "\n") with
            | (s, .ok ()) => (s, .ok 0)
            | (s, .error e) => (s, .error (.write e))
          else (moved, .ok 0)

/-- What is found after a move: the two variables have their new values, and the others
    have what they had. -/
theorem get?_recordMove (env : Environment) (left : Option String) (entered name : String) :
    (recordMove env left entered).get? name
      = if name = "PWD" then some entered
        else if name = "OLDPWD" then left.or (env.get? "OLDPWD")
        else env.get? name := by
  unfold recordMove
  rw [Environment.get?_put]
  by_cases hpwd : name = "PWD"
  · simp [hpwd]
  · rw [if_neg hpwd, if_neg hpwd]
    cases left with
    | none => by_cases hold : name = "OLDPWD" <;> simp [hold]
    | some directory =>
        rw [Environment.get?_put]
        by_cases hold : name = "OLDPWD" <;> simp [hold]

end Builtin

end CommandShell
