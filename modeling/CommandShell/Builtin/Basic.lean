import CommandShell.System.Error

/-!
# Builtin Commands

Some commands change the session itself and can therefore be no programs. Each
has a name that no program can take from it. A builtin that fails says why,
and the kind of failure decides the status that it leaves: 2 for a wrong use,
1 for a search or a write that failed.

## Main definitions

* `Builtin`: The commands that the shell runs itself.
* `Builtin.ofName?`: The builtin of a name.
* `Builtin.Error`: Why a builtin failed.
* `Builtin.Error.status`: The status that a failure leaves.
* `Builtin.Error.message`: The words for a failure.

## Theorems

* `ofName?_name`: A builtin is found by its name.
* `name_of_ofName?`: Only by that name.
* `ofName?_eq_none_iff`: No builtin is found by another name.
-/

namespace CommandShell

/-- The commands that the shell runs itself. -/
inductive Builtin where
  | exit
  | changeDirectory
  | listVariables
  | setVariable
  | unsetVariables
  | help
  | defineAliases
  | removeAliases
deriving DecidableEq

namespace Builtin

/-- The word that calls a builtin. -/
def name : Builtin → String
  | .exit => "exit"
  | .changeDirectory => "cd"
  | .listVariables => "env"
  | .setVariable => "setenv"
  | .unsetVariables => "unsetenv"
  | .help => "help"
  | .defineAliases => "alias"
  | .removeAliases => "unalias"

/-- All builtins. -/
def all : List Builtin :=
  [.exit, .changeDirectory, .listVariables, .setVariable, .unsetVariables, .help,
    .defineAliases, .removeAliases]

/-- The builtin that a word calls. -/
def ofName? (word : String) : Option Builtin :=
  all.find? fun b => b.name = word

/-- Why a builtin failed. -/
inductive Error where
  | invalidArguments (reason : String)
  | illegalNumber (word : String)
  | cannotEnter (directory : String)
  /-- What was asked for does not exist. -/
  | notFound (reason : String)
  /-- A stream refused what was written to it. -/
  | write (cause : SystemError)
deriving DecidableEq

/-- The status that a failure leaves. -/
def Error.status : Error → Int
  | .invalidArguments _ => 2
  | .illegalNumber _ => 2
  | .cannotEnter _ => 2
  | .notFound _ => 1
  | .write _ => 1

/-- The words for a failure. -/
def Error.message : Error → String
  | .invalidArguments reason => reason
  | .illegalNumber word => "Illegal number: " ++ word
  | .cannotEnter directory => "can't cd to " ++ directory
  | .notFound reason => reason
  | .write cause => cause.message

theorem ofName?_name (b : Builtin) : ofName? b.name = some b := by
  cases b <;> decide

theorem name_of_ofName? {word : String} {b : Builtin} (h : ofName? word = some b) :
    b.name = word := by
  simpa using List.find?_some h

theorem ofName?_eq_none_iff {word : String} :
    ofName? word = none ↔ ∀ b : Builtin, b.name ≠ word := by
  constructor
  · rintro h b rfl
    rw [ofName?_name] at h
    cases h
  · intro h
    cases hname : ofName? word with
    | none => rfl
    | some b => exact absurd (name_of_ofName? hname) (h b)

end Builtin

end CommandShell
