import CommandShell.Environment
import CommandShell.File.RawPath

/-!
# The Home Directory

A `~` at the start of a path, alone or before a slash, stands for the home
directory. That is the value of `HOME` in the session, and where the session
has none or an empty one, the home directory of the account, which need not be
text. A `~` before anything else has no meaning.

The rest of the path is put below the home directory name by name, so that
however many slashes stand in it, the result begins with the home directory.

## Main definitions

* `homeDirectory`: The home directory, if there is one.
* `HomeError`: Why there is none.
* `expandTilde`: A path with the home directory put in.

## Theorems

* `expandTilde_of_head_ne`: Without a `~` nothing happens.
-/

namespace CommandShell

namespace File

open Text

/-- Why there is no home directory. -/
inductive HomeError where
  /-- Neither the session nor the account has one. -/
  | unset
deriving DecidableEq

/-- The text for the user. -/
def HomeError.message : HomeError → String
  | .unset => "HOME not set"

/-- The home directory: the value of `HOME` unless it is empty, and otherwise that of the
    account. -/
def homeDirectory (env : Environment) (accountHome : Option RawPath) : Except HomeError RawPath :=
  match env.get? "HOME" with
  | some home => if home ≠ "" then .ok (.text home) else accountOr
  | none => accountOr
where
  /-- The home directory of the account. -/
  accountOr : Except HomeError RawPath :=
    match accountHome with
    | some home => .ok home
    | none => .error .unset

/-- The path of names below a directory. -/
def descend (base : RawPath) (path : String) : RawPath :=
  (names path).foldl RawPath.below base

/-- A path in which a leading `~` is replaced by the home directory. -/
def expandTilde (env : Environment) (accountHome : Option RawPath) (path : String) :
    Except HomeError RawPath :=
  match path.toList with
  | ['~'] => homeDirectory env accountHome
  | '~' :: '/' :: rest =>
      (homeDirectory env accountHome).map fun home => descend home (String.ofList rest)
  | _ => .ok (.text path)

theorem expandTilde_of_head_ne {env : Environment} {accountHome : Option RawPath} {path : String}
    (h : path.toList.head? ≠ some '~') : expandTilde env accountHome path = .ok (.text path) := by
  unfold expandTilde
  split
  · simp_all
  · simp_all
  · rfl

end File

end CommandShell
