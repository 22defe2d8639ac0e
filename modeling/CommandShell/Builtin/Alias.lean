import CommandShell.Alias.Argument
import CommandShell.Builtin.Basic
import CommandShell.Session.Basic

/-!
# The Builtins `alias` and `unalias`

Aliases are listed, shown, defined and removed. Both builtins take several
requests in one call and carry them out from left to right. A request that
fails is reported, and the ones after it are carried out nevertheless; the
status tells whether any failed. Only a stream that cannot be written to ends
the call at once.

## Main definitions

* `aliasLine`: An alias as it is shown.
* `carryOut`: One request to `alias`.
* `runDefineAliases`: The builtin `alias`.
* `runRemoveAliases`: The builtin `unalias`.
-/

namespace CommandShell

namespace Builtin

open Alias

/-- An alias as it is shown. -/
def aliasLine (name text : String) : String :=
  name ++ "='" ++ text ++ "'\n"

/-- One request is carried out; the result says whether it succeeded. -/
def carryOut (s : Session) : Argument → Session × Except SystemError Bool
  | .define name value =>
      match s.state.aliases.set name value with
      | .ok aliases => ({ s with state.aliases := aliases }, .ok true)
      | .error e =>
          let (s, written) := s.report e.message
          (s, written.map fun _ => false)
  | .reveal name =>
      match s.state.aliases.get? name with
      | some text =>
          let (s, written) := s.print (aliasLine name text)
          (s, written.map fun _ => true)
      | none =>
          let (s, written) := s.report (name ++ ": not found")
          (s, written.map fun _ => false)

/-- An alias is removed; the result says whether there was one. -/
def removeOne (s : Session) (name : String) : Session × Except SystemError Bool :=
  match s.state.aliases.get? name with
  | some _ => ({ s with state.aliases := s.state.aliases.remove name }, .ok true)
  | none =>
      let (s, written) := s.report (name ++ ": not found")
      (s, written.map fun _ => false)

/-- Requests are carried out from left to right. The status begins as `status` and is 1
    from the first request that fails. -/
def inTurn {α : Type} (act : Session → α → Session × Except SystemError Bool)
    (s : Session) (status : Int) : List α → Session × Except Error Int
  | [] => (s, .ok status)
  | request :: more =>
      match act s request with
      | (s, .ok true) => inTurn act s status more
      | (s, .ok false) => inTurn act s 1 more
      | (s, .error e) => (s, .error (.write e))

/-- Aliases are listed, or shown and defined as the arguments ask. -/
def runDefineAliases (args : List String) (s : Session) : Session × Except Error Int :=
  if args.isEmpty then
    match s.printAll (s.state.aliases.toList.map fun (name, text) => aliasLine name text) with
    | (s, .ok ()) => (s, .ok 0)
    | (s, .error e) => (s, .error (.write e))
  else inTurn carryOut s 0 (parse args)

/-- Aliases are removed. -/
def runRemoveAliases (args : List String) (s : Session) : Session × Except Error Int :=
  if args.isEmpty then (s, .error (.invalidArguments "usage: unalias NAME..."))
  else inTurn removeOne s 0 args

end Builtin

end CommandShell
