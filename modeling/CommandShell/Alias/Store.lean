import CommandShell.Bindings
import CommandShell.Line.Word
import CommandShell.Text.Blank

/-!
# Aliases

An alias is a name that stands for the words of a text when it is the first
word of a command. Its name has to be a word that `alias name=text` can
define: it is not empty and holds neither `=` nor white space. The text is not
checked.

The words that take the name's place are not looked up again. An alias may
therefore begin with its own name, and aliases that name each other do no
harm.

## Main definitions

* `Aliases`: The aliases of a session.
* `Aliases.InvalidName`: A name that no alias can have.
* `Aliases.set`: The aliases with one of them defined.
* `Aliases.remove`: The aliases without one of them.
* `Aliases.substitute`: The words of a command with the alias replaced.

## Theorems

* `get?_put`: What is found after a definition.
* `substitute_of_none`: A command whose first word is no alias stays as it is.
-/

namespace CommandShell

open Text Line

/-- The aliases of a session. -/
@[ext]
structure Aliases where
  bindings : Bindings
deriving DecidableEq

namespace Aliases

/-- A name that no alias can have. -/
structure InvalidName where
  name : String
deriving DecidableEq

/-- The wording of a refusal. -/
def InvalidName.message (e : InvalidName) : String :=
  "invalid alias name: '" ++ e.name ++ "'"

/-- No aliases. -/
def empty : Aliases :=
  ⟨Bindings.empty⟩

/-- The text of an alias, if it is defined. -/
def get? (aliases : Aliases) (name : String) : Option String :=
  aliases.bindings.get? name

/-- The aliases in the order of their names. -/
def toList (aliases : Aliases) : List (String × String) :=
  aliases.bindings.toList

/-- Whether an alias can have a name. -/
def isValidName (name : String) : Bool :=
  name ≠ "" && name.toList.all fun c => c ≠ '=' && !isWhiteSpace c

/-- The aliases with one of them defined, whatever its name. -/
def put (aliases : Aliases) (name text : String) : Aliases :=
  ⟨aliases.bindings.insert name text⟩

/-- The aliases with one of them defined, if its name is valid. -/
def set (aliases : Aliases) (name text : String) : Except InvalidName Aliases :=
  if isValidName name then .ok (aliases.put name text) else .error ⟨name⟩

/-- The aliases without one of them. -/
def remove (aliases : Aliases) (name : String) : Aliases :=
  ⟨aliases.bindings.erase name⟩

/-- The aliases of a list, of which later ones win; those with an invalid name are left
    out. -/
def ofList (pairs : List (String × String)) : Aliases :=
  ⟨Bindings.ofList (pairs.filter fun e => isValidName e.1)⟩

/-- The words of a command; if the first is an alias, the words of its text stand in its
    place. -/
def substitute (aliases : Aliases) : List String → List String
  | [] => []
  | first :: rest =>
      match aliases.get? first with
      | some text => words text ++ rest
      | none => first :: rest

theorem get?_put (aliases : Aliases) (name text n : String) :
    (aliases.put name text).get? n = if n = name then some text else aliases.get? n :=
  aliases.bindings.get?_insert name text n

theorem get?_remove (aliases : Aliases) (name n : String) :
    (aliases.remove name).get? n = if n = name then none else aliases.get? n :=
  aliases.bindings.get?_erase name n

theorem substitute_of_none {aliases : Aliases} {first : String} (rest : List String)
    (h : aliases.get? first = none) : aliases.substitute (first :: rest) = first :: rest := by
  simp [substitute, h]

/-- The aliases are determined by their texts. -/
theorem ext_get? {a b : Aliases} (h : ∀ name, a.get? name = b.get? name) : a = b :=
  Aliases.ext (Bindings.ext_get? h)

end Aliases

end CommandShell
