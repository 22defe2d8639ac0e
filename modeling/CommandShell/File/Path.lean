import CommandShell.Text.Fields
import CommandShell.Text.Utf8

/-!
# Paths

A path consists of names with slashes between them. How many slashes stand
between two names does not matter; a slash at the start makes the path begin
at the root, and a slash at the end asks for a directory. The paths that a
session puts together are texts.

The files themselves have names of bytes, as the system puts hardly any
conditions on them. A *location* is where a path leads: the names from the
root down to a file, with no links left in them.

## Main definitions

* `Name`: The name of a file in its directory.
* `Location`: The place of a file in the tree.
* `isAbsolute`: Whether a path begins at the root.
* `names`: The names in a path.
* `join`: A path below another one.
* `baseName`: The last name in a path.

## Theorems

* `join_eq_append`: Joining a relative name only adds to a path's end.
-/

namespace CommandShell

namespace File

open Text

/-- The name of a file in its directory, which need not be text. -/
structure Name where
  bytes : Bytes
deriving DecidableEq

/-- The name that is written as a text. -/
def Name.ofText (text : String) : Name :=
  ⟨encode text⟩

instance : Coe String Name :=
  ⟨Name.ofText⟩

/-- The names from the root of the tree down to a file. -/
abbrev Location := List Name

instance : Coe (List String) Location :=
  ⟨List.map Name.ofText⟩

/-- Whether a character separates the names in a path. -/
def isSlash (c : Char) : Bool :=
  c = '/'

/-- Whether a path begins at the root. -/
def isAbsolute (path : String) : Bool :=
  path.toList.head? = some '/'

/-- Whether a path ends in a slash. -/
def endsInSlash (path : String) : Bool :=
  path.toList.getLast? = some '/'

/-- The names in a path, in order. -/
def names (path : String) : List String :=
  (solidFields isSlash path.toList).map String.ofList

/-- The path of `name` below `base`. A slash is put between them unless `base`
    ends in one or is empty, and an absolute `name` stands alone. -/
def join (base name : String) : String :=
  if isAbsolute name then name
  else if base = "" || endsInSlash base then base ++ name
  else base ++ "/" ++ name

/-- The last name in a path. -/
def baseName (path : String) : String :=
  (names path).getLast?.getD ""

/-- Joining a name that is no absolute path keeps the path before it. -/
theorem join_eq_append {base name : String} (h : isAbsolute name = false) :
    join base name = base ++ name ∨ join base name = base ++ "/" ++ name := by
  unfold join
  rw [h]
  by_cases hbase : (base = "" || endsInSlash base) = true
  · exact Or.inl (by simp [hbase])
  · exact Or.inr (by simp [hbase])

end File

end CommandShell
