import CommandShell.Environment
import CommandShell.File.Tree

/-!
# The Search for a Program

The first word of a command names a program. A name with a slash is a path and
is taken as it stands. Any other name is looked for in the directories that
the variable `PATH` lists, in order, and the first executable file of that
name is the program; files of that name that cannot be run are passed over.
An empty entry of the list means the directory where one stands.

## Main definitions

* `SearchError`: Why no program was found.
* `searchPath`: The directories listed in a text.
* `firstExecutable?`: The first of some directories that holds a program.
* `resolve`: The program that a name means.

## Theorems

* `firstExecutable?_append`: The first directory that has the program wins.
* `searchPath_append`: A colon joins two lists of directories.
* `isExecutable_of_resolve`: What is found can be run.
-/

namespace CommandShell

namespace File

open Text

/-- Why no program was found. -/
inductive SearchError where
  | notFound
  | permissionDenied
deriving DecidableEq

/-- The text for the user. -/
def SearchError.message : SearchError → String
  | .notFound => "not found"
  | .permissionDenied => "Permission denied"

/-- The status of a command for which no program was found. -/
def SearchError.status : SearchError → Int
  | .notFound => 127
  | .permissionDenied => 126

/-- Whether a character separates the directories in a list. -/
def isColon (c : Char) : Bool :=
  c = ':'

/-- The directories that a text lists; an empty entry is written `.`. -/
def searchPath (text : String) : List String :=
  (fields isColon text.toList).map fun entry =>
    if entry.isEmpty then "." else String.ofList entry

namespace Tree

/-- The path of a program in the first of some directories that holds it. -/
def firstExecutable? (tree : Tree) (here : Location) (name : String)
    (directories : List String) : Option String :=
  (directories.map (join · name)).find? (tree.isExecutable here)

/-- The program that a name means in an environment. -/
def resolve (tree : Tree) (here : Location) (env : Environment) (name : String) :
    Except SearchError String :=
  if name = "" then .error .notFound
  else if '/' ∈ name.toList then
    if !tree.exists? here name then .error .notFound
    else if tree.isExecutable here name then .ok name
    else .error .permissionDenied
  else
    match env.get? "PATH" with
    | none => .error .notFound
    | some path =>
        match tree.firstExecutable? here name (searchPath path) with
        | some program => .ok program
        | none => .error .notFound

theorem firstExecutable?_append (tree : Tree) (here : Location) (name : String)
    (ds es : List String) :
    tree.firstExecutable? here name (ds ++ es)
      = (tree.firstExecutable? here name ds).or (tree.firstExecutable? here name es) := by
  simp [firstExecutable?]

/-- Whatever the search finds can be run. -/
theorem isExecutable_of_resolve {tree : Tree} {here : Location} {env : Environment}
    {name program : String} (h : tree.resolve here env name = .ok program) :
    tree.isExecutable here program = true := by
  unfold resolve at h
  split at h
  · simp at h
  · split at h
    · split at h
      · simp at h
      · split at h
        · injection h with h
          subst h
          assumption
        · simp at h
    · split at h
      · simp at h
      · split at h
        · rename_i found hfound
          injection h with h
          subst h
          exact List.find?_some hfound
        · simp at h

end Tree

theorem searchPath_append (s t : String) :
    searchPath (s ++ ":" ++ t) = searchPath s ++ searchPath t := by
  have h : (s ++ ":" ++ t).toList = s.toList ++ ':' :: t.toList := by simp
  rw [searchPath, h, fields_append_cons (by decide), List.map_append]
  rfl

end File

end CommandShell
