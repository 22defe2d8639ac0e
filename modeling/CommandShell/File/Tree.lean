import CommandShell.File.RawPath
import CommandShell.Input.Feed

/-!
# The File Tree

A tree of directories, files and links that stays as it is while a session
runs lines. What a path means depends on the tree and on the directory where
one stands, and it is found by a *walk*: from the root or from that directory,
name by name, and wherever a name is that of a link, on along the link's
target.

The directory where one stands may be removed while one stands in it. It then
has no place in the tree any more, but the walk can still begin there: `.`
stays, `..` leads to the directory that held it, and no other name is found.

The walk goes by recursion on the names that are left. A link puts new names
before them, so the recursion is nested in one on the number of links that may
still be followed, which is also what ends the walk round a circle of links.

Most files give the same bytes whenever they are read. A pipe gives each byte
only once, to whoever comes first, and so does the input of a process, which is
a file as well and can have names in the tree. Two names can mean the same one
of them, so it takes the whole tree to see who reads from what.

## Main definitions

* `Node`: What is found at a location.
* `Tree`: The files at all locations.
* `Tree.walk`: The location that a path leads to.
* `Tree.stat`: What a path leads to.
* `Tree.enter`: The directory that a path leads to.
* `Tree.currentDirectory?`: The path of the directory where one stands.
* `Tree.currentPath?`: The text that stands for it.
* `Tree.read`: The bytes of a file.
* `Tree.channel?`: The source of bytes that a path leads to, if it gives them
  only once.
* `Tree.withInput`: The tree for a process with some input.
* `Tree.isExecutable`: Whether a path leads to a file that can be run.

## Theorems

* `isDirectory_of_enter`: What can be entered is a directory, or the removed
  one where one already stood.
-/

namespace CommandShell

namespace File

open Text Input

/-- What is found at a location. -/
inductive Node where
  | directory
  /-- A regular file, which can be run if it is `executable`. -/
  | regular (content : Bytes) (executable : Bool)
  /-- A file that is neither regular nor a directory and reads as empty. -/
  | device
  /-- A pipe, which gives its bytes once. -/
  | pipe (feed : Feed)
  /-- A name for the input of the process. -/
  | input
  | link (target : RawPath)
deriving DecidableEq

/-- What gives each of its bytes only once. -/
inductive Channel where
  /-- The input of the process, whatever name is used for it. -/
  | input
  /-- The pipe at a location. -/
  | pipe (location : Location)
deriving DecidableEq

/-- The files of a system by their locations, as a process sees them; the root is always
    there. -/
structure Tree where
  entries : List (Location × Node)
  /-- What the input of the process gives. -/
  input : Feed

namespace Tree

/-- A tree with some files, for a process that has nothing to read. -/
def ofEntries (entries : List (Location × Node)) : Tree :=
  ⟨entries, ⟨[], none⟩⟩

/-- A tree with nothing but the root. -/
def empty : Tree :=
  ofEntries []

/-- What is found at a location, links not followed. -/
def node? (tree : Tree) (location : Location) : Option Node :=
  match location with
  | [] => some .directory
  | _ :: _ => tree.entries.lookup location

/-- Whether a directory is found at a location. -/
def isDirectory (tree : Tree) (location : Location) : Bool :=
  tree.node? location = some .directory

/-- The tree with a node at a location, in place of what was there. -/
def put (tree : Tree) (location : Location) (node : Node) : Tree :=
  { tree with entries := (location, node) :: tree.entries.filter fun e => e.1 ≠ location }

/-- The tree with directories at a location and everywhere above it. -/
def putDirectories (tree : Tree) (location : Location) : Tree :=
  ((List.range location.length).map fun n => location.take (n + 1)).foldl
    (fun t l => if t.node? l = none then t.put l .directory else t) tree

/-- The tree with a node at a location and directories above it. -/
def putBelow (tree : Tree) (location : Location) (node : Node) : Tree :=
  (tree.putDirectories location.dropLast).put location node

/-- The tree without a location and all that is below it. -/
def remove (tree : Tree) (location : Location) : Tree :=
  { tree with entries := tree.entries.filter fun e => !location.isPrefixOf e.1 }

/-- The location by which every process can name its own input. -/
def inputLocation : Location := ["dev", "stdin"]

/-- The tree for a process with some input. Whatever the system has under the usual name
    of the input stays there, and otherwise the input itself is found there. -/
def withInput (tree : Tree) (input : Feed) : Tree :=
  let named :=
    if tree.node? inputLocation = none then tree.putBelow inputLocation .input else tree
  { named with input := input }

/-- The name of a directory in itself. -/
def hereName : Name := ⟨[0x2E]⟩

/-- The name in a directory of the one that holds it. -/
def aboveName : Name := ⟨[0x2E, 0x2E]⟩

/-- The names to walk along for a path; a slash at its end adds a `.`, since what stands
    before it has to be a directory. -/
def steps (path : RawPath) : List Name :=
  path.names ++ if path.endsInSlash then [hereName] else []

/-- Where a walk along a path begins. -/
def start (here : Location) (path : RawPath) : Location :=
  if path.isAbsolute then [] else here

/-- The longest name that a directory can hold, in bytes. -/
def maxNameLength : Nat := 255

/-- The longest path that can be asked for, in bytes. -/
def maxPathLength : Nat := 4095

/-- The number of links that one walk can follow. -/
def maxLinks : Nat := 40

/-- A walk from a location along the names that are left. At a link it goes on with
    `follow`, from where the link's target begins. -/
def walkWith (tree : Tree) (follow : Location → List Name → Except SystemError Location)
    (here : Location) : List Name → Except SystemError Location
  | [] => .ok here
  | name :: rest =>
      match tree.node? here with
      | some .directory =>
          if name = hereName then tree.walkWith follow here rest
          else if name = aboveName then tree.walkWith follow here.dropLast rest
          else if maxNameLength < name.bytes.length then .error .nameTooLong
          else
            match tree.node? (here ++ [name]) with
            | none => .error .noEntry
            | some (.link target) => follow (start here target) (steps target ++ rest)
            | some _ => tree.walkWith follow (here ++ [name]) rest
      | some _ => .error .notDirectory
      -- Only a removed directory has no node, and it is a directory still.
      | none =>
          if name = hereName then tree.walkWith follow here rest
          else if name = aboveName then tree.walkWith follow here.dropLast rest
          else .error .noEntry

/-- A walk that follows at most `links` links. -/
def walk (tree : Tree) : Nat → Location → List Name → Except SystemError Location
  | 0 => tree.walkWith fun _ _ => .error .tooManyLinks
  | links + 1 => tree.walkWith (tree.walk links)

/-- The location that a path leads to from the directory `here`. -/
def locate (tree : Tree) (here : Location) (path : RawPath) : Except SystemError Location :=
  if 0 ∈ path.bytes then .error .nulInPath
  else if path.bytes = [] then .error .noEntry
  else if maxPathLength < path.bytes.length then .error .nameTooLong
  else tree.walk maxLinks (start here path) (steps path)

/-- What a path leads to from the directory `here`; a directory that was removed is one
    still. -/
def stat (tree : Tree) (here : Location) (path : RawPath) : Except SystemError Node :=
  (tree.locate here path).map fun location => (tree.node? location).getD .directory

/-- The directory that a path leads to from the directory `here`. -/
def enter (tree : Tree) (here : Location) (path : RawPath) : Except SystemError Location := do
  let location ← tree.locate here path
  match tree.node? location with
  | some .directory | none => .ok location
  | some _ => .error .notDirectory

/-- The absolute path of the directory `here`, unless it was removed. -/
def currentDirectory? (tree : Tree) (here : Location) : Option RawPath :=
  if tree.isDirectory here then some here.path else none

/-- The text that stands for the absolute path of the directory `here`. -/
def currentPath? (tree : Tree) (here : Location) : Option String :=
  (tree.currentDirectory? here).map RawPath.shown

/-- The bytes of the file that a path leads to. -/
def read (tree : Tree) (here : Location) (path : RawPath) : Except SystemError Bytes := do
  match ← tree.stat here path with
  | .directory => .error .isDirectory
  | .regular content _ => .ok content
  | .pipe feed => feed.contents
  | .input => tree.input.contents
  | .device | .link _ => .ok []

/-- The source of bytes that a path leads to, if it gives them only once. -/
def channel? (tree : Tree) (here : Location) (path : RawPath) : Option Channel :=
  match tree.locate here path with
  | .error _ => none
  | .ok location =>
      match tree.node? location with
      | some .input => some .input
      | some (.pipe _) => some (.pipe location)
      | _ => none

/-- Whether a path of the session leads to anything. -/
def exists? (tree : Tree) (here : Location) (path : String) : Bool :=
  (tree.stat here path).toBool

/-- Whether a path of the session leads to a regular file that can be run. -/
def isExecutable (tree : Tree) (here : Location) (path : String) : Bool :=
  match tree.stat here path with
  | .ok (.regular _ executable) => executable
  | _ => false

/-- The session has a text for the directory where it stands exactly if the directory has
    a path. -/
theorem currentPath?_eq (tree : Tree) (here : Location) :
    tree.currentPath? here = if tree.isDirectory here then some here.toPath else none := by
  unfold currentPath? currentDirectory?
  split <;> rfl

theorem exists?_of_isExecutable {tree : Tree} {here : Location} {path : String}
    (h : tree.isExecutable here path = true) : tree.exists? here path = true := by
  unfold isExecutable at h
  unfold exists?
  cases hstat : tree.stat here path with
  | error e => simp [hstat] at h
  | ok node => rfl

/-- What can be entered is a directory of the tree, or a removed one. -/
theorem isDirectory_of_enter {tree : Tree} {here location : Location} {path : RawPath}
    (h : tree.enter here path = .ok location) :
    tree.isDirectory location = true ∨ tree.node? location = none := by
  unfold enter at h
  cases hl : tree.locate here path with
  | error e => simp [hl, bind, Except.bind] at h
  | ok l =>
      simp only [hl, bind, Except.bind] at h
      split at h
      · injection h with h
        subst h
        exact Or.inl (by simp [isDirectory, *])
      · injection h with h
        subst h
        exact Or.inr (by assumption)
      · simp at h

end Tree

end File

end CommandShell
