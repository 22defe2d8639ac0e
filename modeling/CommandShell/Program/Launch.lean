import CommandShell.File.Search
import CommandShell.Program.Script

/-!
# Launching Programs

A program is launched by its path. The file has to be executable, and its
first line may name the interpreter that runs it; without such a line the
command interpreter of the machine runs it, and that is also the only
interpreter the machine has. A name without a slash is looked for in the
directories that the program's own variables list.

Texts that go into a program are ended by a NUL, so none may hold one. There
is only so much room for them: for each, and for all of them together with a
pointer to each.

## Main definitions

* `interpreter?`: The interpreter named in a file's first line.
* `fits`: Whether there is room for what a program is started with.
* `launch`: A file is run as a program.
* `launchNamed`: A program is looked for and run.
* `spawner`: The spawner of a machine with some files.
-/

namespace CommandShell

namespace Program

open Text Child File

/-- The path of the command interpreter. -/
def interpreterPath : String := "/bin/sh"

/-- The interpreter named in the first line of a file, if the line names one. -/
def interpreter? (content : Bytes) : Option String :=
  match content with
  | 0x23 :: 0x21 :: rest =>
      let line := decodeLossy (rest.takeWhile (· ≠ 0x0A))
      (scriptWords line).head?
  | _ => none

/-- The variables as a program imports them: each arrives as one text, which is cut at its
    first `=`. -/
def importVariables (env : Environment) : List (String × String) :=
  env.toList.map fun (name, value) =>
    let whole := (name ++ "=" ++ value).toList
    (String.ofList (whole.takeWhile (· ≠ '=')),
      String.ofList (whole.dropWhile (· ≠ '=')).tail)

/-- The bytes that a text takes, with its end. -/
def footprint (s : String) : Nat :=
  s.utf8ByteSize + 1

/-- The bytes that one text can take. -/
def maxTextSize : Nat := 131072

/-- The bytes that all texts can take, which is a quarter of the stack. -/
def maxLoadSize : Nat := 2097152

/-- The bytes of a pointer to a text. -/
def pointerSize : Nat := 8

/-- The bytes that the program at `path` is started with. -/
def loadSize (path : String) (texts : List String) : Nat :=
  footprint path + texts.foldr (fun text size => footprint text + size) 0
    + pointerSize * texts.length

/-- Whether there is room for what the program at `path` is started with. -/
def fits (path : String) (texts : List String) : Bool :=
  texts.all (footprint · ≤ maxTextSize) && loadSize path texts ≤ maxLoadSize

/-- The entries of a program's environment. -/
def entriesOf (env : Environment) : List String :=
  env.toList.map fun (name, value) => name ++ "=" ++ value

/-- Whether there is room for a file's interpreter besides what the file was started
    with; with none named, the file is started again as an argument of the command
    interpreter. -/
def fitsInterpreted (path name : String) (more : List String) : Option String → Bool
  | none => fits interpreterPath (interpreterPath :: path :: more)
  | some interpreter =>
      -- The path takes the place of the name.
      loadSize path (name :: more) + footprint path + footprint interpreter
        ≤ maxLoadSize + footprint name

/-- A file is run as a program. -/
def launch (files : Tree) (request : Request) (path : String) : Except SystemError Answer := do
  match ← files.stat request.directory path with
  | .regular content true =>
      let interpreter := interpreter? content
      let name := request.arguments.headD request.program
      let more := request.arguments.tail ++ entriesOf request.environment
      if fits path (name :: more) && fitsInterpreted path name more interpreter then
        let call : Call :=
          { files := files
            directory := request.directory
            path := path
            arguments := request.arguments.tail
            imported := importVariables request.environment }
        let answer := call.run (decodeLossy content)
        match interpreter with
        | none => .ok answer
        | some interpreter =>
            if interpreter = interpreterPath then .ok answer
            else
              match files.stat request.directory interpreter with
              | .error e => .error e
              | .ok (.regular _ true) => .ok answer
              | .ok _ => .error .accessDenied
      else .error .argumentListTooLong
  | _ => .error .accessDenied

/-- The error of a search: that access was denied, if that happened anywhere, and
    otherwise that there is no such program. -/
def searchError (denied : Bool) : SystemError :=
  if denied then .accessDenied else .noEntry

/-- A program is looked for in some directories and run. -/
def launchFirst (files : Tree) (request : Request) (denied : Bool) :
    List String → Except SystemError Answer
  | [] => .error (searchError denied)
  | directory :: more =>
      match launch files request (join directory request.program) with
      | .ok answer => .ok answer
      | .error e =>
          if e = .accessDenied then launchFirst files request true more
          else if e = .noEntry || e = .notDirectory then launchFirst files request denied more
          else .error e

/-- The directories that are searched if the variables list none. -/
def defaultSearchPath : String := "/bin:/usr/bin"

/-- A program is run, and looked for first if its name has no slash. -/
def launchNamed (files : Tree) (request : Request) : Except SystemError Answer :=
  if request.program = "" then .error .noEntry
  else if '/' ∈ request.program.toList then launch files request request.program
  else
    launchFirst files request false
      (searchPath ((request.environment.get? "PATH").getD defaultSearchPath))

/-- Whether a text can be handed to a program. -/
def isHandable (s : String) : Bool :=
  !s.toList.contains '\x00'

/-- Whether all texts of a request can be handed to a program. -/
def canBeHanded (request : Request) : Bool :=
  isHandable request.program
    && request.arguments.all isHandable
    && request.environment.toList.all fun (name, value) => isHandable name && isHandable value

/-- The answer of a machine with some files. -/
def answer (files : Tree) (request : Request) : Answer :=
  if canBeHanded request then
    match launchNamed files request with
    | .ok a => a
    | .error e => .quiet (.error (.ofSpawn (request.arguments.headD request.program) e))
  else .quiet (.error (.spawn .nulInCommand))

/-- The spawner of a machine with some files: programs leave no trace, so what was run
    before does not matter. -/
def spawner (files : Tree) : Spawner :=
  fun _ request => answer files request

end Program

end CommandShell
