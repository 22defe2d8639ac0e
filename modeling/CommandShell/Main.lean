import CommandShell.Invocation

/-!
# The Command Line

The shell as a program. It collects what an invocation is made of: the
arguments, the entries of the process's environment, the input, and the files
that the arguments name. Then it asks for the report and passes it on.

The machine consists of those files, of the directory where the program was
started and of the home directory. There are no programs on it, so every
command that is not a builtin is reported as not found. The input is read
before the files are, and under its own name it is not taken for one of them.

## Main definitions

* `invocation`: The invocation of this process.
* `main`: The program.
-/

namespace CommandShell

namespace CommandLine

open Text Input

/-- The bytes of a file, if it can be read. -/
def fileBytes? (path : String) : IO (Option Bytes) := do
  try
    let bytes ← IO.FS.readBinFile path
    return some bytes.toList
  catch _ => return none

/-- The entries of a process's environment, each of which a NUL ends. -/
def entriesOf (bytes : Bytes) : List Bytes :=
  (bytes.splitBy fun a b => a ≠ 0 && b ≠ 0).filter (· ≠ [0])

/-- The location that a path names from a directory, links not followed. -/
def locationOf (here : File.Location) (path : String) : File.Location :=
  File.Tree.start here path ++ File.RawPath.names path

/-- The tree with the file of a path, if it can be read. -/
def addFile (here : File.Location) (tree : File.Tree) (path : String) : IO File.Tree := do
  let location := locationOf here path
  if location = File.Tree.inputLocation then return tree
  match ← fileBytes? path with
  | some bytes => return tree.putBelow location (.regular bytes false)
  | none => return tree

/-- The bytes of a stream, up to its end. -/
partial def readAll (stream : IO.FS.Stream) (read : ByteArray) : IO ByteArray := do
  let block ← stream.read 8192
  if block.isEmpty then return read else readAll stream (read ++ block)

/-- The program that runs lines it was not told the name of. -/
def programName : String := "hsh"

/-- The invocation of this process. -/
def invocation (args : List String) : IO Invocation := do
  let entries := entriesOf ((← fileBytes? "/proc/self/environ").getD [])
  let environment := Environment.inherited entries
  let here := File.RawPath.names ((environment.get? "PWD").getD "/")
  let home := environment.get? "HOME"
  let homes := home.toList.map fun path : String => File.RawPath.names path
  let directories := (here :: homes).foldl File.Tree.putDirectories File.Tree.empty
  let stdin ← IO.getStdin
  let typed := (← readAll stdin ByteArray.empty).toList
  let named := home.toList.map (File.join · Startup.defaultName) ++ args
  let files ← named.foldlM (addFile here) directories
  return {
    name := programName
    arguments := args
    entries := entries
    standardInput :=
      if ← stdin.isTty then .terminal [typed]
      else .feed (.ofBytes typed Invocation.blockSize none)
    machine :=
      { files := files
        accountHome := home.map .text
        spawner := fun _ r => .quiet (.error (.notFound r.program)) }
    directory := here
    pid := 0 }

end CommandLine

end CommandShell

/-- The shell as a program: its report goes to the two streams, and its code becomes the
    code of the process. -/
def main (args : List String) : IO UInt32 := do
  let report := (← CommandShell.CommandLine.invocation args).run
  let stdout ← IO.getStdout
  stdout.write report.output.toByteArray
  stdout.flush
  let stderr ← IO.getStderr
  stderr.write report.diagnostics.toByteArray
  stderr.flush
  return (report.code.getD 130).toNat.toUInt32
