import CommandShell.Options
import CommandShell.Prompt
import CommandShell.Shell
import CommandShell.Startup

/-!
# Invocations of the Shell

The shell is started as a process, with arguments, with the variables of the
process, and with a source of lines. What the process does is described by
what it leaves behind: the bytes on its two streams, and its exit code or the
signal that killed it.

The session's variables are those of the process that are text. What the
process itself wants to know, the home directory and the colours of the
terminal, it looks up in its entries as the system does.

The script is opened before anything is run, so a script that cannot be opened
ends the process at once. A startup file that cannot be run is reported, and
the shell goes on without it. Only a shell that talks to a user watches for
interrupts; any other is killed by the first.

A startup file is read to its end before the first line of the source is. If
both are the same pipe, under whatever names, nothing is left for the source,
and that is so as well if no line of the file can be run.

## Main definitions

* `Invocation`: How the shell is started.
* `Report`: What the process leaves behind.
* `Invocation.isOwnInput`: Whether a path leads to what the process reads its
  lines from.
* `Invocation.run`: What the process does.
-/

namespace CommandShell

open Text Child Input

/-- How the shell is started. -/
structure Invocation where
  name : String
  arguments : List String
  /-- The variables of the process, each an entry `NAME=VALUE`. -/
  entries : List Bytes
  /-- Where lines come from if no script is named. -/
  standardInput : Source
  /-- The machine; its account's home directory is the one to use where the variables name
      none. -/
  machine : Machine
  directory : File.Location
  pid : Nat

/-- What a process leaves behind. -/
structure Report where
  /-- The exit code, unless the process was killed. -/
  code : Option Int
  /-- The signal that killed the process, if one did. -/
  signal : Option Int
  output : Bytes
  diagnostics : Bytes

/-- The report of a process that wrote at most one text to each stream. -/
def Report.brief (code : Int) (output diagnostics : String) : Report :=
  ⟨some code, none, encode output, encode diagnostics⟩

namespace Invocation

/-- The text for the question of which version this is. -/
def versionText : String := "hsh 0.1.0\n"

/-- The bytes that a file hands out at a time. -/
def blockSize : Nat := 8192

/-- The lines of a script. A directory can be opened but not read. -/
def openScript (m : Machine) (here : File.Location) (path : String) :
    Except ShellError Source :=
  match m.files.stat here path with
  | .error e => .error (.script path e)
  | .ok .directory => .ok (.feed ⟨[], some .isDirectory⟩)
  | .ok (.regular content _) => .ok (.feed (Feed.ofBytes content blockSize none))
  | .ok (.pipe feed) => .ok (.feed feed)
  | .ok .input => .ok (.feed m.files.input)
  | .ok .device | .ok (.link _) => .ok (.feed ⟨[], none⟩)

/-- Whether an event kills a process that does not watch for interrupts. -/
def isDeadly : Event → Bool
  | .ran _ answer => answer.interrupts
  | .wrote _ _ _ => false

/-- The report of a process whose session has this journal. If the process does not watch
    for interrupts, all that comes after the first never happened. -/
def reportOf (journal : Journal) (watching : Bool) (code : Int) : Report :=
  let events := journal.events.toList
  if !watching && events.any isDeadly then
    -- The program that interrupts may still write; the shell may not.
    let lived := events.takeWhile (!isDeadly ·) ++ (events.find? isDeadly).toList
    let cut : Journal := { journal with events := lived.toArray }
    ⟨none, some interruptSignal, cut.shown .standardOutput, cut.shown .standardError⟩
  else
    ⟨some (code % 256), none, journal.shown .standardOutput, journal.shown .standardError⟩

/-- A message of the process itself. -/
def complaint (inv : Invocation) (reason : String) : String :=
  inv.name ++ ": " ++ reason ++ "\n"

/-- The variables of the process that are text. -/
def environment (inv : Invocation) : Environment :=
  Environment.inherited inv.entries

/-- A variable of the process as the system looks it up: of two entries the first one
    counts. -/
def lookUp? (inv : Invocation) (name : String) : Option Bytes :=
  Environment.firstValue? (encode name) inv.entries

/-- The home directory that the variables of the process name, or else that of the
    account. -/
def accountHome (inv : Invocation) : Option File.RawPath :=
  match inv.lookUp? "HOME" with
  | some home => if home.isEmpty then inv.machine.accountHome else some (.ofBytes home)
  | none => inv.machine.accountHome

/-- The machine as the process sees it. -/
def host (inv : Invocation) : Machine :=
  { inv.machine with
    files := inv.machine.files.withInput inv.standardInput.remaining
    accountHome := inv.accountHome }

/-- The session with which the process begins. -/
def freshSession (inv : Invocation) (interactive : Bool) : Session :=
  { state := State.initial inv.name inv.environment inv.pid
    directory := inv.directory
    monitor := if interactive then Interrupt.Monitor.new.install else Interrupt.Monitor.new
    journal := Journal.new none none }

/-- The session after the startup file; what went wrong with it is reported. -/
def startUp (inv : Invocation) (startup : Startup) (s : Session) : Session :=
  match startup.load inv.host s with
  | (s, .ok ()) => s
  | (s, .error e) => (s.write .standardError (inv.complaint e.message)).1

/-- What the process reads its lines from, if that gives them only once. -/
def sourceChannel? (inv : Invocation) (options : Options) : Option File.Channel :=
  match options.script with
  | none => some .input
  | some path => inv.host.files.channel? inv.directory path

/-- Whether a path leads to what the process reads its lines from, so that whoever reads
    the file takes the lines away. -/
def isOwnInput (inv : Invocation) (options : Options) (path : File.RawPath) : Bool :=
  match inv.host.files.channel? inv.directory path with
  | some channel => inv.sourceChannel? options = some channel
  | none => false

/-- The source as the startup file leaves it, if there is one. -/
def sourceBehind (inv : Invocation) (options : Options) (startup : Startup) (source : Source) :
    Source :=
  match startup.path with
  | some path => if inv.isOwnInput options path then source.drained else source
  | none => source

/-- The shell reads lines and runs them to the end. -/
def runShell (inv : Invocation) (options : Options) (source : Source) : Report :=
  let interactive := source.isInteractive
  let startup := Startup.choose options.rc interactive inv.host.accountHome
  let shell : Shell :=
    { session := inv.startUp startup (inv.freshSession interactive)
      source := inv.sourceBehind options startup source
      prompt := Prompt.prompt fun name => (inv.lookUp? name).bind decode? }
  match shell.run inv.host with
  | (after, .ok code) => reportOf after.session.journal interactive code
  | (after, .error e) =>
      let (s, _) := after.session.write .standardError (inv.complaint e.message)
      reportOf s.journal interactive 2

/-- What the process does. -/
def run (inv : Invocation) : Report :=
  match Options.none.parse inv.arguments with
  | (_, .error e) => Report.brief 2 "" (inv.complaint (ShellError.options e.message).message)
  | (options, .ok ()) =>
      if options.help then Report.brief 0 Options.usageText ""
      else if options.version then Report.brief 0 versionText ""
      else
        match options.script with
        | none => inv.runShell options inv.standardInput
        | some path =>
            match openScript inv.host inv.directory path with
            | .ok source => inv.runShell options source
            | .error e => Report.brief statusNotFound "" (inv.complaint ("0: " ++ e.message))

end Invocation

end CommandShell
