import CommandShell.Child.Spawner

/-!
# The Journal of a Session

All that a session does to the world outside is to write text to its two
streams and to ask for programs to be run. The journal keeps this in order.
What stood on a stream in the end, what was tried in vain, and which programs
were run are views of it.

A stream may break: it takes a number of bytes and refuses all that come
after. A text that does not fit is taken as far as there is room, and the
writer learns of the error. An entry therefore says how many bytes of its text
arrived.

## Main definitions

* `Stream`: The two streams of a session.
* `Event`: Something that a session did.
* `Journal`: All that a session did, and the room left on its streams.
* `Journal.write`: A text is written to a stream.
* `Journal.received`: The bytes that the session brought onto a stream.
* `Journal.requests`: The programs that were run.
* `Journal.shown`: The bytes on a stream that is shared with the programs.

## Theorems

* `requests_write`: Writing asks for no program.
* `attempted_write`: A text is handed to its stream and to no other.
* `write_of_room_none`: A stream without a limit takes every text.
-/

namespace CommandShell

open Text Child

/-- The two streams of a session. -/
inductive Stream where
  | standardOutput
  | standardError
deriving DecidableEq

/-- Something that a session did. -/
inductive Event where
  /-- A text was written to a stream, and `taken` of its bytes arrived. -/
  | wrote (stream : Stream) (text : String) (taken : Nat)
  /-- A program was asked for, with what came of it. -/
  | ran (request : Request) (answer : Answer)

/-- All that a session did, and how many more bytes each stream takes. -/
structure Journal where
  events : Array Event
  /-- The bytes that the standard output still takes, if they are limited. -/
  outputRoom : Option Nat
  /-- The bytes that the standard error still takes, if they are limited. -/
  errorRoom : Option Nat

/-- How many of `size` bytes are taken where there is `room`. -/
def takenOf (room : Option Nat) (size : Nat) : Nat :=
  match room with
  | none => size
  | some n => min n size

/-- The room left once `size` bytes have been written. -/
def roomAfter (room : Option Nat) (size : Nat) : Option Nat :=
  room.map (· - size)

namespace Journal

/-- A journal with nothing in it, on streams with the given room. -/
def new (outputRoom errorRoom : Option Nat) : Journal :=
  ⟨#[], outputRoom, errorRoom⟩

/-- The bytes that a stream still takes, if they are limited. -/
def room (j : Journal) : Stream → Option Nat
  | .standardOutput => j.outputRoom
  | .standardError => j.errorRoom

/-- The journal with an event at its end. -/
def add (j : Journal) (event : Event) : Journal :=
  { j with events := j.events.push event }

/-- A text is written to a stream; it fails unless all of it is taken. -/
def write (j : Journal) (stream : Stream) (text : String) :
    Journal × Except SystemError Unit :=
  let size := text.utf8ByteSize
  let taken := takenOf (j.room stream) size
  let noted := j.add (.wrote stream text taken)
  let after :=
    match stream with
    | .standardOutput => { noted with outputRoom := roomAfter j.outputRoom size }
    | .standardError => { noted with errorRoom := roomAfter j.errorRoom size }
  (after, if taken = size then .ok () else .error .brokenPipe)

/-- The texts handed to a stream, whether they arrived or not. -/
def attempted (j : Journal) (stream : Stream) : List String :=
  j.events.toList.filterMap fun
    | .wrote target text _ => if target = stream then some text else none
    | .ran _ _ => none

/-- The bytes of one event that the session itself brought onto a stream. -/
def Event.received (stream : Stream) : Event → Bytes
  | .wrote target text taken => if target = stream then (encode text).take taken else []
  | .ran _ _ => []

/-- The bytes that the session itself brought onto a stream. -/
def received (j : Journal) (stream : Stream) : Bytes :=
  j.events.toList.flatMap (Event.received stream)

/-- The programs that were asked for, in order. -/
def requests (j : Journal) : List Request :=
  j.events.toList.filterMap fun
    | .ran request _ => some request
    | .wrote _ _ _ => none

/-- The bytes of one event on a stream that is shared with the programs. -/
def Event.shown (stream : Stream) : Event → Bytes
  | .wrote target text taken => if target = stream then (encode text).take taken else []
  | .ran _ answer =>
      match stream with
      | .standardOutput => answer.output
      | .standardError => answer.diagnostics

/-- The bytes on a stream that is shared with the programs. -/
def shown (j : Journal) (stream : Stream) : Bytes :=
  j.events.toList.flatMap (Event.shown stream)

@[simp]
theorem requests_add_ran (j : Journal) (request : Request) (answer : Answer) :
    (j.add (.ran request answer)).requests = j.requests ++ [request] := by
  simp [requests, add]

@[simp]
theorem requests_write (j : Journal) (stream : Stream) (text : String) :
    (j.write stream text).1.requests = j.requests := by
  cases stream <;> simp [requests, write, add]

@[simp]
theorem attempted_add_ran (j : Journal) (request : Request) (answer : Answer) (stream : Stream) :
    (j.add (.ran request answer)).attempted stream = j.attempted stream := by
  simp [attempted, add]

/-- A text is handed to its stream and to no other. -/
theorem attempted_write (j : Journal) (stream target : Stream) (text : String) :
    (j.write stream text).1.attempted target
      = j.attempted target ++ if stream = target then [text] else [] := by
  cases stream <;> cases target <;> simp [attempted, write, add]

/-- A stream without a limit takes every text. -/
theorem write_of_room_none {j : Journal} {stream : Stream} (h : j.room stream = none)
    (text : String) : (j.write stream text).2 = .ok () := by
  cases stream <;> simp_all [write, takenOf, room]

end Journal

end CommandShell
