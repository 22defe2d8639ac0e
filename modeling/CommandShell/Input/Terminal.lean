import CommandShell.Input.Feed

/-!
# Terminals

A terminal keeps the line that is being typed to itself, so that keys can
still be taken back, and hands it out when it is ended. Some keys do not go
into the line but change it: they take away the last byte, the last word or
everything. Others make the terminal hand out what there is without a
newline, which for an empty line is read as the end of the file, or throw away
all that nobody has read yet. A key after the quoting key always goes into the
line.

The line has a largest size. When it is full, each further key takes the place
of the last one.

Nothing is read before everything has been typed, so what a reader gets is a
function of the keys.

## Main definitions

* `Key`: What a key does.
* `Terminal`: What has been handed out, and the line that is being typed.
* `Terminal.press`: A key is pressed.
* `readsOf`: What one gets from a terminal, read by read.

## Theorems

* `press_enter`: The key for a line's end hands the line out.
* `press_erase`: A key can be taken back.
-/

namespace CommandShell

namespace Input

open Text

/-- What a key does. -/
inductive Key where
  /-- Ends the line with a newline. -/
  | enter
  /-- Hands out what there is of the line. -/
  | endOfFile
  | eraseByte
  | eraseWord
  | eraseLine
  /-- Makes the next key go into the line. -/
  | quote
  /-- Throws away all that has not been read. -/
  | discard
  /-- Stops or starts what the terminal shows, which is none of a reader's business. -/
  | flow
  /-- Goes into the line. -/
  | plain
deriving DecidableEq

/-- What the key for a byte does. -/
def Key.ofByte (b : UInt8) : Key :=
  if b = newlineByte || b = returnByte then .enter
  else if b = 0x04 then .endOfFile
  else if b = 0x7F then .eraseByte
  else if b = 0x17 then .eraseWord
  else if b = 0x15 then .eraseLine
  else if b = 0x16 then .quote
  -- The keys for an interrupt, for quitting and for a suspension.
  else if b = 0x03 || b = 0x1C || b = 0x1A then .discard
  else if b = 0x11 || b = 0x13 then .flow
  else .plain

/-- What has been handed out, and the line that is being typed. -/
structure Terminal where
  /-- What has been handed out and not been read, last first. -/
  handedOut : List Bytes
  /-- The line that is being typed, last byte first. -/
  line : Bytes
  /-- Whether the next key goes into the line whatever it does. -/
  quoting : Bool
deriving DecidableEq

namespace Terminal

/-- Before a key has been pressed. -/
def fresh : Terminal :=
  ⟨[], [], false⟩

/-- The largest size of a line, with its end. -/
def lineLimit : Nat := 4096

/-- Whether a byte belongs to a word. The terminal takes bytes beyond ASCII for characters
    of Latin-1. -/
def isWordByte (b : UInt8) : Bool :=
  b < 0x80 && (Char.ofNat b.toNat).isAlphanum
    || b = 0x5F || 0xC0 ≤ b && b ≠ 0xD7 && b ≠ 0xF7

/-- A line, last byte first, without its last word and what stands behind the word. -/
def withoutWord (line : Bytes) : Bytes :=
  (line.dropWhile (!isWordByte ·)).dropWhile isWordByte

/-- The terminal with room for one more byte in the line. -/
def makeRoom (t : Terminal) : Terminal :=
  if t.line.length < lineLimit then t else { t with line := t.line.tail }

/-- The terminal after it has handed out its line, ended in `mark`. -/
def handOut (t : Terminal) (mark : Bytes) : Terminal :=
  { t with handedOut := (t.line.reverse ++ mark) :: t.handedOut, line := [] }

/-- What a key does to a terminal with room in its line. -/
def act (t : Terminal) (b : UInt8) : Terminal :=
  if t.quoting then { t with line := b :: t.line, quoting := false }
  else
    match Key.ofByte b with
    | .enter => t.handOut [newlineByte]
    | .endOfFile => t.handOut []
    | .eraseByte => { t with line := t.line.tail }
    | .eraseWord => { t with line := withoutWord t.line }
    | .eraseLine => { t with line := [] }
    | .quote => { t with quoting := true }
    | .discard => { t with handedOut := [], line := [] }
    | .flow => t
    | .plain => { t with line := b :: t.line }

/-- A key is pressed. -/
def press (t : Terminal) (b : UInt8) : Terminal :=
  t.makeRoom.act b

/-- What has been handed out, first to last, once nothing more is typed. -/
def reads (t : Terminal) : List Bytes :=
  (if t.line.isEmpty then t.handedOut else (t.handOut []).handedOut).reverse

theorem makeRoom_of_lt {t : Terminal} (h : t.line.length < lineLimit) : t.makeRoom = t :=
  if_pos h

/-- The key for a line's end hands the line out. -/
theorem press_enter {t : Terminal} {b : UInt8} (hroom : t.line.length < lineLimit)
    (hquoting : t.quoting = false) (hkey : Key.ofByte b = .enter) :
    t.press b = t.handOut [newlineByte] := by
  simp [press, makeRoom_of_lt hroom, act, hquoting, hkey]

/-- A key that went into the line can be taken back. -/
theorem press_erase {t : Terminal} {b erase : UInt8} (hroom : t.line.length + 1 < lineLimit)
    (hquoting : t.quoting = false) (hkey : Key.ofByte b = .plain)
    (herase : Key.ofByte erase = .eraseByte) : (t.press b).press erase = t := by
  have hplain : t.press b = { t with line := b :: t.line } := by
    simp [press, makeRoom_of_lt (Nat.lt_of_succ_lt hroom), act, hquoting, hkey]
  rw [hplain, press, makeRoom_of_lt (by simpa using hroom)]
  cases t
  simp_all [act]

end Terminal

/-- What one gets from a terminal on which keys are pressed, read by read; an empty read
    is the end of the file. -/
def readsOf (keys : Bytes) : List Bytes :=
  (keys.foldl Terminal.press Terminal.fresh).reads

end Input

end CommandShell
