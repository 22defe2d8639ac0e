import CommandShell.File.Path

/-!
# Raw Paths

A path as the system takes it is a sequence of bytes and need not be text. The
session makes its own paths, and these are texts. Others come from outside:
the home directory of the account, the target of a link, and the path of the
directory where one stands, which the system puts together from the names of
directories.

A message shows such a path with U+FFFD in the places that are not text, and a
variable keeps it in the same way, since variables are texts. So the path of a
directory and the text that the session has for it can be different things.

## Main definitions

* `RawPath`: A path as the system takes it.
* `RawPath.below`: The path of a name below it.
* `RawPath.shown`: The text that stands for it.
* `RawPath.names`: The names in it.
* `Location.path`: The absolute path of a location.
* `Location.toPath`: The text that stands for that.

## Theorems

* `shown_ofBytes`: The text is there for all bytes.
-/

namespace CommandShell

namespace File

open Text

/-- A path as the system takes it. -/
inductive RawPath where
  | text (path : String)
  /-- A path that is not text. -/
  | foreign (path : Bytes)
deriving DecidableEq

instance : Coe String RawPath :=
  ⟨RawPath.text⟩

namespace RawPath

/-- The byte between the names in a path. -/
def slashByte : UInt8 := 0x2F

/-- Whether a byte separates the names in a path. -/
def isSlashByte (b : UInt8) : Bool :=
  b = slashByte

/-- The path in some bytes. -/
def ofBytes (bytes : Bytes) : RawPath :=
  match decode? bytes with
  | some path => .text path
  | none => .foreign bytes

/-- The bytes of a path. -/
def bytes : RawPath → Bytes
  | .text path => encode path
  | .foreign path => path

/-- The path as a message shows it and a variable keeps it. -/
def shown : RawPath → String
  | .text path => path
  | .foreign path => decodeLossy path

/-- The path of a name below another path. -/
def below (base : RawPath) (name : String) : RawPath :=
  match base with
  | .text path => .text (join path name)
  | .foreign path =>
      if File.isAbsolute name then .text name
      else if path.getLast? = some slashByte then .foreign (path ++ encode name)
      else .foreign (path ++ slashByte :: encode name)

/-- Whether a path begins at the root. -/
def isAbsolute (path : RawPath) : Bool :=
  path.bytes.head? = some slashByte

/-- Whether a path ends in a slash. -/
def endsInSlash (path : RawPath) : Bool :=
  path.bytes.getLast? = some slashByte

/-- The names in a path, in order. -/
def names (path : RawPath) : List Name :=
  (solidFields isSlashByte path.bytes).map Name.mk

/-- A text stands for all bytes, and it is the path itself wherever these are text. -/
theorem shown_ofBytes (bytes : Bytes) : (ofBytes bytes).shown = decodeLossy bytes := by
  unfold ofBytes
  cases h : decode? bytes with
  | none => rfl
  | some path => exact (decode?_eq_some h).symm

end RawPath

namespace Location

/-- The absolute path of a location. -/
def path (location : Location) : RawPath :=
  .ofBytes (RawPath.slashByte :: [RawPath.slashByte].intercalate (location.map Name.bytes))

/-- The text that stands for the absolute path of a location. -/
def toPath (location : Location) : String :=
  location.path.shown

end Location

end File

end CommandShell
