import CommandShell.File.Tree
import CommandShell.Proofs.Scanning

/-!
# Paths and the Texts That Stand for Them

The system puts the path of a directory together from the names of directories, and
these are bytes. What a session has of it is a text, in which U+FFFD stands wherever the
bytes are no text. Reading this text as a path need not lead back, and no one could tell
from it where it came from.

Two things survive. The text is the path itself wherever the path is text. And a byte
without its high bit stands in the text just where it stands in the path, so the text is
absolute like the path, and it has no NUL if none of the names has one.

## Theorems

* `RawPath.shown_eq`: The text that stands for a path is what its bytes read as.
* `Location.isAbsolute_toPath`: The text that stands for a directory is absolute.
* `Location.nul_not_mem_toPath`: It has no NUL if the names have none.
* `Tree.currentPath?_of_bytes_eq`: What a session has for a directory whose path is text.
* `Tree.nul_not_mem_shown`: The text of a path that can be entered has no NUL.
-/

namespace CommandShell

namespace Text

theorem decodeLossy_encode (s : String) : decodeLossy (encode s) = s := by
  rw [encode_eq, decodeLossy_encodeChars, String.ofList_toList]

end Text

namespace File

open Text

namespace RawPath

/-- The text that stands for a path is what its bytes read as. -/
theorem shown_eq (path : RawPath) : path.shown = decodeLossy path.bytes := by
  cases path with
  | text path => exact (decodeLossy_encode path).symm
  | foreign path => rfl

/-- Where the bytes of a path are a text, this is the text that stands for it. -/
theorem shown_of_bytes_eq {path : RawPath} {text : String} (h : path.bytes = encode text) :
    path.shown = text := by
  rw [shown_eq, h, decodeLossy_encode]

end RawPath

namespace Location

variable {location : Location}

/-- The text has its first slash where the path has it, and behind it stands what the
    names read as. -/
theorem toList_toPath (location : Location) : location.toPath.toList = '/' ::
    (decodeLossy ([RawPath.slashByte].intercalate (location.map Name.bytes))).toList := by
  have hslash : RawPath.slashByte < 0x80 := by decide
  rw [toPath, path, RawPath.shown_ofBytes]
  exact decodeLossy_append_cons hslash [] _

theorem isAbsolute_toPath (location : Location) :
    RawPath.isAbsolute (.text location.toPath) = true := by
  -- The slash is encoded as itself, whatever the names behind it read as.
  have hencoded : encode location.toPath = RawPath.slashByte :: encodeChars
      (decodeLossy ([RawPath.slashByte].intercalate (location.map Name.bytes))).toList := by
    rw [encode_eq, toList_toPath]
    rfl
  rw [RawPath.isAbsolute, RawPath.bytes, hencoded]
  rfl

theorem toPath_ne_empty (location : Location) : location.toPath ≠ "" := by
  intro hempty
  have hlist := toList_toPath location
  rw [hempty] at hlist
  cases hlist

/-- Names without a NUL make a text without one. -/
theorem nul_not_mem_toPath (h : ∀ name ∈ location, 0 ∉ name.bytes) :
    '\x00' ∉ location.toPath.toList := by
  intro hnul
  rw [toPath, path, RawPath.shown_ofBytes] at hnul
  have hmem := mem_of_mem_decodeLossy (b := 0) (by decide) hnul
  have hslash : (0 : UInt8) ≠ RawPath.slashByte := by decide
  -- The byte would have to be the first slash, a slash between two names, or in a name.
  rcases List.mem_cons.1 hmem with hfirst | hrest
  · exact hslash hfirst
  · rcases mem_of_mem_intercalate hrest with hbetween | ⟨part, hpart, hzero⟩
    · exact hslash (List.mem_singleton.1 hbetween)
    · obtain ⟨name, hname, rfl⟩ := List.mem_map.1 hpart
      exact h name hname hzero

end Location

namespace Tree

variable {tree : Tree} {here : Location} {path : RawPath} {text : String}

/-- Where the path of the directory is text, this is the text that a session has for it. -/
theorem currentPath?_of_bytes_eq (h : tree.currentDirectory? here = some path)
    (htext : path.bytes = encode text) : tree.currentPath? here = some text := by
  rw [currentPath?, h, Option.map_some, RawPath.shown_of_bytes_eq htext]

/-- A NUL in the text is one in the path, and a path with a NUL leads nowhere. -/
theorem nul_not_mem_shown {location : Location} (h : tree.enter here path = .ok location) :
    '\x00' ∉ path.shown.toList := by
  intro hnul
  rw [RawPath.shown_eq] at hnul
  have hmem : (0 : UInt8) ∈ path.bytes := mem_of_mem_decodeLossy (by decide) hnul
  have herror : tree.locate here path = .error .nulInPath := if_pos hmem
  rw [enter, herror] at h
  cases h

end Tree

end File

end CommandShell
