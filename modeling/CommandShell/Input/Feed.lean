import CommandShell.System.Error
import CommandShell.Text.Lines
import CommandShell.Text.Utf8

/-!
# Feeds of Bytes

A pipe or a file hands out its bytes in chunks, whose sizes mean nothing, and
comes to an end or breaks. Lines are read from it one at a time: all bytes up
to a newline, without the newline and a carriage return directly before it.
What follows the last newline is a line if it holds something.

A line that breaks off because the feed breaks is lost, and the error comes
again whenever one reads on.

## Main definitions

* `Feed`: The bytes that are still to come.
* `Feed.size`: Their number.
* `Feed.contents`: All of them at once.
* `takeLine`: The bytes up to a newline, whatever the chunks.
* `Feed.readLine`: The next line.

## Theorems

* `takeLine_flatten`: Nothing is lost or put in another order.
* `line_takeLine`: The chunks do not matter for what is taken.
* `size_readLine_lt`: A line takes bytes away.
-/

namespace CommandShell

namespace Input

open Text

/-- The byte that ends a line. -/
def newlineByte : UInt8 := 0x0A

/-- The byte of a carriage return. -/
def returnByte : UInt8 := 0x0D

/-- The bytes that are still to come, and the error in which they end, if it is not simply
    an end. -/
structure Feed where
  chunks : List Bytes
  ending : Option SystemError
deriving DecidableEq

/-- Whether a byte belongs to the line before it ends. -/
def isInside (b : UInt8) : Bool :=
  b ≠ newlineByte

/-- What is left to read when `tail` is left of a chunk. -/
def pushBack (tail : Bytes) (more : List Bytes) : List Bytes :=
  if tail.isEmpty then more else tail :: more

/-- The bytes of a line, newline included, and the chunks behind it. -/
structure Taken where
  line : Bytes
  rest : List Bytes
  /-- The chunks ran out before a newline came. -/
  ranOut : Bool

/-- The bytes up to and including the first newline. -/
def takeLine : List Bytes → Taken
  | [] => ⟨[], [], true⟩
  | chunk :: more =>
      match chunk.dropWhile isInside with
      | [] =>
          let taken := takeLine more
          { taken with line := chunk ++ taken.line }
      | mark :: tail => ⟨chunk.takeWhile isInside ++ [mark], pushBack tail more, false⟩

/-- The bytes of a line without its end. -/
def withoutEnd (line : Bytes) : Bytes :=
  chomp newlineByte returnByte line

namespace Feed

/-- A feed that hands out `bytes` in chunks of at most `size` bytes. -/
def ofBytes (bytes : Bytes) (size : Nat) (ending : Option SystemError) : Feed :=
  ⟨chunksOf bytes.length bytes, ending⟩
where
  /-- The chunks, of which there are at most `count`. -/
  chunksOf : Nat → Bytes → List Bytes
    | 0, _ => []
    | count + 1, rest =>
        if rest.isEmpty then []
        else if size = 0 then [rest]
        else rest.take size :: chunksOf count (rest.drop size)

/-- The number of bytes that are still to come. -/
def size (feed : Feed) : Nat :=
  feed.chunks.flatten.length

/-- All bytes that are still to come, for a reader who wants them at once. -/
def contents (feed : Feed) : Except SystemError Bytes :=
  match feed.ending with
  | none => .ok feed.chunks.flatten
  | some e => .error e

/-- The feed when it has been read to its end. -/
def drained (feed : Feed) : Feed :=
  { feed with chunks := [] }

/-- The next line, if there is one, and the feed behind it. -/
def readLine (feed : Feed) : Except SystemError (Option String) × Feed :=
  let taken := takeLine feed.chunks
  let after := { feed with chunks := taken.rest }
  match taken.ranOut, feed.ending with
  -- The feed broke before the line was complete, and what there was is lost.
  | true, some e => (.error e, after)
  | _, _ =>
      if taken.line.isEmpty then (.ok none, after)
      else (.ok (some (decodeLossy (withoutEnd taken.line))), after)

end Feed

theorem flatten_pushBack (tail : Bytes) (more : List Bytes) :
    (pushBack tail more).flatten = tail ++ more.flatten := by
  unfold pushBack
  cases tail <;> simp

/-- Nothing is lost or put in another order. -/
theorem takeLine_flatten (chunks : List Bytes) :
    (takeLine chunks).line ++ (takeLine chunks).rest.flatten = chunks.flatten := by
  induction chunks with
  | nil => rfl
  | cons chunk more ih =>
      unfold takeLine
      split
      · simp [ih]
      · rename_i mark tail heq
        have hsplit := @List.takeWhile_append_dropWhile _ isInside chunk
        rw [heq] at hsplit
        simpa [flatten_pushBack] using congrArg (· ++ more.flatten) hsplit

/-- What is taken depends on the bytes and not on the chunks in which they come. -/
theorem line_takeLine (chunks : List Bytes) :
    (takeLine chunks).line
      = chunks.flatten.takeWhile isInside ++ (chunks.flatten.dropWhile isInside).take 1 := by
  induction chunks with
  | nil => rfl
  | cons chunk more ih =>
      unfold takeLine
      split
      · rename_i heq
        -- No byte of this chunk ends the line, so the line goes on in the next one.
        have hwhole : chunk.takeWhile isInside = chunk := by
          simpa [heq] using @List.takeWhile_append_dropWhile _ isInside chunk
        have hinside : ∀ b ∈ chunk, isInside b = true :=
          List.all_eq_true.1 (hwhole ▸ List.all_takeWhile)
        simp [ih, List.takeWhile_append_of_pos hinside, List.dropWhile_append_of_pos hinside]
      · rename_i mark tail heq
        -- The line ends in this chunk, so the chunks behind it are not looked at.
        have htake : (chunk.takeWhile isInside).length ≠ chunk.length := by
          have hsplit := congrArg List.length (@List.takeWhile_append_dropWhile _ isInside chunk)
          rw [List.length_append, heq, List.length_cons] at hsplit
          omega
        simp [List.takeWhile_append, List.dropWhile_append, htake, heq]

theorem length_rest_lt {chunks : List Bytes} (h : (takeLine chunks).line.isEmpty = false) :
    (takeLine chunks).rest.flatten.length < chunks.flatten.length := by
  have hflat := congrArg List.length (takeLine_flatten chunks)
  rw [List.length_append] at hflat
  have : 0 < (takeLine chunks).line.length := by
    cases hl : (takeLine chunks).line with
    | nil => simp [hl] at h
    | cons b rest => simp
  omega

/-- A line that was read took bytes away. -/
theorem Feed.size_readLine_lt {feed after : Feed} {line : String}
    (h : feed.readLine = (.ok (some line), after)) : after.size < feed.size := by
  unfold Feed.readLine at h
  dsimp only at h
  split at h
  · simp at h
  · split at h
    · simp at h
    · rename_i hline
      injection h with _ hafter
      subst hafter
      exact length_rest_lt (by simpa using hline)

end Input

end CommandShell
