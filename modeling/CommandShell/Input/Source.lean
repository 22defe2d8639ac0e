import CommandShell.Input.Terminal
import CommandShell.Text.Grapheme.Cluster

/-!
# Sources of Lines

Lines come from a feed of bytes or from a user at a terminal. A terminal that
cannot be controlled gives one plain line at a time, in which backspaces may
stand that were typed; it has to be UTF-8. A read that gives nothing is the end
of the file, and it ends the line of which something has been read already. A
terminal always comes to an end.

## Main definitions

* `Source`: Where lines come from.
* `Source.remaining`: What is to be had from it all at once.
* `Source.readLine`: The next line.
* `Failure`: Why no line could be read.

## Theorems

* `size_readLine_lt`: A line takes bytes away.
-/

namespace CommandShell

namespace Input

open Text

/-- What can happen to the editing of a line. -/
inductive EditorError where
  /-- The input has come to its end. -/
  | ended
  /-- The user gave up the line. -/
  | interrupted
  | transfer (cause : SystemError)
deriving DecidableEq

/-- The words for what happened. -/
def EditorError.message : EditorError → String
  | .ended => "EOF"
  | .interrupted => "Interrupted"
  | .transfer cause => cause.message

/-- Why no line could be read. -/
inductive Failure where
  | feed (cause : SystemError)
  | editor (cause : EditorError)
deriving DecidableEq

/-- Where lines come from. -/
inductive Source where
  | feed (f : Feed)
  /-- A terminal, with what it still gives, read by read. -/
  | terminal (reads : List Bytes)

namespace Source

/-- Whether a user is at the other end. -/
def isInteractive : Source → Bool
  | .feed _ => false
  | .terminal _ => true

/-- The number of bytes that are still to come. -/
def size : Source → Nat
  | .feed f => f.size
  | .terminal reads => reads.flatten.length

/-- A terminal on which keys are pressed. -/
def ofTyped (keys : Bytes) : Source :=
  .terminal (readsOf keys)

/-- Whether a read is not the end of the file. -/
def isSolid (read : Bytes) : Bool :=
  !read.isEmpty

/-- What a reader gets who takes the source for a file like others: from a terminal, all
    that comes before the end of the file. -/
def remaining : Source → Feed
  | .feed f => f
  | .terminal reads => ⟨reads.takeWhile isSolid, none⟩

/-- The source when such a reader has come to the end of the file. -/
def drained : Source → Source
  | .feed f => .feed f.drained
  | .terminal reads => .terminal (reads.dropWhile isSolid).tail

/-- The next line that was typed, and the reads behind it. -/
def readTyped (reads : List Bytes) : Except Failure (Option String) × List Bytes :=
  let taken := takeLine (reads.takeWhile isSolid)
  let later := reads.dropWhile isSolid
  -- The end of the file is used up by the line that it ends.
  let after := if taken.ranOut then later.tail else taken.rest ++ later
  if taken.line.isEmpty then (.ok none, after)
  else
    match decode? (withoutEnd taken.line) with
    | some text => (.ok (some (applyBackspaces text)), after)
    | none => (.error (.editor (.transfer .notUtf8)), after)

/-- The next line, if there is one, and the source behind it. -/
def readLine : Source → Except Failure (Option String) × Source
  | .feed f =>
      match f.readLine with
      | (.ok line, after) => (.ok line, .feed after)
      | (.error e, after) => (.error (.feed e), .feed after)
  | .terminal reads =>
      let (line, after) := readTyped reads
      (line, .terminal after)

theorem length_readTyped_lt {reads after : List Bytes} {line : String}
    (h : readTyped reads = (.ok (some line), after)) :
    after.flatten.length < reads.flatten.length := by
  unfold readTyped at h
  dsimp only at h
  split at h
  · simp at h
  · rename_i hline
    have hlt := @length_rest_lt (reads.takeWhile isSolid) (by simpa using hline)
    have hsplit := congrArg (·.flatten.length)
      (List.takeWhile_append_dropWhile (p := isSolid) (l := reads))
    simp only [List.flatten_append, List.length_append] at hsplit
    split at h
    · injection h with _ hafter
      subst hafter
      split
      · have htail : (reads.dropWhile isSolid).tail.flatten.length
            ≤ (reads.dropWhile isSolid).flatten.length := by
          cases reads.dropWhile isSolid <;> simp
        omega
      · simp only [List.flatten_append, List.length_append]
        omega
    · simp at h

/-- Each line takes bytes away, so a source is read to its end in finitely many steps. -/
theorem size_readLine_lt {source after : Source} {line : String}
    (h : source.readLine = (.ok (some line), after)) : after.size < source.size := by
  unfold readLine at h
  split at h
  · rename_i f
    split at h
    · rename_i l after' hfeed
      injection h with hline hafter
      injection hline with hline
      subst hline hafter
      exact Feed.size_readLine_lt hfeed
    · simp at h
  · rename_i reads
    injection h with hline hafter
    subst hafter
    exact length_readTyped_lt (Prod.ext hline rfl)

end Source

end Input

end CommandShell
