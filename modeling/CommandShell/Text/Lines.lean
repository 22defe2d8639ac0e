/-!
# Lines

A line ends at a newline, and a carriage return directly before that newline
belongs to the line's end. What follows the last newline is a line only if it
holds something, and it keeps a carriage return at its end, since no newline
follows it.

The same rule is needed for characters and for bytes, so it is stated for
lists of any kind with the two marks as parameters. A text is first cut behind
every newline, which loses nothing, and then each line is freed of its end.

## Main definitions

* `chomp`: A line without its end.
* `rawLines`: The lines of a sequence, each with its end.
* `splitLines`: The lines of a sequence.
* `lines`: The lines of a text.

## Theorems

* `flatten_rawLines`: Cutting loses nothing.
* `rawLines_append`: A first line that has its newline is cut off.
* `chomp_append`: What a line is freed of.
-/

namespace CommandShell

namespace Text

variable {α : Type} [DecidableEq α]

/-- A sequence without one `ret` at its end. -/
def dropReturn (ret : α) (line : List α) : List α :=
  if line.getLast? = some ret then line.dropLast else line

/-- A line without the newline at its end and a `ret` directly before that; a line without
    a newline stays as it is. -/
def chomp (newline ret : α) (line : List α) : List α :=
  if line.getLast? = some newline then dropReturn ret line.dropLast else line

/-- The lines of a sequence, cut behind every newline. -/
def rawLines (newline : α) : List α → List (List α)
  | [] => []
  | c :: rest =>
      if c = newline then [c] :: rawLines newline rest
      else match rawLines newline rest with
        | [] => [[c]]
        | line :: more => (c :: line) :: more

/-- The lines of a sequence, without their ends. -/
def splitLines (newline ret : α) (cs : List α) : List (List α) :=
  (rawLines newline cs).map (chomp newline ret)

/-- The lines of a text. -/
def lines (s : String) : List String :=
  (splitLines '\n' '\r' s.toList).map String.ofList

theorem flatten_rawLines (newline : α) (cs : List α) : (rawLines newline cs).flatten = cs := by
  induction cs with
  | nil => rfl
  | cons c rest ih =>
      unfold rawLines
      split
      · simp [ih]
      · split
        · rename_i h
          rw [h] at ih
          simpa using ih
        · rename_i h
          rw [h] at ih
          simpa using ih

theorem rawLines_append {newline : α} {line : List α} (h : newline ∉ line) (more : List α) :
    rawLines newline (line ++ newline :: more) = (line ++ [newline]) :: rawLines newline more := by
  induction line with
  | nil => simp [rawLines]
  | cons c rest ih =>
      have hc : c ≠ newline := fun heq => h (by simp [heq])
      have hrest : newline ∉ rest := fun hmem => h (by simp [hmem])
      rw [List.cons_append, rawLines, if_neg hc, ih hrest]
      rfl

theorem chomp_append (newline ret : α) (line : List α) :
    chomp newline ret (line ++ [newline]) = dropReturn ret line := by
  simp [chomp]

theorem splitLines_append {newline ret : α} {line : List α} (h : newline ∉ line)
    (more : List α) :
    splitLines newline ret (line ++ newline :: more)
      = dropReturn ret line :: splitLines newline ret more := by
  rw [splitLines, rawLines_append h, List.map_cons, chomp_append]
  rfl

end Text

end CommandShell
