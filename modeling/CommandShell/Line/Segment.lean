import CommandShell.Text.Blank

/-!
# Segments of a Line

A line is a sequence of segments that are joined by operators. Each segment
knows the operator before it, its *connector*, and the connector decides from
the status of the segment before whether the segment runs at all.

A `#` at the start of the line or directly after a gap begins a comment,
which is dropped first. What is left is cut at `&&`, `||` and `;`, from the
left. A single `&` or `|` is plain text. There is no quoting: an operator
cuts wherever it stands. Segments that hold no text are kept, since writing
all segments down again, each after its connector's operator, has to give the
line back.

## Main definitions

* `Connector`: The operator before a segment.
* `Connector.admits`: Whether a segment runs after a given status.
* `Segment`: A piece of a line with its connector.
* `beforeComment`: The part of a line that is no comment.
* `segments`: The segments of a line.
* `Segment.render`: A segment as it stands in a line.

## Theorems

* `segments_ne_nil`: Every line has a segment.
* `render_segments`: Writing the segments down gives the line back.
-/

namespace CommandShell

namespace Line

open Text

/-- The operator that connects a segment to the one before it. -/
inductive Connector where
  /-- Nothing comes before the first segment. -/
  | opening
  /-- The operator `&&`. -/
  | conjunction
  /-- The operator `||`. -/
  | disjunction
  /-- The operator `;`. -/
  | sequence
deriving DecidableEq

/-- How a connector is written. -/
def Connector.symbol : Connector → List Char
  | .opening => []
  | .conjunction => ['&', '&']
  | .disjunction => ['|', '|']
  | .sequence => [';']

/-- Whether a segment runs after a segment that ended with `status`. -/
def Connector.admits : Connector → Int → Bool
  | .opening, _ => true
  | .conjunction, status => status = 0
  | .disjunction, status => status ≠ 0
  | .sequence, _ => true

/-- A piece of a line, with the operator before it. -/
structure Segment where
  connector : Connector
  text : String
deriving DecidableEq

/-- A segment with nothing but white space in it is skipped. -/
def Segment.isBlank (s : Segment) : Bool :=
  Text.isBlank s.text

/-- A segment as it stands in a line: its operator, then its text. -/
def Segment.render (s : Segment) : List Char :=
  s.connector.symbol ++ s.text.toList

/-- The characters up to the first `#` that stands at the start or after a gap; `free`
    says whether the next character stands so. -/
def beforeHash (free : Bool) : List Char → List Char
  | [] => []
  | c :: rest =>
      if c = '#' && free then [] else c :: beforeHash (isGap c) rest

/-- A line without its comment. -/
def beforeComment (line : List Char) : List Char :=
  beforeHash true line

/-- The text before the first operator, and the segments from there on. -/
def cut : List Char → List Char × List Segment
  | [] => ([], [])
  | '&' :: '&' :: rest =>
      let (text, more) := cut rest
      ([], ⟨.conjunction, String.ofList text⟩ :: more)
  | '|' :: '|' :: rest =>
      let (text, more) := cut rest
      ([], ⟨.disjunction, String.ofList text⟩ :: more)
  | ';' :: rest =>
      let (text, more) := cut rest
      ([], ⟨.sequence, String.ofList text⟩ :: more)
  | c :: rest =>
      let (text, more) := cut rest
      (c :: text, more)

/-- The segments of a line. -/
def segments (line : String) : List Segment :=
  let (text, more) := cut (beforeComment line.toList)
  ⟨.opening, String.ofList text⟩ :: more

theorem segments_ne_nil (line : String) : segments line ≠ [] := by
  simp [segments]

theorem render_cut (cs : List Char) :
    (cut cs).1 ++ (cut cs).2.flatMap Segment.render = cs := by
  fun_induction cut cs with
  | case1 => rfl
  | case2 rest text more h ih => simpa [h, Segment.render, Connector.symbol] using ih
  | case3 rest text more h ih => simpa [h, Segment.render, Connector.symbol] using ih
  | case4 rest text more h ih => simpa [h, Segment.render, Connector.symbol] using ih
  | case5 c rest _ _ _ text more h ih => simpa [h] using ih

/-- Nothing of the line is lost but its comment. -/
theorem render_segments (line : String) :
    (segments line).flatMap Segment.render = beforeComment line.toList := by
  simpa [segments, Segment.render, Connector.symbol] using
    render_cut (beforeComment line.toList)

end Line

end CommandShell
