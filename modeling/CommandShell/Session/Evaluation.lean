import CommandShell.Builtin.Run
import CommandShell.File.Search
import CommandShell.Line.Segment
import CommandShell.Line.Word

/-!
# Evaluation of Lines

A line is run segment by segment. Each segment that its connector admits is
cut into words, the words are expanded, and the first of them says what runs:
a builtin, or else a program that is searched for, started and waited for.
Whatever goes wrong is reported and becomes the status of the segment, which
the next connector looks at; no failure ends the line. Only a request to exit
does.

A segment of which no word is left runs nothing and leaves the status as it
was.

## Main definitions

* `runProgram`: The command of a segment is a program.
* `runSegment`: A segment is run.
* `step`: A segment is run if it has to be.
* `evalLine`: A line is run.
* `evalLines`: Lines are run up to a request to exit.

## Theorems

* `step_of_exitRequest`: Nothing runs once the session has asked to end.
* `evalLines_append`: Lines that are run in two goes are run as in one.
-/

namespace CommandShell

namespace Session

open Line Child

/-- The program named by the first word is searched for, started and waited for; the
    result is the status. -/
def runProgram (m : Machine) (s : Session) : Session × Int :=
  match m.files.resolve s.directory s.state.environment s.state.leading with
  | .error e => (s.complain e.message, e.status)
  | .ok program =>
      let (after, result) := s.spawn m
        { program := program
          arguments := s.state.tokens
          environment := s.state.environment
          directory := s.directory }
      match result with
      | .error e => (after.complain e.message, e.status)
      | .ok outcome =>
          -- The prompt that follows an interrupt has to begin on a line of its own.
          if outcome = .signaled interruptSignal && after.monitor.installed then
            ((after.write .standardError "\n").1, outcome.status)
          else (after, outcome.status)

/-- A segment is run. -/
def runSegment (m : Machine) (s : Session) (text : String) : Session :=
  match s.state.expandWords (words text) with
  -- Nothing is left to run, so the status stays as it was.
  | [] => { s with state.tokens := [] }
  | leading :: args =>
      let ready :=
        { s with
          state.leading := leading
          state.tokens := leading :: args }
      let (after, status) :=
        match Builtin.ofName? leading with
        | some b => b.run m args ready
        | none => ready.runProgram m
      { after with
        state.status := status
        state.tokens := [] }

/-- A segment is run unless it is blank, its connector forbids it, or the session has been
    asked to end. -/
def step (m : Machine) (s : Session) (segment : Segment) : Session :=
  if s.state.exitRequest.isSome then s
  else if segment.isBlank then s
  else if segment.connector.admits s.state.status then s.runSegment m segment.text
  else s

/-- A line is run. -/
def evalLine (m : Machine) (s : Session) (line : String) : Session :=
  (segments line).foldl (step m) { s with state := s.state.beginLine line }

/-- Lines are run one after the other, up to a request to exit. -/
def evalLines (m : Machine) (s : Session) : List String → Session
  | [] => s
  | line :: more =>
      if s.state.exitRequest.isSome then s
      else evalLines m (s.evalLine m line) more

theorem step_of_exitRequest (m : Machine) {s : Session} (h : s.state.exitRequest.isSome = true)
    (segment : Segment) : step m s segment = s := by
  simp [step, h]

theorem evalLines_of_exitRequest (m : Machine) {s : Session}
    (h : s.state.exitRequest.isSome = true) (lines : List String) : evalLines m s lines = s := by
  cases lines <;> simp [evalLines, h]

/-- Lines that are run in two goes are run as in one. -/
theorem evalLines_append (m : Machine) (s : Session) (lines more : List String) :
    evalLines m s (lines ++ more) = evalLines m (evalLines m s lines) more := by
  induction lines generalizing s with
  | nil => rfl
  | cons line rest ih =>
      by_cases h : s.state.exitRequest.isSome = true
      · rw [evalLines_of_exitRequest m h, evalLines_of_exitRequest m h,
          evalLines_of_exitRequest m h]
      · simp [evalLines, h, ih]

end Session

end CommandShell
