import CommandShell.Proofs.Histories
import CommandShell.Proofs.Likeness

/-!
# Courses of a Session

A line gives each of its segments a *turn*, and the rounds of a history become
the turns of all their segments. A *course* is what is left of a history then:
turns that follow one another within lines, and between lines texts that are
written and changes to the monitor.

Many properties of a session are kept by each turn, such as what its variables
or its requests have to look like. They are stated as an *invariant*, which may
speak about the turns that there were so far, and hold at the end of every
history and before each of its turns.

## Main definitions

* `Session.Turn`: The moment at which a segment gets its turn.
* `Session.Turn.command`: The words of the command that is run in a turn.
* `Session.Round.turns`: The turns of the line that is run in a round.
* `Session.turnsDuring`: The turns of a history.
* `Session.Course`: How a session becomes another one, turn by turn.
* `Session.Invariant`: What each step of a course keeps.

## Theorems

* `Turn.after_cases`: What a turn can do.
* `turnsDuring_eq`: The turns of a history are those of its rounds.
* `Course.invariant`, `Course.invariant_before`: An invariant holds at the end of
  a course, and before each turn.
* `course_after`: Every history is a course, in which its segments get their turns.
-/

namespace CommandShell

open Line

namespace Session

/-! ### Turns -/

/-- The moment at which a segment gets its turn. -/
structure Turn where
  machine : Machine
  /-- The session that the segment finds. -/
  before : Session
  segment : Segment

instance (s : Session) (x : Segment) : Decidable (s.Runs x) :=
  decidable_of_iff
    (s.state.exitRequest = none ∧ x.isBlank = false ∧ x.connector.admits s.state.status = true)
    ⟨fun h => ⟨h.1, h.2.1, h.2.2⟩, fun h => ⟨h.goesOn, h.not_blank, h.admitted⟩⟩

namespace Turn

/-- The session that the segment leaves. -/
def after (turn : Turn) : Session :=
  turn.before.step turn.machine turn.segment

/-- The words of the command that is run in a turn; there are none if nothing is run. -/
def command (turn : Turn) : List String :=
  if turn.before.Runs turn.segment then
    turn.before.state.expandWords (words turn.segment.text)
  else []

/-- In a turn either nothing is run, and no more than the words at hand are forgotten, or
    else a command is run to its end. -/
theorem after_cases (turn : Turn) :
    (turn.command = [] ∧ ∃ tokens, turn.after = { turn.before with state.tokens := tokens }) ∨
    ∃ leading args, turn.command = leading :: args ∧
      turn.before.state.exitRequest = none ∧
      turn.before.state.expandWords (words turn.segment.text) = leading :: args ∧
      turn.after = (turn.before.runCommand turn.machine leading args).1.close
        (turn.before.runCommand turn.machine leading args).2 := by
  unfold after command
  by_cases hruns : turn.before.Runs turn.segment
  · rw [if_pos hruns, step_of_runs turn.machine hruns]
    cases hwords : turn.before.state.expandWords (words turn.segment.text) with
    | nil => exact Or.inl ⟨rfl, [], runSegment_of_nil turn.machine turn.before hwords⟩
    | cons leading args =>
        exact Or.inr ⟨leading, args, rfl, hruns.goesOn, rfl,
          runSegment_of_cons turn.machine turn.before hwords⟩
  -- A segment that is not run leaves the session as it was.
  · rw [if_neg hruns, step_of_not_runs turn.machine hruns]
    exact Or.inl ⟨rfl, turn.before.state.tokens, rfl⟩

end Turn

/-- The turns of some segments, each in the session that the one before it left. -/
def turnsFrom (m : Machine) (s : Session) : List Segment → List Turn
  | [] => []
  | x :: more => ⟨m, s, x⟩ :: turnsFrom m (s.step m x) more

/-- The turns of the segments of a line. -/
def turnsOf (m : Machine) (s : Session) (line : String) : List Turn :=
  turnsFrom m { s with state := s.state.beginLine line } (segments line)

/-- The turns of the line that is run in a round. -/
def Round.turns (round : Round) : List Turn :=
  turnsOf round.machine round.before round.line

/-- The turns of lines that are run up to a request to exit. -/
def turnsOfLines (m : Machine) (s : Session) : List String → List Turn
  | [] => []
  | line :: more =>
      if s.state.exitRequest.isSome then []
      else turnsOf m s line ++ turnsOfLines m (s.evalLine m line) more

end Session

/-- The turns of a startup file. -/
def Startup.turns (m : Machine) (startup : Startup) (s : Session) : List Session.Turn :=
  match startup.path with
  | none => []
  | some path =>
      match readText m s.directory path with
      | .ok text => s.turnsOfLines m (Text.lines text)
      | .error _ => []

/-- The turns of what a shell reads. -/
def Shell.turns (m : Machine) (sh : Shell) : List Session.Turn :=
  match sh.session.state.exitRequest with
  | some _ => []
  | none =>
      match sh.prepare with
      | (_, .error _) => []
      | (s, .ok ()) =>
          match hread : sh.source.readLine with
          | (.ok (some line), source) =>
              have : source.size < sh.source.size := Input.Source.size_readLine_lt hread
              Session.turnsOf m s line
                ++ turns m { sh with session := s.evalLine m line, source := source }
          | (.ok none, _) | (.error _, _) => []
  termination_by sh.source.size

theorem Shell.turns_of_read {m : Machine} {sh : Shell} {s : Session}
    {read : Except Input.Failure (Option String)} {source : Input.Source}
    (hexit : sh.session.state.exitRequest = none) (hready : sh.prepare = (s, .ok ()))
    (hread : sh.source.readLine = (read, source)) :
    sh.turns m =
      match read with
      | .ok (some line) =>
          s.turnsOf m line ++ turns m { sh with session := s.evalLine m line, source := source }
      | .ok none | .error _ => [] := by
  rw [turns, hexit, hready]
  simp only []
  -- What is read cannot be rewritten below the match, which keeps the equation.
  split <;> rename_i heq <;> cases hread.symm.trans heq <;> rfl

namespace Session

/-- The turns of what a session is used for. -/
def turnsIn (m : Machine) (s : Session) : Use → List Turn
  | .line text => turnsOf m s text
  | .startup file => file.turns m s
  | .shell source prompt => Shell.turns m ⟨s, source, prompt⟩
  | .interrupt => []

/-- The turns of a history, in their order. -/
def turnsDuring (s : Session) : History → List Turn
  | [] => []
  | (m, u) :: more => turnsIn m s u ++ turnsDuring (s.use m u) more

/-! ### The turns of rounds -/

theorem turnsOfLines_eq (m : Machine) (s : Session) (lines : List String) :
    turnsOfLines m s lines = (roundsOfLines m s lines).flatMap Round.turns := by
  induction lines generalizing s with
  | nil => rfl
  | cons line more ih =>
      unfold turnsOfLines roundsOfLines
      split
      · rfl
      · rw [ih, List.flatMap_cons]
        rfl

theorem turns_startup_eq (m : Machine) (file : Startup) (s : Session) :
    file.turns m s = (file.rounds m s).flatMap Round.turns := by
  unfold Startup.turns Startup.rounds
  cases file.path with
  | none => rfl
  | some path =>
      dsimp only
      cases Startup.readText m s.directory path with
      | ok text => exact turnsOfLines_eq m s (Text.lines text)
      | error e => rfl

theorem turns_shell_eq (m : Machine) (sh : Shell) :
    sh.turns m = (sh.rounds m).flatMap Round.turns := by
  fun_induction Shell.run m sh with
  -- A run ends in four ways, and a fifth case reads a line and goes on.
  | case1 sh code hexit =>
      rw [Shell.turns, Shell.rounds, hexit]
      rfl
  | case2 sh hexit t e hready =>
      rw [Shell.turns, Shell.rounds, hexit, hready]
      rfl
  | case3 sh hexit t hready e source hread =>
      rw [Shell.turns_of_read hexit hready hread, Shell.rounds_of_read hexit hready hread]
      rfl
  | case4 sh hexit t hready source hread ended result hfinish =>
      rw [Shell.turns_of_read hexit hready hread, Shell.rounds_of_read hexit hready hread]
      rfl
  | case5 sh hexit t hready line source hread hlt ih =>
      rw [Shell.turns_of_read hexit hready hread, Shell.rounds_of_read hexit hready hread]
      dsimp only
      rw [ih, List.flatMap_cons]
      rfl

/-- The turns of a history are those of its rounds. -/
theorem turnsDuring_eq (s : Session) (history : History) :
    s.turnsDuring history = (s.roundsDuring history).flatMap Round.turns := by
  -- The two traces are compared use by use.
  have huse : ∀ (m : Machine) (t : Session) (u : Use),
      turnsIn m t u = (roundsIn m t u).flatMap Round.turns := by
    intro m t u
    cases u with
    | line text => exact (List.flatMap_singleton Round.turns ⟨m, t, text⟩).symm
    | startup file => exact turns_startup_eq m file t
    | shell source prompt => exact turns_shell_eq m ⟨t, source, prompt⟩
    | interrupt => rfl
  induction history generalizing s with
  | nil => rfl
  | cons e more ih => rw [turnsDuring, roundsDuring, huse, ih, List.flatMap_append]

/-! ### Courses -/

/-- A session becomes another one while some segments get their turns. Lines are run
    on the machines in question, and between them texts are written and the monitor
    changes. -/
inductive Course (machines : Machine → Prop) (s : Session) : List Turn → Session → Prop
  | start : Course machines s [] s
  | line {turns : List Turn} {t : Session} (m : Machine) (hm : machines m) (text : String)
      (h : Course machines s turns t) :
      Course machines s (turns ++ turnsOf m t text) (t.evalLine m text)
  | write {turns : List Turn} {t : Session} (stream : Stream) (text : String)
      (h : Course machines s turns t) : Course machines s turns (t.write stream text).1
  | watch {turns : List Turn} {t : Session} (monitor : Interrupt.Monitor)
      (h : Course machines s turns t) : Course machines s turns { t with monitor := monitor }

variable {machines : Machine → Prop} {s t : Session} {turns : List Turn} {m : Machine}

/-- What holds at the start of a course and is kept by each of its steps. It may depend on
    the turns that the course has given so far. -/
structure Invariant (machines : Machine → Prop) (s : Session)
    (holds : List Turn → Session → Prop) : Prop where
  start : holds [] s
  begin : ∀ turns t line, holds turns t →
    holds turns { t with state := t.state.beginLine line }
  turn : ∀ turns (turn : Turn), machines turn.machine → holds turns turn.before →
    holds (turns ++ [turn]) turn.after
  write : ∀ turns t stream text, holds turns t → holds turns (t.write stream text).1
  watch : ∀ turns t monitor, holds turns t → holds turns { t with monitor := monitor }

variable {holds : List Turn → Session → Prop}

/-- The segments of a line keep an invariant one after the other. -/
theorem Invariant.foldl_step (hkept : Invariant machines s holds) (hm : machines m)
    (xs : List Segment) (h : holds turns t) :
    holds (turns ++ turnsFrom m t xs) (xs.foldl (step m) t) := by
  induction xs generalizing turns t with
  | nil =>
      rw [turnsFrom, List.append_nil]
      exact h
  | cons x more ih =>
      -- The first turn is added to those before, and the others to it.
      have hstep : holds (turns ++ [⟨m, t, x⟩]) (t.step m x) :=
        hkept.turn turns ⟨m, t, x⟩ hm h
      have hmore := ih hstep
      rw [List.append_assoc, List.singleton_append] at hmore
      exact hmore

theorem Course.invariant (h : Course machines s turns t) (hkept : Invariant machines s holds) :
    holds turns t := by
  induction h with
  | start => exact hkept.start
  | @line turns t m hm text _ ih =>
      exact hkept.foldl_step hm (segments text) (hkept.begin turns t text ih)
  | write stream text _ ih => exact hkept.write _ _ stream text ih
  | watch monitor _ ih => exact hkept.watch _ _ monitor ih

/-- To hold now and before each turn that there was is an invariant as well. -/
theorem Invariant.throughout (hkept : Invariant machines s holds) :
    Invariant machines s fun turns t => holds turns t ∧
      ∀ earlier turn later, turns = earlier ++ turn :: later →
        machines turn.machine ∧ holds earlier turn.before where
  start := ⟨hkept.start, by simp⟩
  begin := fun turns t line ih => ⟨hkept.begin turns t line ih.1, ih.2⟩
  turn := by
    intro turns turn hm ih
    refine ⟨hkept.turn turns turn hm ih.1, fun earlier x later hsplit => ?_⟩
    -- The turn in question is the new one, or else it was there already.
    rcases later.eq_nil_or_concat with rfl | ⟨front, last, rfl⟩
    · have hlast := List.append_inj' hsplit rfl
      obtain rfl : turn = x := by simpa using hlast.2
      exact hlast.1 ▸ ⟨hm, ih.1⟩
    · rw [List.concat_eq_append, ← List.cons_append, ← List.append_assoc] at hsplit
      exact ih.2 earlier x front (List.append_inj' hsplit rfl).1
  write := fun turns t stream text ih => ⟨hkept.write turns t stream text ih.1, ih.2⟩
  watch := fun turns t monitor ih => ⟨hkept.watch turns t monitor ih.1, ih.2⟩

/-- An invariant also holds before each turn, of the turns that came earlier. -/
theorem Course.invariant_before (h : Course machines s turns t)
    (hkept : Invariant machines s holds) {earlier later : List Turn} {turn : Turn}
    (hturns : turns = earlier ++ turn :: later) :
    machines turn.machine ∧ holds earlier turn.before :=
  (h.invariant hkept.throughout).2 earlier turn later hturns

theorem Passage.course {rounds : List Round} (h : Passage machines s rounds t) :
    Course machines s (rounds.flatMap Round.turns) t := by
  induction h with
  | start => exact .start
  | line m hm text _ ih =>
      rw [List.flatMap_append, List.flatMap_singleton]
      exact ih.line m hm text
  | write stream text _ ih => exact ih.write stream text
  | watch monitor _ ih => exact ih.watch monitor

/-- Every history is a course, in which its segments get their turns. -/
theorem course_after (s : Session) (history : History) (hmachines : ∀ e ∈ history, machines e.1) :
    Course machines s (s.turnsDuring history) (s.after history) := by
  rw [turnsDuring_eq]
  exact (passage_after s history hmachines).course

end Session

end CommandShell
