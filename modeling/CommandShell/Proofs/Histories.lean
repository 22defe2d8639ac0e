import CommandShell.Proofs.Reading
import CommandShell.Startup

/-!
# Histories of a Session

A session is used in several ways. A line is handed to it, a startup file is
run in it, a shell reads a source and runs the lines it finds there, and now
and then an interrupt arrives. The order of all this is arbitrary, and the files
of the machine may change in between.

Two loops are at work in a history: one over the lines of a file, and one over
what a shell reads. Each has its own test for the end. A *passage* takes them
apart. It knows only the *rounds* of the history, in each of which one line is
run, and what happens between rounds, where texts are written and the monitor
changes. Every history is a passage, so a property that holds at each stage of a
passage need not be carried through the loops again.

## Main definitions

* `Session.Use`: What a session is used for.
* `Session.after`: The session after a history.
* `Session.Round`: The moment at which a line is run.
* `Session.roundsDuring`: The rounds of a history.
* `Session.Passage`: How a session becomes another one, round by round.

## Theorems

* `Shell.prepare_induction`: What can happen between two lines.
* `passage_after`: Every history is a passage, made of its rounds.
* `Passage.before`: What comes before a round is a passage as well.
-/

namespace CommandShell

namespace Session

/-- What a session is used for. -/
inductive Use where
  /-- A line is run. -/
  | line (text : String)
  /-- A startup file is run. -/
  | startup (file : Startup)
  /-- A shell reads a source and runs what it reads. -/
  | shell (source : Input.Source) (prompt : String)
  /-- An interrupt arrives. -/
  | interrupt

/-- A session is used. -/
def use (m : Machine) (s : Session) : Use → Session
  | .line text => s.evalLine m text
  | .startup file => (file.load m s).1
  | .shell source prompt => (Shell.run m ⟨s, source, prompt⟩).1.session
  | .interrupt => { s with monitor := s.monitor.raise }

/-- Uses of a session in their order, each on the machine as it is by then. -/
abbrev History := List (Machine × Use)

/-- The session after a history. -/
def after (s : Session) (history : History) : Session :=
  history.foldl (fun s e => s.use e.1 e.2) s

/-! ### Rounds -/

/-- The moment at which a line is run. -/
structure Round where
  machine : Machine
  /-- The session that the line finds. -/
  before : Session
  line : String

/-- The session that the line leaves. -/
def Round.after (round : Round) : Session :=
  round.before.evalLine round.machine round.line

/-- The rounds of lines that are run up to a request to exit. -/
def roundsOfLines (m : Machine) (s : Session) : List String → List Round
  | [] => []
  | line :: more =>
      if s.state.exitRequest.isSome then []
      else ⟨m, s, line⟩ :: roundsOfLines m (s.evalLine m line) more

end Session

/-- The rounds of a startup file. -/
def Startup.rounds (m : Machine) (startup : Startup) (s : Session) : List Session.Round :=
  match startup.path with
  | none => []
  | some path =>
      match readText m s.directory path with
      | .ok text => s.roundsOfLines m (Text.lines text)
      | .error _ => []

/-- The rounds of what a shell reads. -/
def Shell.rounds (m : Machine) (sh : Shell) : List Session.Round :=
  match sh.session.state.exitRequest with
  | some _ => []
  | none =>
      match sh.prepare with
      | (_, .error _) => []
      | (s, .ok ()) =>
          match hread : sh.source.readLine with
          | (.ok (some line), source) =>
              have : source.size < sh.source.size := Input.Source.size_readLine_lt hread
              ⟨m, s, line⟩ :: rounds m { sh with session := s.evalLine m line, source := source }
          | (.ok none, _) | (.error _, _) => []
  termination_by sh.source.size

theorem Shell.rounds_of_read {m : Machine} {sh : Shell} {s : Session}
    {read : Except Input.Failure (Option String)} {source : Input.Source}
    (hexit : sh.session.state.exitRequest = none) (hready : sh.prepare = (s, .ok ()))
    (hread : sh.source.readLine = (read, source)) :
    sh.rounds m =
      match read with
      | .ok (some line) =>
          ⟨m, s, line⟩ :: rounds m { sh with session := s.evalLine m line, source := source }
      | .ok none | .error _ => [] := by
  rw [rounds, hexit, hready]
  simp only []
  -- What is read cannot be rewritten below the match, which keeps the equation.
  split <;> rename_i heq <;> cases hread.symm.trans heq <;> rfl

namespace Session

/-- The rounds of what a session is used for. -/
def roundsIn (m : Machine) (s : Session) : Use → List Round
  | .line text => [⟨m, s, text⟩]
  | .startup file => file.rounds m s
  | .shell source prompt => Shell.rounds m ⟨s, source, prompt⟩
  | .interrupt => []

/-- The rounds of a history, in their order. -/
def roundsDuring (s : Session) : History → List Round
  | [] => []
  | (m, u) :: more => roundsIn m s u ++ roundsDuring (s.use m u) more

end Session

/-! ### Between lines -/

namespace Shell

variable {P : Session → Prop}

/-- What happens before a line is read is made of texts that are written and of changes to
    the monitor. -/
theorem prepare_induction (hwrite : ∀ s stream text, P s → P (s.write stream text).1)
    (hwatch : ∀ (s : Session) monitor, P s → P { s with monitor := monitor }) {sh : Shell}
    (h : P sh.session) : P sh.prepare.1 := by
  have htaken : P (takeInterrupt sh.session).1 := by
    have hpolled := hwatch sh.session sh.session.monitor.poll.2 h
    unfold takeInterrupt
    dsimp only
    split
    · exact hwrite _ .standardError "\n" hpolled
    · exact hpolled
  unfold prepare
  split <;> rename_i heq <;> rw [heq] at htaken
  · exact htaken
  -- A prompt is written to a terminal, and it may be refused.
  · have hprinted := hwrite _ .standardOutput sh.prompt htaken
    split
    · split <;> rename_i hprint <;> exact congrArg (·.1) hprint ▸ hprinted
    · exact htaken

theorem finish_induction (hwrite : ∀ s stream text, P s → P (s.write stream text).1)
    {s : Session} (interactive : Bool) (h : P s) : P (finish s interactive).1 := by
  have hprinted := hwrite s .standardOutput "\n" h
  unfold finish
  split
  · split <;> rename_i hprint <;> exact congrArg (·.1) hprint ▸ hprinted
  · exact h

end Shell

namespace Session

/-! ### Passages -/

/-- A session becomes another one in some rounds. Lines are run on the machines in
    question, and between them texts are written and the monitor changes. -/
inductive Passage (machines : Machine → Prop) (s : Session) : List Round → Session → Prop
  | start : Passage machines s [] s
  | line {rounds : List Round} {t : Session} (m : Machine) (hm : machines m) (text : String)
      (h : Passage machines s rounds t) :
      Passage machines s (rounds ++ [⟨m, t, text⟩]) (t.evalLine m text)
  | write {rounds : List Round} {t : Session} (stream : Stream) (text : String)
      (h : Passage machines s rounds t) : Passage machines s rounds (t.write stream text).1
  | watch {rounds : List Round} {t : Session} (monitor : Interrupt.Monitor)
      (h : Passage machines s rounds t) : Passage machines s rounds { t with monitor := monitor }

variable {machines : Machine → Prop} {s t : Session} {rounds : List Round} {m : Machine}

theorem Passage.evalLines (hm : machines m) (lines : List String)
    (h : Passage machines s rounds t) :
    Passage machines s (rounds ++ roundsOfLines m t lines) (t.evalLines m lines) := by
  induction lines generalizing t rounds with
  | nil =>
      rw [roundsOfLines, List.append_nil]
      exact h
  | cons line more ih =>
      unfold roundsOfLines Session.evalLines
      -- A session that was asked to leave runs none of the lines.
      split
      · rw [List.append_nil]
        exact h
      · rw [List.append_cons]
        exact ih (h.line m hm line)

theorem Passage.load (hm : machines m) (file : Startup) (h : Passage machines s rounds t) :
    Passage machines s (rounds ++ file.rounds m t) (file.load m t).1 := by
  unfold Startup.rounds Startup.load
  cases hpath : file.path with
  | none =>
      rw [List.append_nil]
      exact h
  | some path =>
      dsimp only
      cases Startup.readText m t.directory path with
      | ok text => exact h.evalLines hm (Text.lines text)
      -- A file that cannot be read makes no rounds, whether it was asked for or not.
      | error e =>
          dsimp only
          rw [List.append_nil]
          split <;> exact h

theorem Passage.prepare {sh : Shell} {result : Except ShellError Unit}
    (h : Passage machines s rounds sh.session) (hready : sh.prepare = (t, result)) :
    Passage machines s rounds t := by
  have hprepared : Passage machines s rounds sh.prepare.1 :=
    Shell.prepare_induction (fun _ stream text ih => ih.write stream text)
      (fun _ monitor ih => ih.watch monitor) h
  rw [hready] at hprepared
  exact hprepared

theorem Passage.finish {u : Session} {interactive : Bool} {result : Except ShellError Int}
    (h : Passage machines s rounds t) (hfinish : Shell.finish t interactive = (u, result)) :
    Passage machines s rounds u := by
  have hfinished : Passage machines s rounds (Shell.finish t interactive).1 :=
    Shell.finish_induction (fun _ stream text ih => ih.write stream text) interactive h
  rw [hfinish] at hfinished
  exact hfinished

/-- The loop of a shell is a passage, however it ends. -/
theorem Passage.run (hm : machines m) (sh : Shell) (h : Passage machines s rounds sh.session) :
    Passage machines s (rounds ++ sh.rounds m) (sh.run m).1.session := by
  fun_induction Shell.run m sh generalizing rounds with
  -- Each case adds to the passage what is done before the run ends or goes on.
  | case1 sh code hexit =>
      rw [Shell.rounds, hexit, List.append_nil]
      exact h
  | case2 sh hexit t e hready =>
      rw [Shell.rounds, hexit, hready, List.append_nil]
      exact h.prepare hready
  | case3 sh hexit t hready e source hread =>
      rw [Shell.rounds_of_read hexit hready hread, List.append_nil]
      exact h.prepare hready
  | case4 sh hexit t hready source hread ended result hfinish =>
      rw [Shell.rounds_of_read hexit hready hread, List.append_nil]
      exact (h.prepare hready).finish hfinish
  | case5 sh hexit t hready line source hread hlt ih =>
      rw [Shell.rounds_of_read hexit hready hread]
      dsimp only
      rw [List.append_cons]
      exact ih ((h.prepare hready).line m hm line)

theorem Passage.use (hm : machines m) (h : Passage machines s rounds t) (u : Use) :
    Passage machines s (rounds ++ roundsIn m t u) (t.use m u) := by
  cases u with
  | line text => exact h.line m hm text
  | startup file => exact h.load hm file
  | shell source prompt => exact h.run hm ⟨t, source, prompt⟩
  | interrupt =>
      rw [roundsIn, List.append_nil]
      exact h.watch t.monitor.raise

theorem Passage.after {history : History} (hmachines : ∀ e ∈ history, machines e.1)
    (h : Passage machines s rounds t) :
    Passage machines s (rounds ++ t.roundsDuring history) (t.after history) := by
  induction history generalizing rounds t with
  | nil =>
      rw [roundsDuring, List.append_nil]
      exact h
  | cons e more ih =>
      have hmore : ∀ d ∈ more, machines d.1 := fun d hd => hmachines d (List.mem_cons_of_mem e hd)
      -- Each use begins where the ones before have left the session.
      have huse := h.use (hmachines e List.mem_cons_self) e.2
      rw [roundsDuring, ← List.append_assoc]
      exact ih hmore huse

/-- Every history is a passage, made of its rounds. -/
theorem passage_after (s : Session) (history : History)
    (hmachines : ∀ e ∈ history, machines e.1) :
    Passage machines s (s.roundsDuring history) (s.after history) :=
  Passage.after hmachines .start

/-- What comes before a round is a passage as well. -/
theorem Passage.before {earlier later : List Round} {round : Round}
    (h : Passage machines s rounds t) (hrounds : rounds = earlier ++ round :: later) :
    Passage machines s earlier round.before := by
  induction h generalizing later with
  | start => simp at hrounds
  | @line front t m hm text h ih =>
      -- The round in question is the new one, or else it was there already.
      rcases later.eq_nil_or_concat with rfl | ⟨between, last, rfl⟩
      · have hlast := List.append_inj' hrounds rfl
        obtain rfl := (List.cons.inj hlast.2).1
        exact hlast.1 ▸ h
      · rw [List.concat_eq_append, ← List.cons_append, ← List.append_assoc] at hrounds
        exact ih (List.append_inj' hrounds rfl).1
  | write stream text h ih => exact ih hrounds
  | watch monitor h ih => exact ih hrounds

end Session

end CommandShell
