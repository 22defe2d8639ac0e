import CommandShell.Proofs.Interruptions

/-!
# Interrupts Between Runs

A shell may be run again and again on what is left of its feed, and an interrupt
may arrive before each run, as well as while a program runs. Neither has any
influence on what is done. The one before a run makes the shell begin a new line
on the standard error. The one that arrives while a program runs is meant for the
program, and the shell forgets it when the program ends.

Two sequences of runs are compared, one of them without any interrupt. A run of
the one and its counterpart are the same except for the empty line, behind which
both bring the same bytes to the standard error. This rests on what holds between
runs: the shell is at its prompt, and nothing is noted that it has not taken,
unless it has been asked to end and takes nothing any more.

If the standard error refuses the empty line, the run is given up in the middle:
the interrupt has been taken by then, and no line has been read. So the next run
begins with the same line.

## Main definitions

* `Shell.Sitting`: A run of a shell, and whether an interrupt comes before it.
* `Shell.sittings`: Runs of a shell, one after the other.
* `Sitting.Transparent`: A run is like another but for the empty line.
* `Sitting.Orderly`: What becomes of the lines of a feed in a run.

## Theorems

* `Sitting.run_entry`: A run goes on as if no interrupt had come before.
* `Abreast.sitting`: One run with interrupts, beside one without.
* `Sitting.orderly`: One run on streams that take what they like.
* `interrupts_transparent`: Interrupts make empty lines and nothing else.
-/

namespace CommandShell

open Line Text Child Input

namespace Shell

/-- A run of a shell, and whether an interrupt comes before it. -/
structure Sitting where
  machine : Machine
  signal : Bool
  before : Shell

namespace Sitting

/-- The shell that is run. -/
def entry (x : Sitting) : Shell :=
  if x.signal then { x.before with session.monitor := x.before.session.monitor.raise }
  else x.before

/-- The shell behind the run. -/
def after (x : Sitting) : Shell :=
  (x.entry.run x.machine).1

/-- What the run returns. -/
def result (x : Sitting) : Except ShellError Int :=
  (x.entry.run x.machine).2

/-- The lines that are run. -/
def lines (x : Sitting) : List String :=
  (x.entry.rounds x.machine).map Session.Round.line

/-- An interrupt was noted, and the run has to take it. -/
def due (x : Sitting) : Bool :=
  (x.signal || x.before.session.monitor.pending) && x.before.session.state.exitRequest.isNone

/-- The session in which the first line is read. -/
def opened (x : Sitting) : Session :=
  { (if x.due then (x.before.session.write .standardError "\n").1 else x.before.session) with
    monitor := .atPrompt false }

end Sitting

/-- Runs of a shell, one after the other. An interrupt comes before those that the list
    says. -/
def sittings (m : Machine) (sh : Shell) : List Bool → List Sitting
  | [] => []
  | signal :: more => ⟨m, signal, sh⟩ :: sittings m (Sitting.after ⟨m, signal, sh⟩) more

/-- The shell with no interrupt noted. -/
def calm (sh : Shell) : Shell :=
  { sh with session.monitor.pending := false }

namespace Sitting

/-- A run that is like another one, on the same lines and with the same effects, but for
    an empty line at its start if it has to take an interrupt. -/
structure Transparent (x y : Sitting) : Prop where
  lines_eq : y.lines = x.lines
  result_eq : y.result = x.result
  state_eq : y.after.session.state = x.after.session.state
  directory_eq : y.after.session.directory = x.after.session.directory
  source_eq : y.after.source = x.after.source
  output_eq : y.after.session.journal.received .standardOutput
    = x.after.session.journal.received .standardOutput
  requests_eq : y.after.session.journal.requests = x.after.session.journal.requests
  errors : ∃ text : Bytes,
    x.after.session.journal.received .standardError
      = x.before.session.journal.received .standardError ++ text ∧
    y.after.session.journal.received .standardError
      = y.before.session.journal.received .standardError
        ++ (if y.due then encode "\n" else []) ++ text
  /-- What was noted has been taken, whenever it came. -/
  taken : y.after.session.state.exitRequest = none → y.after.session.monitor.pending = false

/-- A run takes the lines that it runs from the feed and leaves the others. -/
structure Orderly (x : Sitting) (f g : Feed) : Prop where
  source_before : x.before.source = .feed f
  source_after : x.after.source = .feed g
  lines_eq : f.lines = x.lines ++ g.lines
  /-- Behind the empty line, if there has to be one, all lines are run up to a request to
      exit. -/
  served : (x.due = true → (x.before.session.write .standardError "\n").2 = .ok ()) →
    x.before.session.state.exitRequest = none →
    x.after.session = x.opened.evalLines x.machine f.lines ∧
      (x.after.session.state.exitRequest = none → x.lines = f.lines)
  /-- If the empty line is refused, no line is taken and nothing else is done. -/
  refused : ∀ e, x.due = true → (x.before.session.write .standardError "\n").2 = .error e →
    x.result = .error (.transfer e) ∧ x.lines = [] ∧
      x.after = { x.before with
        session := { (x.before.session.write .standardError "\n").1 with
          monitor := { x.before.session.monitor with pending := false } } }

/-! ### How a run begins -/

variable {x : Sitting} {f : Feed} {pending : Bool}

theorem entry_eq (hmonitor : x.before.session.monitor = .atPrompt pending) :
    x.entry = { x.before with session.monitor := .atPrompt (x.signal || pending) } := by
  unfold entry
  cases x.signal with
  | false => rw [if_neg Bool.false_ne_true, Bool.false_or, ← hmonitor]
  | true =>
      rw [if_pos rfl, hmonitor]
      rfl

theorem due_eq (hmonitor : x.before.session.monitor = .atPrompt pending)
    (hexit : x.before.session.state.exitRequest = none) : x.due = (x.signal || pending) := by
  rw [due, hexit, hmonitor]
  exact Bool.and_true _

theorem prepare_entry (hsource : x.before.source = .feed f)
    (hmonitor : x.before.session.monitor = .atPrompt pending)
    (hexit : x.before.session.state.exitRequest = none) :
    x.entry.prepare = (x.opened,
      if x.due then (x.before.session.write .standardError "\n").2.mapError .transfer
      else .ok ()) := by
  have hentry := entry_eq hmonitor
  have hentered : x.entry.session.monitor = .atPrompt (x.signal || pending) := by rw [hentry]
  have hprepare := prepare_atPrompt x.entry (f := f) (by rw [hentry]; exact hsource) hentered
  rw [hprepare, opened, due_eq hmonitor hexit, hentry]
  -- A signal and a flag that was up make the same difference.
  cases x.signal || pending <;> rfl

/-- A run goes on as if no interrupt had come before, once the empty line has been
    written. -/
theorem run_entry (hsource : x.before.source = .feed f)
    (hmonitor : x.before.session.monitor = .atPrompt pending)
    (hexit : x.before.session.state.exitRequest = none)
    (haccepted : x.due = true → (x.before.session.write .standardError "\n").2 = .ok ()) :
    x.entry.run x.machine = run x.machine { x.before with session := x.opened } ∧
      x.entry.rounds x.machine = rounds x.machine { x.before with session := x.opened } := by
  have hentry := entry_eq hmonitor
  have hready : x.entry.prepare = (x.opened, .ok ()) := by
    rw [prepare_entry hsource hmonitor hexit]
    -- The newline is written, or none is due.
    cases hdue : x.due with
    | false => rfl
    | true =>
        rw [if_pos rfl, haccepted hdue]
        rfl
  have hrun := run_of_prepared x.machine x.entry (f := f)
    (by rw [hentry]; exact hsource) (by rw [hentry]; exact hexit) hready rfl
  rw [hentry] at hrun ⊢
  exact hrun

/-- A run that is asked to end does nothing, whatever came before it. -/
theorem run_entry_of_exitRequest {code : Int}
    (hmonitor : x.before.session.monitor = .atPrompt pending)
    (hexit : x.before.session.state.exitRequest = some code) :
    x.due = false ∧
      x.after = { x.before with session.monitor := .atPrompt (x.signal || pending) } ∧
      x.result = .ok code ∧ x.lines = [] := by
  have hentry := entry_eq hmonitor
  have hexit' : x.entry.session.state.exitRequest = some code := by
    rw [hentry]
    exact hexit
  rw [due, hexit, after, result, lines, run_of_exitRequest x.machine hexit',
    rounds_of_exitRequest hexit', hentry]
  exact ⟨Bool.and_false _, rfl, rfl, rfl⟩

/-- A run whose empty line is refused does nothing else. -/
theorem run_entry_of_refused (hsource : x.before.source = .feed f)
    (hmonitor : x.before.session.monitor = .atPrompt pending)
    (hexit : x.before.session.state.exitRequest = none) (hdue : x.due = true) {e : SystemError}
    (hwrite : (x.before.session.write .standardError "\n").2 = .error e) :
    x.after = { x.before with session := x.opened } ∧ x.result = .error (.transfer e) ∧
      x.lines = [] := by
  have hentry := entry_eq hmonitor
  have hready := prepare_entry hsource hmonitor hexit
  rw [hdue, if_pos rfl, hwrite] at hready
  have hrun := run_of_refused (m := x.machine) (by rw [hentry]; exact hexit) hready
  rw [after, result, lines, hrun.1, hrun.2, hentry]
  exact ⟨rfl, rfl, rfl⟩

/-- Either the empty line is written, if there has to be one, or it is refused. -/
theorem accepted_or_refused (x : Sitting) :
    (x.due = true → (x.before.session.write .standardError "\n").2 = .ok ()) ∨
      x.due = true ∧ ∃ e, (x.before.session.write .standardError "\n").2 = .error e := by
  -- Where a newline is due it depends on the standard error.
  cases x.due with
  | false => exact Or.inl fun hdue => by cases hdue
  | true =>
      cases (x.before.session.write .standardError "\n").2 with
      | ok done => exact Or.inl fun _ => rfl
      | error e => exact Or.inr ⟨rfl, e, rfl⟩

/-- Between runs the shell is at its prompt, and nothing is noted unless the run was asked
    to end. -/
theorem monitor_after (hsource : x.before.source = .feed f)
    (hmonitor : x.before.session.monitor = .atPrompt pending) :
    x.after.session.monitor
      = .atPrompt ((x.signal || pending) && x.before.session.state.exitRequest.isSome) := by
  cases hexit : x.before.session.state.exitRequest with
  | some code =>
      -- Nobody looks at the monitor any more.
      rw [(run_entry_of_exitRequest hmonitor hexit).2.1, Option.isSome_some, Bool.and_true]
  | none =>
      -- The interrupt is taken first, and the lines leave nothing behind.
      rw [Option.isSome_none, Bool.and_false]
      rcases x.accepted_or_refused with haccepted | ⟨hdue, e, hwrite⟩
      · rw [after, (run_entry hsource hmonitor hexit haccepted).1,
          (run_feed x.machine { x.before with session := x.opened } hsource rfl).1]
        exact Session.atPrompt_evalLines x.machine f.lines rfl
      · rw [(run_entry_of_refused hsource hmonitor hexit hdue hwrite).1]
        rfl

theorem pending_after (hsource : x.before.source = .feed f)
    (hmonitor : x.before.session.monitor = .atPrompt pending)
    (hopen : x.after.session.state.exitRequest = none) :
    x.after.session.monitor.pending = false := by
  rw [monitor_after hsource hmonitor]
  cases hexit : x.before.session.state.exitRequest with
  | none => exact Bool.and_false _
  | some code =>
      -- The request from before the run is still there behind it.
      rw [(run_entry_of_exitRequest hmonitor hexit).2.1] at hopen
      exact absurd (hexit.symm.trans hopen) (by simp)

/-! ### One run on any streams -/

theorem orderly (hsource : x.before.source = .feed f)
    (hmonitor : x.before.session.monitor = .atPrompt pending) : ∃ g, x.Orderly f g := by
  cases hexit : x.before.session.state.exitRequest with
  -- After an exit nothing is read, so the feed is the one from before.
  | some code =>
      rcases run_entry_of_exitRequest hmonitor hexit with ⟨hdue, hafter, _, hlines⟩
      refine ⟨f, hsource, by rw [hafter]; exact hsource, by rw [hlines]; rfl, ?_, ?_⟩
      · intro _ hopen
        rw [hexit] at hopen
        cases hopen
      · intro e hdue'
        rw [hdue] at hdue'
        cases hdue'
  | none =>
      rcases x.accepted_or_refused with haccepted | ⟨hdue, e, hwrite⟩
      -- The newline is no obstacle: what a run reads are the next lines of the feed.
      · rcases run_entry hsource hmonitor hexit haccepted with ⟨hrun, hrounds⟩
        rcases lines_run x.machine { x.before with session := x.opened } hsource rfl with
          ⟨g, hleft, hlines, hopen⟩
        rw [← hrun] at hleft hopen
        rw [← hrounds] at hlines
        refine ⟨g, hsource, hleft, hlines, fun _ _ => ⟨?_, fun hnone => ?_⟩, ?_⟩
        · rw [after, hrun]
          exact (run_feed x.machine { x.before with session := x.opened } hsource rfl).1
        · rw [hlines, hopen hnone]
          exact (List.append_nil _).symm
        · intro e hdue hwrite
          rw [haccepted hdue] at hwrite
          cases hwrite
      -- The newline is refused, and the run ends before it reads anything.
      · rcases run_entry_of_refused hsource hmonitor hexit hdue hwrite with
          ⟨hafter, hresult, hlines⟩
        refine ⟨f, hsource, by rw [hafter]; exact hsource, by rw [hlines]; rfl, ?_, ?_⟩
        · intro haccepted
          rw [haccepted hdue] at hwrite
          cases hwrite
        · intro e' _ hwrite'
          obtain rfl : e = e' := Except.error.inj (hwrite.symm.trans hwrite')
          refine ⟨hresult, hlines, ?_⟩
          rw [hafter, opened, hdue, hmonitor]
          rfl

end Sitting

/-! ### Two runs side by side -/

/-- Two shells between runs, of which the first has never been interrupted. -/
structure Abreast (sh sh' : Shell) : Prop where
  source : ∃ f, sh.source = .feed f ∧ sh'.source = .feed f
  state_eq : sh'.session.state = sh.session.state
  directory_eq : sh'.session.directory = sh.session.directory
  monitor : sh.session.monitor = .atPrompt false
  monitor' : ∃ pending, sh'.session.monitor = .atPrompt pending
  journals : Journal.AgreeBeside True sh.session.journal sh'.session.journal

variable {x y : Sitting}

namespace Abreast

/-- The second shell brings its empty line to the standard error, and then both sessions
    are the same. -/
theorem opened (h : Abreast x.before y.before) (hcalm : x.signal = false)
    (hexit : x.before.session.state.exitRequest = none) :
    x.due = false ∧ y.opened.state.line = x.opened.state.line ∧ Session.Alike
      (.behind (x.before.session.journal.received .standardError)
        (y.before.session.journal.received .standardError
          ++ if y.due then encode "\n" else []))
      x.opened y.opened := by
  have hdue : x.due = false := by
    rw [Sitting.due_eq h.monitor hexit, hcalm]
    rfl
  have hfree : y.before.session.journal.errorRoom = none := h.journals.right_free trivial
  -- Apart from the journal, where the empty line is, the two sessions are equal.
  have hx : x.opened = { x.before.session with monitor := .atPrompt false } := by
    rw [Sitting.opened, hdue]
    rfl
  have hy : y.opened = ⟨y.before.session.state, y.before.session.directory, .atPrompt false,
      y.opened.journal⟩ := by
    unfold Sitting.opened
    cases y.due <;> rfl
  rw [h.state_eq, h.directory_eq] at hy
  have heq : y.opened
      = x.opened.beside x.opened.state.counter x.opened.state.line y.opened.journal := by
    rw [hx]
    exact hy
  have hline : y.opened.state.line = x.opened.state.line := by rw [heq]; rfl
  refine ⟨hdue, hline, x.opened.state.counter, x.opened.state.line, y.opened.journal, heq, rfl, ?_⟩
  · unfold Sitting.opened
    rw [hdue]
    cases y.due with
    | false => exact ⟨h.journals, [], (List.append_nil _).symm, by simp⟩
    | true =>
        refine ⟨h.journals.writeRight "\n", [], (List.append_nil _).symm, ?_⟩
        rw [List.append_nil]
        exact Journal.received_write_of_room_none .standardError hfree "\n"

/-- Two runs that end alike are transparent, and leave the shells as they have to be for
    the next run. -/
theorem settle (h : Abreast x.before y.before) (hcalm : x.signal = false)
    (hlines : y.lines = x.lines) (hresult : y.result = x.result)
    (hsource : y.after.source = x.after.source)
    (hstate : y.after.session.state = x.after.session.state)
    (hdirectory : y.after.session.directory = x.after.session.directory)
    (hjournals : Journal.Behind (x.before.session.journal.received .standardError)
      (y.before.session.journal.received .standardError ++ if y.due then encode "\n" else [])
      x.after.session.journal y.after.session.journal) :
    Sitting.Transparent x y ∧ Abreast x.after y.after := by
  rcases h.source with ⟨f, hfeed, hfeed'⟩
  rcases h.monitor' with ⟨pending, hmonitor'⟩
  rcases Sitting.orderly hfeed h.monitor with ⟨g, hleft⟩
  -- On the calm side no flag is ever up between two runs.
  have hquiet : x.after.session.monitor = .atPrompt false := by
    rw [Sitting.monitor_after hfeed h.monitor, hcalm]
    rfl
  exact ⟨⟨hlines, hresult, hstate, hdirectory, hsource, hjournals.agree.output_eq,
      hjournals.agree.requests_eq, hjournals.errors, Sitting.pending_after hfeed' hmonitor'⟩,
    ⟨g, hleft.source_after, hsource.trans hleft.source_after⟩, hstate, hdirectory, hquiet,
    ⟨_, Sitting.monitor_after hfeed' hmonitor'⟩, hjournals.agree⟩

/-- One run with interrupts, beside one without. -/
theorem sitting (h : Abreast x.before y.before) (hcalm : x.signal = false)
    (hmachine : x.machine = y.machine.undisturbed) :
    Sitting.Transparent x y ∧ Abreast x.after y.after := by
  rcases h.source with ⟨f, hsource, hsource'⟩
  rcases h.monitor' with ⟨pending, hmonitor'⟩
  cases hexit : x.before.session.state.exitRequest with
  | some code =>
      -- Neither run does anything, so all is as it was.
      have hexit' : y.before.session.state.exitRequest = some code := by rw [h.state_eq, hexit]
      rcases Sitting.run_entry_of_exitRequest h.monitor hexit with ⟨_, hx, hresult, hlines⟩
      rcases Sitting.run_entry_of_exitRequest hmonitor' hexit' with ⟨hdue, hy, hresult', hlines'⟩
      refine h.settle hcalm (hlines'.trans hlines.symm) (hresult'.trans hresult.symm) ?_ ?_ ?_ ?_
      · rw [hx, hy]
        exact hsource'.trans hsource.symm
      · rw [hx, hy]
        exact h.state_eq
      · rw [hx, hy]
        exact h.directory_eq
      · rw [hx, hy, hdue]
        exact ⟨h.journals, [], (List.append_nil _).symm, by simp⟩
  | none =>
      have hexit' : y.before.session.state.exitRequest = none := by rw [h.state_eq, hexit]
      have hfree : y.before.session.journal.room .standardError = none :=
        h.journals.right_free trivial
      rcases h.opened hcalm hexit with ⟨hdue, hline, halike⟩
      rcases Sitting.run_entry hsource h.monitor hexit (fun hdue' => by
        rw [hdue] at hdue'
        cases hdue') with ⟨hx, hxrounds⟩
      rcases Sitting.run_entry hsource' hmonitor' hexit' (fun _ =>
        Journal.write_of_room_none hfree "\n") with ⟨hy, hyrounds⟩
      -- From the first line on there is no difference between the two.
      have hruns := runsAlike (Likeness.faithful_behind _ _)
        (hmachine ▸ Session.serveAlike_undisturbed _ _ y.machine)
        (fun hcounter => congrArg (· + 1) hcounter) { x.before with session := x.opened }
        { y.before with session := y.opened } hsource hsource' rfl halike hline
      rw [← hx, ← hy, ← hxrounds, ← hyrounds] at hruns
      exact h.settle hcalm hruns.lines_eq hruns.result_eq hruns.source_eq
        (hruns.session.state_eq_of_behind hruns.line_eq) hruns.session.directory_eq
        hruns.session.journals

end Abreast

/-! ### Runs one after the other -/

variable {sh sh' : Shell} {f : Feed}

theorem Abreast.sittings (h : Abreast sh sh') (m : Machine) (signals : List Bool) :
    List.Forall₂ Sitting.Transparent (sh.sittings m.undisturbed (signals.map fun _ => false))
      (sh'.sittings m signals) := by
  induction signals generalizing sh sh' with
  | nil => exact List.Forall₂.nil
  -- What is left after the first run is abreast again.
  | cons signal more ih =>
      rcases Abreast.sitting (x := ⟨m.undisturbed, false, sh⟩) (y := ⟨m, signal, sh'⟩) h rfl rfl
        with ⟨hfirst, hlater⟩
      exact List.Forall₂.cons hfirst (ih hlater)

/-- Each run begins where the runs before it have stopped. -/
theorem orderly_sittings (m : Machine) {pending : Bool} (hsource : sh.source = .feed f)
    (hmonitor : sh.session.monitor = .atPrompt pending) {signals : List Bool}
    {earlier later : List Sitting} {x : Sitting}
    (h : sh.sittings m signals = earlier ++ x :: later) :
    ∃ g g', f.lines = earlier.flatMap Sitting.lines ++ g.lines ∧ x.Orderly g g' := by
  induction signals generalizing sh f pending earlier with
  | nil => simp [sittings] at h
  | cons signal more ih =>
      have hfirst := Sitting.orderly (x := ⟨m, signal, sh⟩) hsource hmonitor
      have hmonitor' := Sitting.monitor_after (x := ⟨m, signal, sh⟩) hsource hmonitor
      rcases hfirst with ⟨g, hfirst⟩
      -- The run in question is the first one, or it is one of those on what that leaves.
      cases earlier with
      | nil =>
          obtain ⟨rfl, _⟩ := List.cons.inj h
          exact ⟨f, g, rfl, hfirst⟩
      | cons y earlier =>
          obtain ⟨rfl, hmore⟩ := List.cons.inj h
          rcases ih hfirst.source_after hmonitor' hmore with ⟨g', g'', hlines, hlater⟩
          refine ⟨g', g'', ?_, hlater⟩
          rw [hfirst.lines_eq, hlines, List.flatMap_cons, List.append_assoc]

/-- Interrupts make empty lines and nothing else, whether they come before a run or while
    a program runs. If an empty line is refused, the run is given up before it takes a
    line, and no line is lost or run twice. -/
theorem interrupts_transparent (m : Machine) (sh : Shell) (hsource : sh.source = .feed f)
    (hinstalled : sh.session.monitor.installed = true)
    (hidle : sh.session.monitor.activity = .idle) (signals : List Bool) :
    (sh.session.journal.errorRoom = none →
      List.Forall₂ Sitting.Transparent
        (sh.calm.sittings m.undisturbed (signals.map fun _ => false))
        (sh.sittings m signals)) ∧
    ∀ earlier x later, sh.sittings m signals = earlier ++ x :: later →
      ∃ g g', f.lines = earlier.flatMap Sitting.lines ++ g.lines ∧ x.Orderly g g' := by
  have hmonitor : sh.session.monitor = .atPrompt sh.session.monitor.pending := by
    -- A monitor that is installed and idle differs from others by its flag alone.
    cases hparts : sh.session.monitor with
    | mk installed pending activity =>
        rw [hparts] at hinstalled hidle
        obtain rfl : installed = true := hinstalled
        obtain rfl : activity = .idle := hidle
        rfl
  refine ⟨fun hfree => ?_, fun earlier x later h => orderly_sittings m hsource hmonitor h⟩
  have hcalm : sh.calm.session.monitor = .atPrompt false := by
    change (⟨_, false, _⟩ : Interrupt.Monitor) = ⟨true, false, .idle⟩
    rw [hinstalled, hidle]
  have habreast : Abreast sh.calm sh :=
    ⟨⟨f, hsource, hsource⟩, rfl, rfl, hcalm, ⟨_, hmonitor⟩, hfree, fun _ => hfree, rfl, rfl, rfl⟩
  exact habreast.sittings m signals

/-- A program raises an interrupt while it runs, and others come before both runs. On
    a standard error without room the first run is given up, and the second has all
    lines. -/
theorem interrupts_transparent_child :
    let m : Machine :=
      { Machine.bare fun _ _ => ⟨true, .ok (.exited 3), [], []⟩ with
        files := .ofEntries [(["bin"], .directory), (["bin", "k"], .regular [] true)] }
    let s : Session :=
      { Session.fresh Environment.empty with monitor := Interrupt.Monitor.new.install }
    let f : Feed := ⟨[encode "/bin/k\nnope\nexit"], none⟩
    let free : Shell := ⟨s, .feed f, ""⟩
    let full : Shell := ⟨{ s with journal := Journal.new none (some 0) }, .feed f, ""⟩
    List.Forall₂ Sitting.Transparent (free.calm.sittings m.undisturbed [false, false])
        (free.sittings m [true, true]) ∧
      (free.sittings m [true, true]).map Sitting.due = [true, false] ∧
      (free.sittings m [true, true]).map Sitting.result = [.ok 127, .ok 127] ∧
      (∃ g g', f.lines = g.lines ∧ Sitting.Orderly ⟨m, true, full⟩ g g') ∧
      (full.sittings m [true, false]).map Sitting.result
        = [.error (.transfer .brokenPipe), .ok 127] ∧
      (full.sittings m [true, false]).map Sitting.lines = [[], ["/bin/k", "nope", "exit"]] := by
  intro m s f free full
  have htransparent := (interrupts_transparent m free (f := f) rfl rfl rfl [true, true]).1 rfl
  rcases (interrupts_transparent m full (f := f) rfl rfl rfl [true, false]).2 [] _ _ rfl with
    ⟨g, g', hlines, horderly⟩
  exact ⟨htransparent, by decide +kernel, by decide +kernel, ⟨g, g', hlines, horderly⟩,
    by decide +kernel, by decide +kernel⟩

end Shell

end CommandShell
