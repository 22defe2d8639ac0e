import CommandShell.Proofs.Frames
import CommandShell.Proofs.RefusedDiagnostics

/-!
# A Run With and Without Interrupts

A shell on a feed that takes no note of interrupts and one that is interrupted while
its programs run do the same. Such an interrupt is meant for the program. The shell
notes it all the same, but when the program ends it forgets what it has noted, and so
the two are in the same state again before the next command.

The bytes on the two standard errors need not be the same from the start. The one
shell may have brought a line there that the other has not. What counts is that from
then on the same bytes come to both, and that both take everything.

The runs of the two shells are taken apart here as far as it is needed to compare
them: what is done before a line is read, what is read, and how the run goes on. What
is read is a matter of the feed alone, so neither shell gets ahead of the other.

## Main definitions

* `Machine.undisturbed`: The machine whose programs interrupt nobody.
* `Likeness.behind`: Sessions that do the same, behind different bytes on their
  standard errors.
* `Shell.RunsAlike`: Two shells run alike.

## Theorems

* `serveAlike_undisturbed`: The interrupts of programs make no difference to a session.
* `prepare_atPrompt`: What is done before a line is read.
* `run_of_prepared`: A run goes on like one in which nothing had to be done before.
* `lines_run`: A run takes the lines that it runs and leaves the others.
* `runsAlike`: Shells in alike sessions, on the same feed, run alike.
-/

namespace CommandShell

open Line Text Child Input

/-! ### The monitor at the prompt -/

/-- A monitor that takes note of interrupts, in a shell at its prompt. -/
def Interrupt.Monitor.atPrompt (pending : Bool) : Interrupt.Monitor :=
  ⟨true, pending, .idle⟩

/-- Where nothing is noted before some lines, nothing is behind them. -/
theorem Session.atPrompt_evalLines (m : Machine) (lines : List String) {s : Session}
    (h : s.monitor = .atPrompt false) : (s.evalLines m lines).monitor = .atPrompt false := by
  rcases monitor_evalLines m s lines with hsame | hleft
  · exact hsame.trans h
  · rw [hleft, h]
    rfl

/-! ### Two journals -/

namespace Journal

variable {j k : Journal}

/-- Two journals that agree apart from what stood on the standard error before. Since then
    the same bytes came there, all of which were taken. -/
structure Behind (x y : Bytes) (j k : Journal) : Prop where
  agree : AgreeBeside True j k
  errors : ∃ text, j.received .standardError = x ++ text ∧ k.received .standardError = y ++ text

variable {x y : Bytes}

theorem Behind.write (h : Behind x y j k) (text : String) :
    Behind x y (j.write .standardError text).1 (k.write .standardError text).1 := by
  rcases h.errors with ⟨added, hj, hk⟩
  refine ⟨(h.agree.writeLeft text).writeRight text, added ++ encode text, ?_, ?_⟩
  · rw [received_write_of_room_none .standardError h.agree.left_free, hj, List.append_assoc]
  · rw [received_write_of_room_none .standardError (h.agree.right_free trivial), hk,
      List.append_assoc]

theorem Behind.print (h : Behind x y j k) (text : String) :
    Behind x y (j.write .standardOutput text).1 (k.write .standardOutput text).1 ∧
      (j.write .standardOutput text).2 = (k.write .standardOutput text).2 := by
  rcases h.agree.print text with ⟨hagree, hresult⟩
  refine ⟨⟨hagree, ?_⟩, hresult⟩
  rw [received_write_of_ne (by decide), received_write_of_ne (by decide)]
  exact h.errors

/-- What a program answers does not matter to the shell's own streams. -/
theorem Behind.ran (h : Behind x y j k) (request : Request) (answer answer' : Answer) :
    Behind x y (j.add (.ran request answer)) (k.add (.ran request answer')) := by
  have hkept : ∀ (i : Journal) (a : Answer) (stream : Stream),
      (i.add (.ran request a)).received stream = i.received stream := by
    simp [received, add, Event.received]
  refine ⟨⟨h.agree.left_free, h.agree.right_free, h.agree.outputRoom_eq, ?_, ?_⟩, ?_⟩
  · rw [hkept, hkept, h.agree.output_eq]
  · rw [requests_add_ran, requests_add_ran, h.agree.requests_eq]
  · rw [hkept, hkept]
    exact h.errors

end Journal

/-- Sessions at the same line that do the same, behind different bytes on their standard
    errors. -/
def Likeness.behind (x y : Bytes) : Likeness where
  counters := fun c c' => c' = c
  journals := Journal.Behind x y
  requests_eq := fun h => h.agree.requests_eq
  output_eq := fun h => h.agree.output_eq
  print := fun text h => h.print text
  report := by
    rintro j k st counter line reason rfl h
    exact h.write (st.diagnostic reason ++ "\n")
  newline := fun h => h.write "\n"
  ran := fun request answer h => h.ran request answer answer

theorem Likeness.faithful_behind (x y : Bytes) : (Likeness.behind x y).Faithful := by
  intro j k _ _ _ _ _ h
  have hj : j.room .standardError = none := h.agree.left_free
  have hk : k.room .standardError = none := h.agree.right_free trivial
  rw [Journal.write_of_room_none hj, Journal.write_of_room_none hk]

/-- Such sessions differ in nothing but their journals once the line is the same. -/
theorem Session.Alike.state_eq_of_behind {x y : Bytes} {s t : Session}
    (h : Alike (.behind x y) s t) (hline : t.state.line = s.state.line) : t.state = s.state := by
  rcases h with ⟨counter, line, journal, rfl, rfl, _⟩
  obtain rfl : line = s.state.line := hline
  rfl

/-- The machine whose programs interrupt nobody. -/
def Machine.undisturbed (m : Machine) : Machine :=
  { m with spawner := fun earlier request =>
      { m.spawner earlier request with interrupts := false } }

/-- An interrupt that arrives while a program runs is forgotten behind it, so the machine
    serves as if there was none. -/
theorem Session.serveAlike_undisturbed (x y : Bytes) (m : Machine) :
    ServeAlike (.behind x y) m.undisturbed m where
  files_eq := rfl
  accountHome_eq := rfl
  spawn := by
    rintro s t request ⟨counter, line, journal, rfl, hc, hj⟩
    have hrequests : journal.requests = s.journal.requests := hj.agree.requests_eq
    refine ⟨(s.spawn m.undisturbed request).1,
      (s.spawn m.undisturbed request).1.beside counter line
        (journal.add (.ran request (m.spawner s.journal.requests request))), _, rfl, ?_,
      counter, line, _, rfl, hc, hj.ran request _ _⟩
    -- The answers differ in the interrupt alone, and the monitor forgets it when it is left.
    simp only [Session.spawn, beside, hrequests, Machine.undisturbed]
    cases (m.spawner s.journal.requests request).interrupts with
    | false => rfl
    | true =>
        rw [if_pos rfl, Interrupt.Monitor.leave_raise]
        rfl

namespace Shell

variable {m m' : Machine} {sh sh' : Shell} {f g : Feed}

/-! ### A run from its beginning -/

/-- What happens before a line is read from a feed: the interrupt that was noted is taken,
    and a line is begun if there was one. -/
theorem prepare_atPrompt (sh : Shell) (hsource : sh.source = .feed f) {pending : Bool}
    (hmonitor : sh.session.monitor = .atPrompt pending) :
    sh.prepare =
      if pending then
        ({ (sh.session.write .standardError "\n").1 with monitor := .atPrompt false },
          (sh.session.write .standardError "\n").2.mapError .transfer)
      else ({ sh.session with monitor := .atPrompt false }, .ok ()) := by
  have hpoll : sh.session.monitor.poll = (pending, .atPrompt false) := by
    rw [hmonitor]
    rfl
  unfold prepare takeInterrupt
  rw [hpoll, hsource]
  cases pending with
  | false => rfl
  | true =>
      rw [if_pos rfl]
      -- The monitor is changed before the line is written, and the journal does not see it.
      have hwrite : ({ sh.session with monitor := .atPrompt false }).write .standardError "\n"
          = ({ (sh.session.write .standardError "\n").1 with monitor := .atPrompt false },
            (sh.session.write .standardError "\n").2) := rfl
      dsimp only
      rw [if_pos rfl, hwrite]
      cases (sh.session.write .standardError "\n").2 <;> rfl

/-- A run that is given up before a line is read. -/
theorem run_of_refused {s : Session} {e : ShellError}
    (hexit : sh.session.state.exitRequest = none) (hready : sh.prepare = (s, .error e)) :
    sh.run m = ({ sh with session := s }, .error e) ∧ sh.rounds m = [] := by
  rw [run, rounds, hexit, hready]
  exact ⟨rfl, rfl⟩

theorem rounds_of_exitRequest {code : Int} (h : sh.session.state.exitRequest = some code) :
    sh.rounds m = [] := by
  rw [rounds, h]

theorem run_feed_line (m : Machine) (sh : Shell) {line : String} (hsource : sh.source = .feed f)
    {s : Session} (hexit : sh.session.state.exitRequest = none)
    (hready : sh.prepare = (s, .ok ())) (hread : f.readLine = (.ok (some line), g)) :
    sh.run m = run m { sh with session := s.evalLine m line, source := .feed g } ∧
      sh.rounds m = ⟨m, s, line⟩
        :: rounds m { sh with session := s.evalLine m line, source := .feed g } := by
  have hsourceRead : sh.source.readLine = (.ok (some line), .feed g) := by
    simp [hsource, Source.readLine, hread]
  exact ⟨run_of_line hexit hready hsourceRead, rounds_of_read hexit hready hsourceRead⟩

theorem run_feed_end (m : Machine) (sh : Shell) (hsource : sh.source = .feed f) {s : Session}
    (hexit : sh.session.state.exitRequest = none) (hready : sh.prepare = (s, .ok ()))
    (hread : f.readLine = (match f.ending with
      | some e => .error e
      | none => .ok none, g)) :
    sh.run m = ({ sh with session := s, source := .feed g }, s.outcome f.ending) ∧
      sh.rounds m = [] := by
  have hopen : s.state.exitRequest = none := by
    rw [Session.state_prepare hready, hexit]
  -- A feed that breaks stops the shell, and one that simply ends leaves the last status.
  cases hending : f.ending with
  | some e =>
      have hsourceRead : sh.source.readLine = (.error (.feed e), .feed g) := by
        simp [hsource, Source.readLine, hread, hending]
      refine ⟨?_, rounds_of_read hexit hready hsourceRead⟩
      rw [run_of_failure hexit hready hsourceRead]
      simp [Session.outcome, hopen, ShellError.ofRead]
  | none =>
      have hsourceRead : sh.source.readLine = (.ok none, .feed g) := by
        simp [hsource, Source.readLine, hread, hending]
      refine ⟨?_, rounds_of_read hexit hready hsourceRead⟩
      rw [run_of_end hexit hready hsourceRead, hsource]
      simp [finish, Source.isInteractive, Session.outcome, hopen]

/-- Once a shell on a feed has done what comes before a line, it goes on like a shell of
    which nothing is asked. -/
theorem run_of_prepared (m : Machine) (sh : Shell) (hsource : sh.source = .feed f) {s : Session}
    (hexit : sh.session.state.exitRequest = none) (hready : sh.prepare = (s, .ok ()))
    (hpending : s.monitor.pending = false) :
    sh.run m = run m { sh with session := s } ∧
      sh.rounds m = rounds m { sh with session := s } := by
  have hexit' : s.state.exitRequest = none := by
    rw [Session.state_prepare hready, hexit]
  have hready' : prepare { sh with session := s } = (s, .ok ()) :=
    prepare_of_not_pending hsource hpending
  -- Both read the same, in the same session, so they are the same from there on.
  rcases f.readLine_cases with ⟨line, g, hread, _⟩ | ⟨g, hread, _⟩
  · have h := run_feed_line m sh hsource hexit hready hread
    have h' := run_feed_line m { sh with session := s } hsource hexit' hready' hread
    exact ⟨h.1.trans h'.1.symm, h.2.trans h'.2.symm⟩
  · have h := run_feed_end m sh hsource hexit hready hread
    have h' := run_feed_end m { sh with session := s } hsource hexit' hready' hread
    exact ⟨h.1.trans h'.1.symm, h.2.trans h'.2.symm⟩

/-! ### The lines of a run -/

theorem lines_run_of_exitRequest (m : Machine) {sh : Shell} (hsource : sh.source = .feed f)
    {code : Int} (hexit : sh.session.state.exitRequest = some code) :
    ∃ g, (sh.run m).1.source = .feed g ∧
      f.lines = (sh.rounds m).map Session.Round.line ++ g.lines ∧
      ((sh.run m).1.session.state.exitRequest = none → g.lines = []) := by
  rw [run_of_exitRequest m hexit, rounds_of_exitRequest hexit]
  refine ⟨f, hsource, rfl, fun hopen => ?_⟩
  rw [hexit] at hopen
  cases hopen

/-- A run takes the lines that it runs from the feed and leaves the others. There are none
    left unless the session has been asked to end. -/
theorem lines_run (m : Machine) (sh : Shell) (hsource : sh.source = .feed f)
    (hpending : sh.session.monitor.pending = false) :
    ∃ g, (sh.run m).1.source = .feed g ∧
      f.lines = (sh.rounds m).map Session.Round.line ++ g.lines ∧
      ((sh.run m).1.session.state.exitRequest = none → g.lines = []) := by
  induction f using Feed.reading_induction generalizing sh with
  | line f line g hread hlines _ ih =>
      cases hexit : sh.session.state.exitRequest with
      | some code => exact lines_run_of_exitRequest m hsource hexit
      | none =>
          have hready := prepare_of_not_pending hsource hpending
          rcases run_feed_line m sh hsource hexit hready hread with ⟨hrun, hrounds⟩
          rcases ih { sh with session := sh.session.evalLine m line, source := .feed g } rfl
            (Session.pending_evalLine m hpending line) with ⟨left, hleft, hmore, hopen⟩
          rw [hrun, hrounds, hlines, hmore]
          exact ⟨left, hleft, rfl, hopen⟩
  | ended f g hread hlines hnone _ =>
      cases hexit : sh.session.state.exitRequest with
      | some code => exact lines_run_of_exitRequest m hsource hexit
      | none =>
          have hready := prepare_of_not_pending hsource hpending
          rcases run_feed_end m sh hsource hexit hready hread with ⟨hrun, hrounds⟩
          rw [hrun, hrounds, hlines]
          exact ⟨g, rfl, by rw [hnone]; rfl, fun _ => hnone⟩

/-! ### Two runs -/

/-- Two runs end alike, with the shells and the results they are given, and have run the
    same lines. -/
structure RunsAlike (L : Likeness) (r r' : Shell × Except ShellError Int)
    (lines lines' : List String) : Prop where
  session : Session.Alike L r.1.session r'.1.session
  line_eq : r'.1.session.state.line = r.1.session.state.line
  source_eq : r'.1.source = r.1.source
  result_eq : r'.2 = r.2
  lines_eq : lines' = lines

theorem runsAlike_of_exitRequest {L : Likeness} {code : Int}
    (hexit : sh.session.state.exitRequest = some code)
    (halike : Session.Alike L sh.session sh'.session)
    (hline : sh'.session.state.line = sh.session.state.line) (hfeed : sh'.source = sh.source) :
    RunsAlike L (sh.run m) (sh'.run m') ((sh.rounds m).map Session.Round.line)
      ((sh'.rounds m').map Session.Round.line) := by
  have hexit' := halike.exitRequest_eq.trans hexit
  rw [run_of_exitRequest m hexit, run_of_exitRequest m' hexit', rounds_of_exitRequest hexit,
    rounds_of_exitRequest hexit']
  exact ⟨halike, hline, hfeed, rfl, rfl⟩

/-- Shells in alike sessions, on the same feed, run alike. -/
theorem runsAlike {L : Likeness} (hL : L.Faithful) (hm : Session.ServeAlike L m m')
    (hcounters : ∀ {c c' : Nat}, L.counters c c' → L.counters (c + 1) (c' + 1))
    (sh sh' : Shell) (hsource : sh.source = .feed f) (hsource' : sh'.source = .feed f)
    (hpending : sh.session.monitor.pending = false)
    (halike : Session.Alike L sh.session sh'.session)
    (hline : sh'.session.state.line = sh.session.state.line) :
    RunsAlike L (sh.run m) (sh'.run m') ((sh.rounds m).map Session.Round.line)
      ((sh'.rounds m').map Session.Round.line) := by
  -- What is read is a matter of the feed alone, so the induction on it leads both shells.
  induction f using Feed.reading_induction generalizing sh sh' with
  | line f line g hread _ _ ih =>
      cases hexit : sh.session.state.exitRequest with
      | some code =>
          exact runsAlike_of_exitRequest hexit halike hline (hsource'.trans hsource.symm)
      | none =>
          have hexit' := halike.exitRequest_eq.trans hexit
          have hready := prepare_of_not_pending hsource hpending
          have hready' := prepare_of_not_pending hsource' (by rw [halike.monitor_eq, hpending])
          rcases run_feed_line m sh hsource hexit hready hread with ⟨hrun, hrounds⟩
          rcases run_feed_line m' sh' hsource' hexit' hready' hread with ⟨hrun', hrounds'⟩
          -- The line is run on both sides, and then the rest of the feed.
          have hsame : List.Forall₂ Segment.SameCommand (segments line) (segments line) :=
            List.forall₂_same.2 fun x _ => ⟨rfl, rfl, rfl⟩
          have hwithin := (Session.evalLine_within m sh.session line).1
          have hwithin' := (Session.evalLine_within m' sh'.session line).1
          have hlater := ih
            { sh with session := sh.session.evalLine m line, source := .feed g }
            { sh' with session := sh'.session.evalLine m' line, source := .feed g } rfl rfl
            (Session.pending_evalLine m hpending line)
            (Session.alike_evalLine hL hm hcounters hsame halike)
            (hwithin'.line_eq.trans hwithin.line_eq.symm)
          rw [hrun, hrun', hrounds, hrounds']
          exact ⟨hlater.session, hlater.line_eq, hlater.source_eq, hlater.result_eq,
            congrArg (line :: ·) hlater.lines_eq⟩
  | ended f g hread _ _ _ =>
      cases hexit : sh.session.state.exitRequest with
      | some code =>
          exact runsAlike_of_exitRequest hexit halike hline (hsource'.trans hsource.symm)
      | none =>
          have hexit' := halike.exitRequest_eq.trans hexit
          have hready := prepare_of_not_pending hsource hpending
          have hready' := prepare_of_not_pending hsource' (by rw [halike.monitor_eq, hpending])
          rcases run_feed_end m sh hsource hexit hready hread with ⟨hrun, hrounds⟩
          rcases run_feed_end m' sh' hsource' hexit' hready' hread with ⟨hrun', hrounds'⟩
          have houtcome : sh'.session.outcome f.ending = sh.session.outcome f.ending := by
            unfold Session.outcome
            rw [halike.exitRequest_eq, halike.status_eq]
          rw [hrun, hrun', hrounds, hrounds']
          exact ⟨halike, hline, rfl, houtcome, rfl⟩

end Shell

end CommandShell
