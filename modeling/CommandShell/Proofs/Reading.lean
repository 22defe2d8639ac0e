import CommandShell.Proofs.Effects
import CommandShell.Proofs.FeedLines
import CommandShell.Shell

/-!
# Running a Feed

A shell that reads from a feed reads a line, runs it and goes on. What it does
in the end is to run the lines of the feed. If a line asks for the end, the rest
of the feed stays unread.

Nothing is written between two lines. An interrupt that is still pending when
a line has been run would have to be acknowledged there, but there is none: the
ones that arrive while a program runs are meant for the program.

## Main definitions

* `Session.outcome`: The result of a shell that stops working.
* `Session.RanUntilExit`: Lines were run in order up to a request to exit.

## Theorems

* `run_of_line`, `run_of_end`, `run_of_failure`: What becomes of a shell by what
  it reads.
* `run_feed`: A shell on a feed runs the lines of the feed.
* `ranUntilExit_evalLines`: Lines are run in order up to a request to exit.
-/

namespace CommandShell

open Text

/-! ### The loop -/

namespace Shell

variable {m : Machine} {sh : Shell} {s : Session} {source : Input.Source}

/-- A shell on a feed has nothing to do before a line if no interrupt is pending. -/
theorem prepare_of_not_pending {f : Input.Feed} (hsource : sh.source = .feed f)
    (h : sh.session.monitor.pending = false) : sh.prepare = (sh.session, .ok ()) := by
  have hpoll : sh.session.monitor.poll = (false, sh.session.monitor) := by
    -- A monitor polls true only if something is pending, whatever it is doing.
    cases hmonitor : sh.session.monitor with
    | mk installed pending activity =>
        have hpending : pending = false := by rw [← h, hmonitor]
        subst hpending
        cases activity <;> rfl
  have htaken : takeInterrupt sh.session = (sh.session, .ok ()) := by
    simp [takeInterrupt, hpoll]
  simp [prepare, htaken, hsource, Input.Source.isInteractive]

/-- A line is run, and the shell goes on. -/
theorem run_of_line {line : String} (hexit : sh.session.state.exitRequest = none)
    (hready : sh.prepare = (s, .ok ())) (hread : sh.source.readLine = (.ok (some line), source)) :
    sh.run m = run m { sh with session := s.evalLine m line, source := source } := by
  rw [run, hexit]
  simp only [hready]
  -- Of the three things a read can give, a line is the one that it gave.
  split
  · rename_i e _ h
    rw [hread] at h
    simp at h
  · rename_i h
    rw [hread] at h
    simp at h
  · rename_i h
    rw [hread] at h
    simp only [Prod.mk.injEq, Except.ok.injEq, Option.some.injEq] at h
    rw [h.1, h.2]

/-- Nothing is left to read. -/
theorem run_of_end (hexit : sh.session.state.exitRequest = none)
    (hready : sh.prepare = (s, .ok ())) (hread : sh.source.readLine = (.ok none, source)) :
    sh.run m = ({ sh with session := (finish s sh.source.isInteractive).1, source := source },
      (finish s sh.source.isInteractive).2) := by
  rw [run, hexit]
  simp only [hready]
  -- Here it gave the end.
  split
  · rename_i e _ h
    rw [hread] at h
    simp at h
  · rename_i h
    rw [hread] at h
    simp only [Prod.mk.injEq, true_and] at h
    rw [h]
  · rename_i h
    rw [hread] at h
    simp at h

/-- Reading fails. -/
theorem run_of_failure {e : Input.Failure} (hexit : sh.session.state.exitRequest = none)
    (hready : sh.prepare = (s, .ok ())) (hread : sh.source.readLine = (.error e, source)) :
    sh.run m = ({ sh with session := s, source := source }, .error (.ofRead e)) := by
  rw [run, hexit]
  simp only [hready]
  -- Here it gave an error.
  split
  · rename_i e' _ h
    rw [hread] at h
    simp only [Prod.mk.injEq, Except.error.injEq] at h
    rw [h.1, h.2]
  · rename_i h
    rw [hread] at h
    simp at h
  · rename_i h
    rw [hread] at h
    simp at h

end Shell

namespace Session

/-- The result of a shell that stops working: the code that was asked for, or else the
    error in which its input ended, or else the last status. -/
def outcome (s : Session) (ending : Option SystemError) : Except ShellError Int :=
  match s.state.exitRequest, ending with
  | some code, _ => .ok code
  | none, some e => .error (.transfer e)
  | none, none => .ok s.state.status

/-- A session came about from another by lines that were run in order, each of them once,
    up to the first that left a request to exit, or else all of them. -/
def RanUntilExit (m : Machine) (lines : List String) (s t : Session) : Prop :=
  ∃ n ≤ lines.length, t = (lines.take n).foldl (evalLine m) s ∧
    (∀ k < n, ((lines.take k).foldl (evalLine m) s).state.exitRequest = none) ∧
    (n < lines.length → t.state.exitRequest.isSome = true)

/-- Lines are run in order up to a request to exit. -/
theorem ranUntilExit_evalLines (m : Machine) (lines : List String) (s : Session) :
    RanUntilExit m lines s (s.evalLines m lines) := by
  induction lines generalizing s with
  | nil => exact ⟨0, le_refl _, rfl, by simp, by simp⟩
  | cons line more ih =>
      by_cases hexit : s.state.exitRequest.isSome = true
      · -- No line is run at all.
        rw [evalLines_of_exitRequest m hexit]
        exact ⟨0, Nat.zero_le _, rfl, by simp, fun _ => hexit⟩
      · rcases ih (s.evalLine m line) with ⟨n, hn, heq, hbefore, hafter⟩
        have hstep : s.evalLines m (line :: more) = (s.evalLine m line).evalLines m more := by
          rw [evalLines, if_neg hexit]
        refine ⟨n + 1, Nat.succ_le_succ hn, ?_, ?_, ?_⟩
        · rw [hstep, heq, List.take_succ_cons, List.foldl_cons]
        · intro k hk
          -- Before the first line, nothing asked to leave; before a later one, the
          -- induction says so.
          cases k with
          | zero => simpa using hexit
          | succ k =>
              rw [List.take_succ_cons, List.foldl_cons]
              exact hbefore k (Nat.lt_of_succ_lt_succ hk)
        · intro hlt
          rw [hstep]
          exact hafter (Nat.lt_of_succ_lt_succ hlt)

end Session

/-- A shell that is asked to end runs none of the lines of a feed. -/
theorem Shell.run_feed_of_exitRequest (m : Machine) {sh : Shell} (f : Input.Feed) {code : Int}
    (hexit : sh.session.state.exitRequest = some code) :
    (sh.run m).1.session = sh.session.evalLines m f.lines ∧
      (sh.run m).2 = (sh.session.evalLines m f.lines).outcome f.ending := by
  have hsome : sh.session.state.exitRequest.isSome = true := by rw [hexit]; rfl
  rw [run_of_exitRequest m hexit, Session.evalLines_of_exitRequest m hsome]
  simp [Session.outcome, hexit]

/-- A shell on a feed runs the lines of the feed, whatever the chunks. -/
theorem Shell.run_feed (m : Machine) (sh : Shell) {f : Input.Feed} (hsource : sh.source = .feed f)
    (hpending : sh.session.monitor.pending = false) :
    (sh.run m).1.session = sh.session.evalLines m f.lines ∧
      (sh.run m).2 = (sh.session.evalLines m f.lines).outcome f.ending := by
  induction f using Input.Feed.reading_induction generalizing sh with
  | line f line g hread hlines hending ih =>
      cases hexit : sh.session.state.exitRequest with
      | some code => exact run_feed_of_exitRequest m f hexit
      | none =>
          have hready := prepare_of_not_pending hsource hpending
          have hnone : ¬ sh.session.state.exitRequest.isSome = true := by simp [hexit]
          have hsourceRead : sh.source.readLine = (.ok (some line), .feed g) := by
            simp [hsource, Input.Source.readLine, hread]
          -- Nothing is pending behind the line, so the rest of the feed is run alike.
          have hlater := ih { sh with session := sh.session.evalLine m line, source := .feed g }
            rfl (Session.pending_evalLine m hpending line)
          rw [hending] at hlater
          rw [run_of_line hexit hready hsourceRead, hlines, Session.evalLines, if_neg hnone]
          exact hlater
  | ended f g hread hlines _ _ =>
      cases hexit : sh.session.state.exitRequest with
      | some code => exact run_feed_of_exitRequest m f hexit
      | none =>
          have hready := prepare_of_not_pending hsource hpending
          rw [hlines]
          cases hending : f.ending with
          | some e =>
              have hsourceRead : sh.source.readLine = (.error (.feed e), .feed g) := by
                simp [hsource, Input.Source.readLine, hread, hending]
              rw [run_of_failure hexit hready hsourceRead]
              exact ⟨rfl, by simp [Session.evalLines, Session.outcome, hexit, ShellError.ofRead]⟩
          | none =>
              have hsourceRead : sh.source.readLine = (.ok none, .feed g) := by
                simp [hsource, Input.Source.readLine, hread, hending]
              rw [run_of_end hexit hready hsourceRead, hsource]
              simp [finish, Input.Source.isInteractive, Session.evalLines, Session.outcome, hexit]

end CommandShell
