import CommandShell.Proofs.Courses

/-!
# The End of a Session

The request to exit is looked at in three places, by the segments of a line, by
the lines of a file and by the shell that reads. Each of them then has to stop.
If one went on, a command behind `exit` could still be run, and the code that
was asked for could be lost.

The code is also the status of the last command. The builtin that notes it
returns it, and nothing runs afterwards that could leave another one. A shell
can therefore return the one or the other. Whether it has come to the end of
its input or has been told to stop, its result is the last status.

## Main definitions

* `Session.Settled`: A code that has been asked for is the last status.
* `Session.Unmoved`: Nothing has come of what happened in between.

## Theorems

* `Builtin.exitRequest_run`: A builtin that asks for the end returns the code.
* `invariant_settled`: A request to exit and the status stay together.
* `unmoved_after`: Nothing comes of what follows a request to exit.
* `outcome_run`: A shell returns what its session holds in the end.
* `exit_final`: All of this, in every history.
-/

namespace CommandShell

open Text

namespace Builtin

variable {b : Builtin} {s t : Session}

theorem Effects.exitRequest_eq (h : Effects b s t) (hb : b ≠ .exit) :
    t.state.exitRequest = s.state.exitRequest := by
  refine h.view_eq (·.state.exitRequest) fun heffect => ?_
  cases heffect with
  | exitRequest code hexit => exact absurd hexit hb
  | _ => rfl

/-- A builtin that asks for the end returns the code that it asks for. -/
theorem exitRequest_run (m : Machine) (b : Builtin) (args : List String) (s : Session) :
    (b.run m args s).1.state.exitRequest = s.state.exitRequest ∨
      (b.run m args s).1.state.exitRequest = some (b.run m args s).2 := by
  -- No other builtin touches the request, and `exit` returns what it notes in it.
  by_cases hb : b = .exit
  · subst hb
    unfold run execute runExit
    cases args with
    | nil => exact Or.inr rfl
    | cons word more =>
        dsimp only
        cases exitCode? word with
        | some code => exact Or.inr rfl
        | none => exact Or.inl rfl
  · exact Or.inl ((run_effects m b args s).exitRequest_eq hb)

end Builtin

namespace Session

/-- A code that the session has been asked to leave with is the status of the last
    command. -/
def Settled (s : Session) : Prop :=
  ∀ code, s.state.exitRequest = some code → s.state.status = code

/-- Nothing has come of what happened between two moments: there was nothing written and
    nothing run, and the session stands where it stood. -/
structure Unmoved (s t : Session) : Prop where
  journal_eq : t.journal = s.journal
  environment_eq : t.state.environment = s.state.environment
  aliases_eq : t.state.aliases = s.state.aliases
  directory_eq : t.directory = s.directory
  status_eq : t.state.status = s.state.status
  exitRequest_eq : t.state.exitRequest = s.state.exitRequest

variable {machines : Machine → Prop} {s t u : Session} {m : Machine} {code : Int}

/-! ### The code and the status -/

theorem settled_of_none (h : s.state.exitRequest = none) : s.Settled := by
  intro code hcode
  rw [h] at hcode
  cases hcode

theorem exitRequest_runCommand (m : Machine) (s : Session) (leading : String)
    (args : List String) :
    (s.runCommand m leading args).1.state.exitRequest = s.state.exitRequest ∨
      (s.runCommand m leading args).1.state.exitRequest
        = some (s.runCommand m leading args).2 := by
  unfold runCommand
  cases Builtin.ofName? leading with
  | some b => exact Builtin.exitRequest_run m b args (s.ready leading args)
  | none =>
      refine Or.inl ?_
      dsimp only
      rw [state_runProgram]
      rfl

theorem settled_turn (turn : Turn) (h : turn.before.Settled) : turn.after.Settled := by
  rcases turn.after_cases with ⟨_, tokens, hafter⟩ | ⟨leading, args, _, hopen, _, hafter⟩
  · rw [hafter]
    exact h
  -- Before a command is run nothing was asked for, so the code is the one of this command.
  · intro code hcode
    rw [hafter] at hcode ⊢
    rcases exitRequest_runCommand turn.machine turn.before leading args with hkept | hasked
    · have hnone := hkept.trans hopen
      rw [Session.close, hnone] at hcode
      cases hcode
    · rw [Session.close, hasked] at hcode
      exact Option.some.inj hcode

/-- A request to exit and the status of the last command stay together. -/
theorem invariant_settled (h : s.Settled) : Invariant machines s fun _ t => t.Settled where
  start := h
  begin := fun _ _ _ ih => ih
  turn := fun _ turn _ ih => settled_turn turn ih
  write := fun _ _ _ _ ih => ih
  watch := fun _ _ _ ih => ih

theorem Settled.after (h : s.Settled) (history : History) : (s.after history).Settled := by
  -- It does not matter on which machines the lines are run.
  have hcourse : Course (fun _ => True) s (s.turnsDuring history) (s.after history) :=
    course_after s history fun _ _ => trivial
  exact hcourse.invariant (invariant_settled h)

/-! ### Behind the request -/

theorem Unmoved.refl (s : Session) : Unmoved s s :=
  ⟨rfl, rfl, rfl, rfl, rfl, rfl⟩

theorem Unmoved.trans (h : Unmoved s t) (h' : Unmoved t u) : Unmoved s u where
  journal_eq := h'.journal_eq.trans h.journal_eq
  environment_eq := h'.environment_eq.trans h.environment_eq
  aliases_eq := h'.aliases_eq.trans h.aliases_eq
  directory_eq := h'.directory_eq.trans h.directory_eq
  status_eq := h'.status_eq.trans h.status_eq
  exitRequest_eq := h'.exitRequest_eq.trans h.exitRequest_eq

/-- A line that comes too late is counted and not run. -/
theorem evalLine_of_exitRequest (m : Machine) (h : s.state.exitRequest = some code)
    (line : String) : s.evalLine m line = { s with state := s.state.beginLine line } := by
  have hskipped : ∀ (xs : List Line.Segment) (t : Session), t.state.exitRequest = some code →
      xs.foldl (step m) t = t := by
    intro xs
    induction xs with
    | nil => exact fun _ _ => rfl
    | cons x more ih =>
        intro t ht
        have hsome : t.state.exitRequest.isSome = true := by rw [ht]; rfl
        rw [List.foldl_cons, step_of_exitRequest m hsome]
        exact ih t ht
  exact hskipped (Line.segments line) _ h

theorem load_of_exitRequest (m : Machine) (h : s.state.exitRequest = some code)
    (file : Startup) : (file.load m s).1 = s := by
  have hsome : s.state.exitRequest.isSome = true := by rw [h]; rfl
  unfold Startup.load
  split
  · rfl
  · split
    · exact evalLines_of_exitRequest m hsome _
    · split <;> rfl

theorem unmoved_use (m : Machine) (h : s.state.exitRequest = some code) (u : Use) :
    Unmoved s (s.use m u) := by
  cases u with
  | line text =>
      have hskipped : s.use m (.line text) = { s with state := s.state.beginLine text } :=
        evalLine_of_exitRequest m h text
      rw [hskipped]
      exact ⟨rfl, rfl, rfl, rfl, rfl, rfl⟩
  | startup file =>
      have hsame : s.use m (.startup file) = s := load_of_exitRequest m h file
      rw [hsame]
      exact Unmoved.refl s
  | shell source prompt =>
      have hrun : Shell.run m ⟨s, source, prompt⟩ = (⟨s, source, prompt⟩, .ok code) :=
        Shell.run_of_exitRequest m h
      have hsame : s.use m (.shell source prompt) = s := by rw [use, hrun]
      rw [hsame]
      exact Unmoved.refl s
  -- The interrupt is noted, but nobody looks at it any more.
  | interrupt => exact ⟨rfl, rfl, rfl, rfl, rfl, rfl⟩

/-- Nothing comes of what follows a request to exit. -/
theorem unmoved_after (h : s.state.exitRequest = some code) (history : History) :
    Unmoved s (s.after history) := by
  induction history generalizing s with
  | nil => exact Unmoved.refl s
  | cons e more ih =>
      have hfirst := unmoved_use e.1 h e.2
      exact hfirst.trans (ih (hfirst.exitRequest_eq.trans h))

/-! ### The result of a shell -/

theorem state_prepare {sh : Shell} {result : Except ShellError Unit}
    (hready : sh.prepare = (t, result)) : t.state = sh.session.state := by
  have hprepared : sh.prepare.1.state = sh.session.state :=
    Shell.prepare_induction (P := fun u => u.state = sh.session.state) (fun _ _ _ ih => ih)
      (fun _ _ ih => ih) rfl
  rw [hready] at hprepared
  exact hprepared

theorem state_finish {interactive : Bool} {result : Except ShellError Int}
    (hfinish : Shell.finish t interactive = (u, result)) : u.state = t.state := by
  have hfinished : (Shell.finish t interactive).1.state = t.state :=
    Shell.finish_induction (P := fun u => u.state = t.state) (fun _ _ _ ih => ih) interactive rfl
  rw [hfinish] at hfinished
  exact hfinished

/-- At the end of the input the last status is returned. -/
theorem code_finish (interactive : Bool)
    (hcode : (Shell.finish t interactive).2 = .ok code) : code = t.state.status := by
  unfold Shell.finish at hcode
  split at hcode
  · split at hcode <;> rename_i hprint <;> cases hcode
    exact congrArg (·.1.state.status) hprint.symm
  · exact (Except.ok.inj hcode).symm

/-- A shell that succeeds returns what its session holds by then, be it that the session
    has been asked to end or that the input has come to its end. -/
theorem outcome_run (m : Machine) (sh : Shell) (hcode : (sh.run m).2 = .ok code) :
    (sh.run m).1.session.outcome none = .ok code := by
  -- The loop is left on a request, on one of two errors, or at the end of the input.
  fun_induction Shell.run m sh with
  | case1 sh asked hexit =>
      unfold outcome
      rw [hexit]
      exact hcode
  | case2 sh hexit t e hready => cases hcode
  | case3 sh hexit t hready e source hread => cases hcode
  | case4 sh hexit t hready source hread ended result hfinish =>
      -- Since the loop did not stop before, nothing was asked for.
      have hopen : ended.state.exitRequest = none := by
        rw [state_finish hfinish, state_prepare hready, hexit]
      have hstatus : code = t.state.status := by
        refine code_finish sh.source.isInteractive ?_
        rw [hfinish]
        exact hcode
      unfold outcome
      dsimp only
      rw [hopen, hstatus, state_finish hfinish]
  | case5 sh hexit t hready line source hread hlt ih => exact ih hcode

theorem Settled.outcome_eq (h : s.Settled) : s.outcome none = .ok s.state.status := by
  unfold outcome
  cases hexit : s.state.exitRequest with
  | none => rfl
  | some code => rw [h code hexit]

/-- In a session that began with no request to exit, one that has been made is final. Its
    code is the last status, and nothing comes of what follows. A shell that is run then
    returns the code and reads nothing. So a shell that succeeds returns the last status
    in any case. -/
theorem exit_final (hopen : s.state.exitRequest = none) (history : History) :
    (∀ code, (s.after history).state.exitRequest = some code →
      (s.after history).state.status = code ∧
      ∀ later : History,
        Unmoved (s.after history) ((s.after history).after later) ∧
        ∀ m source prompt,
          Shell.run m ⟨(s.after history).after later, source, prompt⟩
            = (⟨(s.after history).after later, source, prompt⟩, .ok code)) ∧
    ∀ m source prompt code, (Shell.run m ⟨s.after history, source, prompt⟩).2 = .ok code →
      (Shell.run m ⟨s.after history, source, prompt⟩).1.session.state.status = code := by
  have hsettled : (s.after history).Settled := (settled_of_none hopen).after history
  refine ⟨fun code hexit => ⟨hsettled code hexit, fun later => ?_⟩, ?_⟩
  -- The request is still there behind all that comes later, so each shell finds it.
  · have hunmoved := unmoved_after hexit later
    refine ⟨hunmoved, fun m source prompt => ?_⟩
    exact Shell.run_of_exitRequest m (hunmoved.exitRequest_eq.trans hexit)
  -- The session in which the shell ends is settled too, by the same history with the run in it.
  · intro m source prompt code hcode
    have hended : (Shell.run m ⟨s.after history, source, prompt⟩).1.session.Settled :=
      hsettled.after [(m, .shell source prompt)]
    have houtcome := outcome_run m ⟨s.after history, source, prompt⟩ hcode
    rw [hended.outcome_eq] at houtcome
    exact Except.ok.inj houtcome

/-- The startup file calls the builtin by another name, and a shell reads the line with
    the request. An interrupt and another line come too late. -/
theorem exit_final_of_alias :
    let m : Machine :=
      { Machine.bare fun _ _ => .quiet (.ok (.exited 0)) with
        files := .ofEntries [(["rc"], .regular (encode "alias q=exit\nsetenv C 300\n") false)] }
    let s := Session.fresh Environment.empty
    let typed : Input.Source := .feed ⟨[encode "q $C ; nope\nnope\n"], none⟩
    let ended := s.after
      [(m, .startup ⟨some (.text "/rc"), true⟩), (m, .shell typed "")]
    let late := ended.after [(m, .interrupt), (m, .line "setenv C 1 ; exit 2")]
    s.state.exitRequest = none ∧ ended.state.exitRequest = some 44 ∧
      ended.state.status = 44 ∧ Unmoved ended late ∧
      Shell.run m ⟨late, typed, ""⟩ = (⟨late, typed, ""⟩, .ok 44) := by
  intro m s typed ended late
  have hexit : ended.state.exitRequest = some 44 := by decide +kernel
  have hfinal := exit_final (s := s) rfl
    [(m, .startup ⟨some (.text "/rc"), true⟩), (m, .shell typed "")]
  rcases hfinal.1 44 hexit with ⟨hstatus, hlater⟩
  rcases hlater [(m, .interrupt), (m, .line "setenv C 1 ; exit 2")] with ⟨hunmoved, hrun⟩
  exact ⟨rfl, hexit, hstatus, hunmoved, hrun m typed ""⟩

end Session

end CommandShell
