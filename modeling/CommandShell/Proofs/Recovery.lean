import CommandShell.Proofs.SearchOrder
import CommandShell.Proofs.Spawning

/-!
# How a Command Ends That Is a Program

Between the first word of a command and its status there are three places where a
program can fail: the search may not find it, the system may refuse to start it, and it
may be impossible to wait for. Each has errors of its own, with words and a status of
their own, and a program that does run may end in two ways. Whatever happens, the
segment comes to an end, and it leaves no more behind than its status, its name and one
text at most.

A conclusion is made of three things: the program that has been asked for, the text for
the standard error, and the status. The ways in which a command can end are told apart by
them, so that exactly one of them applies. The failures are those that a spawner may
answer with. The system knows many more errors, and which of the failures it is if one of
them comes up at the start depends on the class and the number of the error.

An interrupt may arrive while a program is being started, also if it never runs. It is
forgotten all the same, since the monitor is left on every way back from the spawner.

## Main definitions

* `Session.Yields`: A program is asked for, with what comes of it.
* `Session.Ends`: The ways in which a command can end.
* `Session.Recovered`: What is left behind.
* `SystemError.startStatus`: The status for an error that comes up at the start.

## Theorems

* `ends_iff`: A command ends in one way.
* `failures_recovered`: A segment recovers from every failure of its program.
-/

namespace CommandShell

open Line Child

/-- The status for an error that comes up when a program is started. -/
def SystemError.startStatus (cause : SystemError) : Int :=
  if cause.isNotFound then 127
  else if cause.isPermissionDenied ∨ cause = .execFormat then 126
  else 125

theorem Child.Failure.status_ofSpawn (program : String) (cause : SystemError) :
    (Failure.ofSpawn program cause).status = cause.startStatus := by
  unfold ofSpawn SystemError.startStatus
  cases cause.isNotFound with
  | true => rfl
  | false =>
      cases cause.isPermissionDenied with
      | true => rfl
      | false =>
          -- A file of the wrong format has a status of its own, and all other errors
          -- share one.
          by_cases hformat : cause = .execFormat
          · rw [hformat]
            rfl
          · simp [hformat, status, statusFailed]

namespace Session

variable {m : Machine} {s : Session} {c : Conclusion} {r : Request}

/-! ### Conclusions -/

/-- A program is found and asked for, with what comes of it. -/
structure Yields (m : Machine) (s : Session) (r : Request) (result : Except Failure Outcome) :
    Prop where
  asked : s.request? m = some r
  result_eq : (m.spawner s.journal.requests r).result = result

/-- The ways in which a command can end that is a program. -/
inductive Ends (m : Machine) (s : Session) : Conclusion → Prop
  | missing (h : m.files.Missing s.directory s.state.environment s.state.leading) :
      Ends m s ⟨none, some (s.state.diagnostic "not found" ++ "\n"), 127⟩
  /-- What stands there is no program. -/
  | notExecutable (hslash : '/' ∈ s.state.leading.toList)
      (hexists : m.files.exists? s.directory s.state.leading = true)
      (hruns : m.files.isExecutable s.directory s.state.leading = false) :
      Ends m s ⟨none, some (s.state.diagnostic "Permission denied" ++ "\n"), 126⟩
  /-- It was there when it was looked for. -/
  | notFound {r : Request} {program : String} (h : s.Yields m r (.error (.notFound program))) :
      Ends m s ⟨some r, some (s.state.diagnostic "not found" ++ "\n"), 127⟩
  | permissionDenied {r : Request} {program : String}
      (h : s.Yields m r (.error (.permissionDenied program))) :
      Ends m s ⟨some r, some (s.state.diagnostic "Permission denied" ++ "\n"), 126⟩
  | execFormat {r : Request} {program : String} (h : s.Yields m r (.error (.execFormat program))) :
      Ends m s ⟨some r, some (s.state.diagnostic "Exec format error" ++ "\n"), 126⟩
  | refused {r : Request} {cause : SystemError} (h : s.Yields m r (.error (.spawn cause))) :
      Ends m s ⟨some r, some (s.state.diagnostic ("cannot spawn: " ++ cause.message) ++ "\n"), 125⟩
  | unwaited {r : Request} {cause : SystemError} (h : s.Yields m r (.error (.wait cause))) :
      Ends m s
        ⟨some r, some (s.state.diagnostic ("cannot wait for child: " ++ cause.message) ++ "\n"),
          125⟩
  | signals {r : Request} {reason : String} (h : s.Yields m r (.error (.signals reason))) :
      Ends m s ⟨some r, some (s.state.diagnostic ("Signal error: " ++ reason) ++ "\n"), 125⟩
  | exited {r : Request} {code : Int} (h : s.Yields m r (.ok (.exited code))) :
      Ends m s ⟨some r, none, code % 256⟩
  /-- An interrupt is shown as an empty line where somebody takes note of it. -/
  | signaled {r : Request} {signal : Int} (h : s.Yields m r (.ok (.signaled signal))) :
      Ends m s
        ⟨some r, if signal = 2 ∧ s.monitor.installed = true then some "\n" else none,
          128 + signal⟩

theorem conclusion_of_failure {e : Failure} (h : s.Yields m r (.error e)) :
    s.conclusion m = ⟨some r, some (s.state.diagnostic e.message ++ "\n"), e.status⟩ := by
  rcases eq_of_mem_request? (Option.mem_toList.2 h.asked) with ⟨hresolve, hrequest⟩
  have hresult := h.result_eq
  rw [hrequest] at hresult
  simp only [conclusion, hresolve, hresult]
  rw [← hrequest]

theorem conclusion_of_outcome {outcome : Outcome} (h : s.Yields m r (.ok outcome)) :
    s.conclusion m =
      ⟨some r,
        if outcome = .signaled interruptSignal && s.monitor.installed then some "\n" else none,
        outcome.status⟩ := by
  rcases eq_of_mem_request? (Option.mem_toList.2 h.asked) with ⟨hresolve, hrequest⟩
  have hresult := h.result_eq
  rw [hrequest] at hresult
  simp only [conclusion, hresolve, hresult]
  rw [← hrequest]

theorem eq_conclusion_of_ends (h : Ends m s c) : c = s.conclusion m := by
  cases h with
  -- The search came to nothing, the program could not be run, or it has run.
  | missing h =>
      simp only [conclusion, File.Tree.resolve_eq_notFound_iff.2 h]
      rfl
  | notExecutable hslash hexists hruns =>
      have hresolve : m.files.resolve s.directory s.state.environment s.state.leading
          = .error .permissionDenied :=
        File.Tree.resolve_eq_permissionDenied_iff.2 ⟨hslash, hexists, hruns⟩
      simp only [conclusion, hresolve]
      rfl
  | notFound h | permissionDenied h | execFormat h | refused h | unwaited h | signals h =>
      exact (conclusion_of_failure h).symm
  | exited h => exact (conclusion_of_outcome h).symm
  | signaled h =>
      rw [conclusion_of_outcome h]
      simp [interruptSignal, Outcome.status]

theorem exists_ends (m : Machine) (s : Session) : ∃ c, Ends m s c := by
  cases hresolve : m.files.resolve s.directory s.state.environment s.state.leading with
  -- The search fails in two ways.
  | error e =>
      cases e with
      | notFound => exact ⟨_, .missing (File.Tree.resolve_eq_notFound_iff.1 hresolve)⟩
      | permissionDenied =>
          obtain ⟨hslash, hexists, hruns⟩ := File.Tree.resolve_eq_permissionDenied_iff.1 hresolve
          exact ⟨_, .notExecutable hslash hexists hruns⟩
  -- A program was found, so the machine is asked, and its answer decides.
  | ok program =>
      obtain ⟨r, hasked⟩ : ∃ r, s.request? m = some r := by
        simp only [request?, hresolve, Option.some.injEq, exists_eq']
      cases hresult : (m.spawner s.journal.requests r).result with
      | error e =>
          cases e with
          | notFound program => exact ⟨_, .notFound ⟨hasked, hresult⟩⟩
          | permissionDenied program => exact ⟨_, .permissionDenied ⟨hasked, hresult⟩⟩
          | execFormat program => exact ⟨_, .execFormat ⟨hasked, hresult⟩⟩
          | spawn cause => exact ⟨_, .refused ⟨hasked, hresult⟩⟩
          | wait cause => exact ⟨_, .unwaited ⟨hasked, hresult⟩⟩
          | signals reason => exact ⟨_, .signals ⟨hasked, hresult⟩⟩
      -- The program has come to an end by itself or by a signal.
      | ok outcome =>
          cases outcome with
          | exited code => exact ⟨_, .exited ⟨hasked, hresult⟩⟩
          | signaled signal => exact ⟨_, .signaled ⟨hasked, hresult⟩⟩

theorem ends_conclusion (m : Machine) (s : Session) : Ends m s (s.conclusion m) := by
  obtain ⟨c, hends⟩ := exists_ends m s
  exact eq_conclusion_of_ends hends ▸ hends

/-- A command ends in one way. -/
theorem ends_iff : Ends m s c ↔ c = s.conclusion m :=
  ⟨eq_conclusion_of_ends, fun h => h ▸ ends_conclusion m s⟩

/-! ### What is left behind -/

/-- What a segment leaves behind whose command is a program, and has come to a
    conclusion. -/
structure Recovered (m : Machine) (s : Session) (leading : String) (args : List String)
    (c : Conclusion) (t : Session) : Prop where
  state_eq : t.state = { s.state with
    status := c.status
    leading := leading
    tokens := [] }
  directory_eq : t.directory = s.directory
  requests_eq : t.journal.requests = s.journal.requests ++ c.request.toList
  asked : ∀ r, c.request = some r →
    m.files.isExecutable s.directory r.program = true ∧
      r = ⟨r.program, leading :: args, s.state.environment, s.directory⟩
  complaint_eq : t.journal.attempted .standardError
    = s.journal.attempted .standardError ++ c.complaint.toList
  output_eq : t.journal.attempted .standardOutput = s.journal.attempted .standardOutput
  /-- If a program was asked for, the shell is idle and no interrupt is noted. -/
  monitor_eq : t.monitor = if c.request.isSome then ⟨s.monitor.installed, false, .idle⟩
    else s.monitor
  /-- The next segment is tested against the status. -/
  next : ∀ (m' : Machine) (x : Segment), t.step m' x =
    if s.state.exitRequest = none ∧ x.isBlank = false ∧ x.connector.admits c.status = true
    then t.runSegment m' x.text else t

/-- A segment that is run or not is so by the status before it. -/
theorem step_eq_ite (m : Machine) (s : Session) (x : Segment) :
    s.step m x = if s.state.exitRequest = none ∧ x.isBlank = false ∧
      x.connector.admits s.state.status = true then s.runSegment m x.text else s := by
  split
  · rename_i h
    exact step_of_runs m ⟨h.1, h.2.1, h.2.2⟩
  · rename_i h
    exact step_of_not_runs m fun hruns => h ⟨hruns.goesOn, hruns.not_blank, hruns.admitted⟩

theorem recovered_runSegment (m : Machine) (s : Session) {text leading : String}
    {args : List String} (hwords : s.state.expandWords (words text) = leading :: args)
    (hprogram : ∀ b : Builtin, b.name ≠ leading) :
    Recovered m s leading args ((s.ready leading args).conclusion m) (s.runSegment m text) := by
  have hnone : Builtin.ofName? leading = none := Builtin.ofName?_eq_none_iff.2 hprogram
  have hasked := request_conclusion m (s.ready leading args)
  -- No builtin has this name, so the command ends as its program does.
  have hrun : s.runSegment m text
      = ((s.ready leading args).conclude m ((s.ready leading args).conclusion m)).close
        ((s.ready leading args).conclusion m).status := by
    rw [runSegment_of_cons m s hwords]
    simp only [runCommand, hnone, runProgram_eq]
  generalize (s.ready leading args).conclusion m = c at hasked hrun ⊢
  have hstate : (s.runSegment m text).state = { s.state with
      status := c.status
      leading := leading
      tokens := [] } := by
    rw [hrun]
    simp only [close, state_conclude]
    rfl
  -- The rest of the session is what the conclusion leaves, part by part.
  refine ⟨hstate, ?_, ?_, ?_, ?_, ?_, ?_, ?_⟩
  · rw [hrun]
    exact directory_conclude m (s.ready leading args) c
  · rw [hrun]
    exact requests_conclude m (s.ready leading args) c
  -- Where a program was asked for, the search has found it.
  · intro r hr
    rw [hasked] at hr
    rcases eq_of_mem_request? (Option.mem_toList.2 hr) with ⟨hresolve, hrequest⟩
    exact ⟨File.Tree.isExecutable_of_resolve hresolve, hrequest⟩
  · rw [hrun]
    exact attempted_conclude m (s.ready leading args) c .standardError
  · rw [hrun]
    exact (attempted_conclude m (s.ready leading args) c .standardOutput).trans (List.append_nil _)
  · rw [hrun]
    exact monitor_conclude m (s.ready leading args) c
  · intro m' x
    rw [step_eq_ite, hstate]

/-- A segment recovers from every failure of its program. Its command ends in exactly
    one way, which settles what is left of it: the status, one text at most, and an
    idle shell. An error of the system that comes up at the start has the status of
    its kind. -/
theorem failures_recovered (m : Machine) (s : Session) {text leading : String}
    {args : List String} (hwords : s.state.expandWords (words text) = leading :: args)
    (hprogram : ∀ b : Builtin, b.name ≠ leading) :
    ∃ c, (∀ c', Ends m (s.ready leading args) c' ↔ c' = c) ∧
      Recovered m s leading args c (s.runSegment m text) ∧
      ∀ r program cause, c.request = some r →
        (m.spawner s.journal.requests r).result = .error (.ofSpawn program cause) →
        c.status = cause.startStatus := by
  refine ⟨(s.ready leading args).conclusion m, fun _ => ends_iff,
    recovered_runSegment m s hwords hprogram, ?_⟩
  intro r program cause hr hresult
  rw [request_conclusion] at hr
  rw [conclusion_of_failure ⟨hr, hresult⟩]
  exact Failure.status_ofSpawn program cause

/-- There is no room for another process, and an interrupt comes up at the same time. The
    shell is idle nevertheless. -/
theorem failures_recovered_exhausted :
    let m : Machine :=
      { Machine.bare fun _ _ => ⟨true, .error (.ofSpawn "/a" (.number 11)), [], []⟩ with
        files := .ofEntries [(["a"], .regular [] true)] }
    let s := { fresh Environment.empty with monitor := ⟨true, false, .idle⟩ }
    let complaint := "sh: 0: /a: cannot spawn: Resource temporarily unavailable (os error 11)\n"
    s.state.expandWords (words " /a -x") = ["/a", "-x"] ∧ (∀ b : Builtin, b.name ≠ "/a") ∧
      ∃ c, Ends m (s.ready "/a" ["-x"]) c ∧ c.complaint = some complaint ∧ c.status = 125 ∧
        (s.runSegment m " /a -x").monitor = ⟨true, false, .idle⟩ ∧
        Recovered m s "/a" ["-x"] c (s.runSegment m " /a -x") := by
  intro m s complaint
  have hwords : s.state.expandWords (words " /a -x") = ["/a", "-x"] := by decide +kernel
  have hprogram : ∀ b : Builtin, b.name ≠ "/a" := Builtin.ofName?_eq_none_iff.1 (by decide)
  obtain ⟨c, hends, hrecovered, hstart⟩ := failures_recovered m s hwords hprogram
  have hc : c = (s.ready "/a" ["-x"]).conclusion m := ((hends _).1 (ends_conclusion m _)).symm
  have hrequest : c.request
      = some ⟨"/a", ["/a", "-x"], Environment.empty, []⟩ := by
    rw [hc]
    decide +kernel
  refine ⟨hwords, hprogram, c, (hends c).2 rfl, ?_, ?_, ?_, hrecovered⟩
  · rw [hc]
    decide +kernel
  · exact hstart _ "/a" (.number 11) hrequest rfl
  · rw [hrecovered.monitor_eq, hrequest]
    rfl

end Session

end CommandShell
