import CommandShell.Invocation
import CommandShell.Proofs.Ending

/-!
# Statuses Fit into a Byte

A process leaves one byte as its exit code. The shell computes with statuses
that could be any number, and only when the process ends the residue modulo 256
is taken. If a status were ever out of range, the process would report another
code than the session has, and a failure could turn into a success.

A status comes from one of three places. A builtin leaves 0, 1 or 2, except for
`exit`, which takes a residue or the status that is there. A failure to run a
program leaves 125, 126 or 127. A program that ends leaves the residue of its
code, or 128 more than the signal that killed it. The last of these is the only
one that does not keep to a byte by itself. It does for a signal up to 127, and
the system knows no others.

## Main definitions

* `IsByte`: A number that fits into a byte.
* `Child.Spawner.Ordinary`: Programs are killed by signals that exist.
* `Session.InRange`: The numbers that a session holds fit into a byte.

## Theorems

* `signal_ofWaitStatus`: The system reports signals that exist.
* `isByte_run`, `isByte_runProgram`: What commands leave fits into a byte.
* `invariant_inRange`: A session stays in range.
* `status_range`: So does the result of a shell, which the process hands on
  unchanged.
-/

namespace CommandShell

open Child

/-- A number that fits into a byte. -/
def IsByte (n : Int) : Prop :=
  0 ≤ n ∧ n < 256

instance (n : Int) : Decidable (IsByte n) :=
  inferInstanceAs (Decidable (0 ≤ n ∧ n < 256))

theorem IsByte.residue_eq {n : Int} (h : IsByte n) : n % 256 = n :=
  Int.emod_eq_of_lt h.1 h.2

namespace Child

/-- Whatever a program is asked for, if it is killed, then by a signal that exists. How it
    ends otherwise is open. -/
def Spawner.Ordinary (spawner : Spawner) : Prop :=
  ∀ earlier request signal, (spawner earlier request).result = .ok (.signaled signal) →
    1 ≤ signal ∧ signal ≤ 127

/-- The system reports signals that exist. -/
theorem Outcome.signal_ofWaitStatus {word signal : Int}
    (h : Outcome.ofWaitStatus word = .signaled signal) : 1 ≤ signal ∧ signal ≤ 127 := by
  unfold ofWaitStatus at h
  dsimp only at h
  split at h
  · cases h
  · split at h
    · cases h
    -- The signal is the low seven bits of the word, and zero has been excluded.
    · cases h
      omega

theorem isByte_failure (e : Failure) : IsByte e.status := by
  cases e <;> simp [Failure.status, statusNotFound, statusNotExecutable, statusFailed, IsByte]

theorem isByte_searchError (e : File.SearchError) : IsByte e.status := by
  cases e <;> decide

end Child

namespace Builtin

theorem isByte_error (e : Error) : IsByte e.status := by
  cases e <;> simp [Error.status, IsByte]

variable {m : Machine} {s : Session} {args : List String} {status : Int}

theorem isByte_runExit (h : IsByte s.state.status) (hok : (runExit args s).2 = .ok status) :
    IsByte status := by
  unfold runExit at hok
  cases args with
  | nil =>
      cases hok
      exact h
  | cons word more =>
      dsimp only at hok
      cases hcode : exitCode? word with
      | none =>
          rw [hcode] at hok
          cases hok
      | some code =>
          rw [hcode] at hok
          cases hok
          -- The code is a residue, however long the number is.
          unfold exitCode? at hcode
          split at hcode
          · rw [← Option.some.inj hcode]
            have hlt := decimalResidue_lt word.toList
            exact ⟨by omega, by omega⟩
          · cases hcode

/-- Requests that are carried out in turn leave the status that they began with, or 1. -/
theorem status_inTurn {α : Type} (act : Session → α → Session × Except SystemError Bool)
    (requests : List α) (s : Session) {start : Int}
    (hok : (inTurn act s start requests).2 = .ok status) : status = start ∨ status = 1 := by
  -- A request that fails makes the status 1, with which the rest of them begin.
  induction requests generalizing s start with
  | nil => exact Or.inl (Except.ok.inj hok).symm
  | cons request more ih =>
      unfold inTurn at hok
      split at hok
      · exact ih _ hok
      · exact Or.inr ((ih _ hok).elim id id)
      · cases hok

theorem isByte_inTurn {α : Type} {act : Session → α → Session × Except SystemError Bool}
    {requests : List α} (hok : (inTurn act s 0 requests).2 = .ok status) : IsByte status := by
  rcases status_inTurn act requests s hok with rfl | rfl <;> decide

theorem isByte_runChangeDirectory (hok : (runChangeDirectory m args s).2 = .ok status) :
    IsByte status := by
  unfold runChangeDirectory at hok
  split at hok
  · cases hok
  · dsimp only at hok
    split at hok
    · cases hok
    · split at hok
      -- The move succeeds, and whether it is announced or not, the status is 0.
      · split at hok <;> cases hok
        decide
      · cases hok
        decide

theorem isByte_execute (b : Builtin) (h : IsByte s.state.status)
    (hok : (b.execute m args s).2 = .ok status) : IsByte status := by
  have hzero : IsByte 0 := by decide
  cases b with
  | exit => exact isByte_runExit h hok
  | changeDirectory => exact isByte_runChangeDirectory hok
  -- Each of these reports 0 wherever it does not fail.
  | listVariables =>
      simp only [execute, runListVariables] at hok
      split at hok
      · split at hok <;> cases hok
        exact hzero
      · cases hok
  | setVariable =>
      simp only [execute, runSetVariable] at hok
      split at hok
      · split at hok <;> cases hok
        exact hzero
      · cases hok
  | unsetVariables =>
      simp only [execute, runUnsetVariables] at hok
      split at hok <;> cases hok
      exact hzero
  | help =>
      simp only [execute, runHelp] at hok
      split at hok
      · cases hok
      · split at hok <;> cases hok
        exact hzero
  | defineAliases =>
      simp only [execute, runDefineAliases] at hok
      split at hok
      · split at hok <;> cases hok
        exact hzero
      -- With requests to carry out, the status is that of the turns.
      · exact isByte_inTurn hok
  | removeAliases =>
      simp only [execute, runRemoveAliases] at hok
      split at hok
      · cases hok
      · exact isByte_inTurn hok

/-- The status that a builtin leaves fits into a byte if the one before did. -/
theorem isByte_run (m : Machine) (b : Builtin) (args : List String)
    (h : IsByte s.state.status) : IsByte (b.run m args s).2 := by
  unfold run
  split
  · rename_i t status heq
    exact isByte_execute b h (congrArg Prod.snd heq)
  · rename_i t e heq
    exact isByte_error e

end Builtin

namespace Session

/-- The numbers that a session holds fit into a byte. -/
structure InRange (s : Session) : Prop where
  status : IsByte s.state.status
  exitRequest : ∀ code, s.state.exitRequest = some code → IsByte code

variable {m : Machine} {s : Session} {code : Int}

/-- The status that a program leaves, or the failure to run it, fits into a byte. -/
theorem isByte_runProgram (hordinary : m.spawner.Ordinary) (s : Session) :
    IsByte (s.runProgram m).2 := by
  rw [status_runProgram]
  split
  · exact isByte_searchError _
  · rename_i program _
    generalize hrequest : Request.mk program _ _ _ = request
    cases hresult : (m.spawner s.journal.requests request).result with
    | error e => exact isByte_failure e
    | ok outcome =>
        cases outcome with
        | exited code => exact Outcome.status_exited_range code
        -- Nothing but the number of the signal could lead out of the byte.
        | signaled signal =>
            have hsignal := hordinary s.journal.requests request signal hresult
            have hstatus : statusOf (.ok (.signaled signal)) = 128 + signal := rfl
            rw [hstatus]
            exact ⟨by omega, by omega⟩

theorem isByte_runCommand (hordinary : m.spawner.Ordinary) (h : IsByte s.state.status)
    (leading : String) (args : List String) : IsByte (s.runCommand m leading args).2 := by
  unfold runCommand
  cases Builtin.ofName? leading with
  | some b => exact Builtin.isByte_run m b args (s := s.ready leading args) h
  | none => exact isByte_runProgram hordinary (s.ready leading args)

theorem inRange_turn (turn : Turn) (hordinary : turn.machine.spawner.Ordinary)
    (h : turn.before.InRange) : turn.after.InRange := by
  rcases turn.after_cases with ⟨_, tokens, hafter⟩ | ⟨leading, args, _, hopen, _, hafter⟩
  · rw [hafter]
    exact ⟨h.status, h.exitRequest⟩
  · have hstatus : IsByte turn.after.state.status := by
      rw [hafter]
      exact isByte_runCommand hordinary h.status leading args
    -- A code that the command has asked for is the status that it leaves.
    have hsettled := settled_turn turn (settled_of_none hopen)
    exact ⟨hstatus, fun code hcode => hsettled code hcode ▸ hstatus⟩

/-- A session stays in range if programs are killed by signals that exist. -/
theorem invariant_inRange (h : s.InRange) :
    Invariant (·.spawner.Ordinary) s fun _ t => t.InRange where
  start := h
  begin := fun _ _ _ ih => ⟨ih.status, ih.exitRequest⟩
  turn := fun _ turn hordinary ih => inRange_turn turn hordinary ih
  write := fun _ _ _ _ ih => ⟨ih.status, ih.exitRequest⟩
  watch := fun _ _ _ ih => ⟨ih.status, ih.exitRequest⟩

theorem InRange.after (h : s.InRange) (history : History)
    (hordinary : ∀ e ∈ history, e.1.spawner.Ordinary) : (s.after history).InRange := by
  have hcourse : Course (·.spawner.Ordinary) s (s.turnsDuring history) (s.after history) :=
    course_after s history hordinary
  exact hcourse.invariant (invariant_inRange h)

theorem InRange.outcome (h : s.InRange) (hcode : s.outcome none = .ok code) : IsByte code := by
  unfold Session.outcome at hcode
  cases hexit : s.state.exitRequest with
  | none =>
      rw [hexit] at hcode
      exact Except.ok.inj hcode ▸ h.status
  | some asked =>
      rw [hexit] at hcode
      exact Except.ok.inj hcode ▸ h.exitRequest asked hexit

/-- The process reports a code in range as it is, unless it is killed. -/
theorem code_reportOf (journal : Journal) (watching : Bool) {reported : Int} (h : IsByte code)
    (hreported : (Invocation.reportOf journal watching code).code = some reported) :
    reported = code := by
  unfold Invocation.reportOf at hreported
  dsimp only at hreported
  split at hreported
  · cases hreported
  · rw [h.residue_eq] at hreported
    exact (Option.some.inj hreported).symm

/-- In a session that began in range, on machines where programs are killed by signals
    that exist, the status and the code asked for stay in range. So is what a shell
    returns, and the process that runs the shell reports this very code. -/
theorem status_range (h : s.InRange) (history : History)
    (hordinary : ∀ e ∈ history, e.1.spawner.Ordinary) :
    (s.after history).InRange ∧
      ∀ m : Machine, m.spawner.Ordinary → ∀ source prompt code,
        (Shell.run m ⟨s.after history, source, prompt⟩).2 = .ok code →
        IsByte code ∧
        ∀ journal watching reported,
          (Invocation.reportOf journal watching code).code = some reported → reported = code := by
  have hrange := h.after history hordinary
  refine ⟨hrange, fun m hm source prompt code hcode => ?_⟩
  -- The run is one more step of the history, so what it returns is taken from a session in range.
  have hended : (Shell.run m ⟨s.after history, source, prompt⟩).1.session.InRange := by
    refine hrange.after [(m, .shell source prompt)] ?_
    simpa using hm
  have hbyte := hended.outcome (outcome_run m ⟨s.after history, source, prompt⟩ hcode)
  exact ⟨hbyte, fun journal watching reported => code_reportOf journal watching hbyte⟩

/-- A program is killed by the last signal in range, and `exit` takes over the status that
    this leaves. -/
theorem status_range_signaled :
    let m : Machine :=
      { Machine.bare fun _ _ => .quiet (.ok (.signaled 127)) with
        files := .ofEntries [(["bin"], .directory), (["bin", "k"], .regular [] true)] }
    let s := Session.fresh Environment.empty
    let killed := s.after [(m, .line "/bin/k")]
    let typed : Input.Source := .feed ⟨[Text.encode "exit ; /bin/k"], none⟩
    s.InRange ∧ m.spawner.Ordinary ∧ killed.state.status = 255 ∧ killed.InRange ∧
      (Shell.run m ⟨killed, typed, ""⟩).2 = .ok 255 ∧ IsByte 255 := by
  intro m s killed typed
  have hfresh : s.InRange := ⟨by decide, fun code hcode => nomatch hcode⟩
  have hordinary : m.spawner.Ordinary := by
    intro earlier request signal hsignal
    obtain rfl : 127 = signal := Outcome.signaled.inj (Except.ok.inj hsignal)
    decide
  have hhistory : ∀ e ∈ [(m, Use.line "/bin/k")], e.1.spawner.Ordinary := by
    simpa using hordinary
  have hreturned : (Shell.run m ⟨killed, typed, ""⟩).2 = .ok 255 := by decide +kernel
  rcases status_range hfresh [(m, .line "/bin/k")] hhistory with ⟨hrange, hreported⟩
  have hbyte := (hreported m hordinary typed "" 255 hreturned).1
  exact ⟨hfresh, hordinary, by decide +kernel, hrange, hreturned, hbyte⟩

end Session

end CommandShell
