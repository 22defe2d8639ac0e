import CommandShell.Proofs.Moves

/-!
# Rejected Calls

A builtin that is called wrongly says so and does nothing else. It may be given the
wrong number of arguments, a name that no variable can have, a number that is none, a
directory that cannot be entered, or a topic on which there is no help. What these have
in common is that they are found out before anything is done, so there is nothing to
take back.

Two kinds of failure do not belong here. A text that cannot be written is noticed only
when something has been done already. And a request for an alias that fails is reported
without failing the call, which goes on with the next request.

## Main definitions

* `Builtin.Rejected`: Why a call is rejected.
* `Builtin.FailsToWrite`: The only failure is that a text cannot be written.
* `Builtin.executeChecked`: What a builtin does with all its checks.

## Theorems

* `execute_of_rejected`: A call that is rejected does nothing.
* `execute_eq_error_iff`: When a call is rejected.
* `rejected_leaves_no_trace`: A rejected call leaves no trace but its diagnostic.
-/

namespace CommandShell

namespace Builtin

/-- Why a call is rejected, and with what error. -/
inductive Rejected (m : Machine) (s : Session) : Builtin → List String → Error → Prop
  | number {word : String} {more : List String} (h : exitCode? word = none) :
      Rejected m s .exit (word :: more) (.illegalNumber word)
  | directory {args : List String} {e : Error} (h : Stays m args s e) :
      Rejected m s .changeDirectory args e
  /-- Variables are listed all together or not at all. -/
  | listing {args : List String} (h : args ≠ []) :
      Rejected m s .listVariables args (.invalidArguments "usage: env")
  | assignment {args : List String} (h : args.length ≠ 2) :
      Rejected m s .setVariable args (.invalidArguments "usage: setenv NAME VALUE")
  | name {name value : String} {e : Environment.NameError}
      (h : s.state.environment.set name value = .error e) :
      Rejected m s .setVariable [name, value] (.invalidArguments e.message)
  | noVariable : Rejected m s .unsetVariables [] (.invalidArguments "usage: unsetenv NAME...")
  | topic {word : String} {more : List String} (h : ofName? word = none) :
      Rejected m s .help (word :: more) (.notFound ("no help topics match '" ++ word ++ "'"))
  | noAlias : Rejected m s .removeAliases [] (.invalidArguments "usage: unalias NAME...")

variable {m : Machine} {b : Builtin} {args : List String} {s t : Session} {e : Error}

/-- A call that is rejected does nothing. -/
theorem execute_of_rejected (h : Rejected m s b args e) : b.execute m args s = (s, .error e) := by
  cases h with
  | number hnone => simp only [execute, runExit, hnone]
  | directory hstays => exact runChangeDirectory_of_stays hstays
  | listing hargs => simp [execute, runListVariables, hargs]
  | assignment hlength =>
      -- Two arguments would have been an assignment.
      rcases args with _ | ⟨name, _ | ⟨value, _ | ⟨extra, more⟩⟩⟩
      · rfl
      · rfl
      · exact absurd rfl hlength
      · rfl
  | name hset => simp only [execute, runSetVariable, hset]
  | noVariable => rfl
  | topic hnone => simp only [execute, runHelp, helpText, hnone]
  | noAlias => rfl

/-! ### When a call is rejected -/

/-- If a call fails, then for the reason that a text cannot be written. -/
def FailsToWrite (result : Session × Except Error Int) : Prop :=
  ∀ e, result.2 = .error e → ∃ cause, e = .write cause

theorem failsToWrite_ok (s : Session) (status : Int) : FailsToWrite (s, .ok status) :=
  fun _ h => nomatch h

theorem failsToWrite_error (s : Session) (cause : SystemError) :
    FailsToWrite (s, .error (.write cause)) := by
  intro e h
  exact ⟨cause, (Except.error.inj h).symm⟩

/-- A text is written, and nothing else can fail. -/
theorem failsToWrite_written (written : Session × Except SystemError Unit) :
    FailsToWrite
      (match written with
        | (s, .ok ()) => (s, .ok 0)
        | (s, .error e) => (s, .error (.write e))) := by
  rcases written with ⟨s, cause | _⟩
  · exact failsToWrite_error s cause
  · exact failsToWrite_ok s 0

theorem failsToWrite_inTurn {α : Type} (act : Session → α → Session × Except SystemError Bool)
    (requests : List α) (s : Session) (status : Int) :
    FailsToWrite (inTurn act s status requests) := by
  induction requests generalizing s status with
  | nil => exact failsToWrite_ok s status
  | cons request more ih =>
      -- Only an answer that cannot be written ends the requests with an error.
      unfold inTurn
      split
      · exact ih _ status
      · exact ih _ 1
      · exact failsToWrite_error _ _

/-- A target that can be entered is entered, and then only its name may be left
    unwritten. -/
theorem failsToWrite_of_entered {goal : Target} {directory : File.Location}
    (htarget : target m s.state.environment args = .ok goal)
    (henter : m.files.enter s.directory goal.path = .ok directory) :
    FailsToWrite (runChangeDirectory m args s) := by
  simp only [runChangeDirectory, htarget, henter]
  split
  · exact failsToWrite_written _
  · exact failsToWrite_ok _ 0

/-- A call is rejected, or else it fails to write if it fails at all. -/
theorem rejected_or_failsToWrite (m : Machine) (b : Builtin) (args : List String) (s : Session) :
    (∃ e, Rejected m s b args e) ∨ FailsToWrite (b.execute m args s) := by
  cases b with
  | exit =>
      -- The code has to be a number, if one is given.
      cases args with
      | nil => exact Or.inr (failsToWrite_ok _ _)
      | cons word more =>
          cases hcode : exitCode? word with
          | none => exact Or.inl ⟨_, .number hcode⟩
          | some code =>
              simp only [execute, runExit, hcode]
              exact Or.inr (failsToWrite_ok _ _)
  | changeDirectory =>
      -- The session stays for one of its two reasons, or it moves and may fail to say
      -- where.
      cases htarget : target m s.state.environment args with
      | error e => exact Or.inl ⟨e, .directory (.noTarget (target_eq_error_iff.1 htarget))⟩
      | ok goal =>
          cases henter : m.files.enter s.directory goal.path with
          | error cause => exact Or.inl ⟨_, .directory (.cannotEnter htarget henter)⟩
          | ok directory => exact Or.inr (failsToWrite_of_entered htarget henter)
  | listVariables =>
      -- The variables are written out, and no argument is taken.
      cases args with
      | nil =>
          refine Or.inr ?_
          simp only [execute, runListVariables, List.isEmpty_nil, if_true]
          exact failsToWrite_written _
      | cons word more => exact Or.inl ⟨_, .listing (List.cons_ne_nil word more)⟩
  | setVariable =>
      -- Two arguments are needed, and the first has to be a name.
      by_cases hlength : args.length = 2
      · obtain ⟨name, value, rfl⟩ := List.length_eq_two.1 hlength
        cases hset : s.state.environment.set name value with
        | error e => exact Or.inl ⟨_, .name hset⟩
        | ok env =>
            simp only [execute, runSetVariable, hset]
            exact Or.inr (failsToWrite_ok _ 0)
      · exact Or.inl ⟨_, .assignment hlength⟩
  | unsetVariables =>
      cases args with
      | nil => exact Or.inl ⟨_, .noVariable⟩
      | cons name more => exact Or.inr (failsToWrite_ok _ 0)
  | help =>
      have hshown : ∀ text, helpText args = .ok text →
          FailsToWrite (execute m .help args s) := by
        intro text htext
        simp only [execute, runHelp, htext]
        exact failsToWrite_written _
      -- The text is there for every builtin, and for no other word.
      cases args with
      | nil => exact Or.inr (hshown overview rfl)
      | cons word more =>
          cases hname : ofName? word with
          | none => exact Or.inl ⟨_, .topic hname⟩
          | some topic => exact Or.inr (hshown topic.usage (by simp only [helpText, hname]))
  -- A request that cannot be met is answered in its turn and ends nothing.
  | defineAliases =>
      refine Or.inr ?_
      simp only [execute, runDefineAliases]
      split
      · exact failsToWrite_written _
      · exact failsToWrite_inTurn carryOut _ s 0
  | removeAliases =>
      cases args with
      | nil => exact Or.inl ⟨_, .noAlias⟩
      | cons name more => exact Or.inr (failsToWrite_inTurn removeOne _ s 0)

/-- A call that fails for another reason than a text that cannot be written has been
    rejected, and in no other case is it. -/
theorem execute_eq_error_iff (hwritten : ∀ cause, e ≠ .write cause) :
    (b.execute m args s).2 = .error e ↔ Rejected m s b args e := by
  refine ⟨fun hfailed => ?_, fun h => by rw [execute_of_rejected h]⟩
  rcases rejected_or_failsToWrite m b args s with ⟨e', hrejected⟩ | honly
  · rw [execute_of_rejected hrejected] at hfailed
    exact Except.error.inj hfailed ▸ hrejected
  · obtain ⟨cause, hcause⟩ := honly e hfailed
    exact absurd hcause (hwritten cause)

/-! ### What is left of a rejected call -/

/-- What a builtin does if the names of the variables that it sets are looked at
    everywhere. -/
def executeChecked (m : Machine) (b : Builtin) (args : List String) (s : Session) :
    Session × Except Error Int :=
  match b with
  | .changeDirectory => runCheckedChangeDirectory m args s
  | _ => b.execute m args s

theorem executeChecked_eq (m : Machine) (b : Builtin) (args : List String) (s : Session) :
    b.executeChecked m args s = b.execute m args s := by
  cases b with
  | changeDirectory => exact runCheckedChangeDirectory_eq m args s
  | _ => rfl

/-- A rejected call leaves no trace. Nothing of the session is changed by then, also if
    all names of variables are looked at. What follows is one diagnostic with the words of
    the error, and the status of its kind. -/
theorem rejected_leaves_no_trace (m : Machine) (b : Builtin) (args : List String)
    (h : b.executeChecked m args s = (t, .error e)) (hwritten : ∀ cause, e ≠ .write cause) :
    t = s ∧ b.execute m args s = (s, .error e) ∧ Rejected m s b args e ∧
      b.run m args s = (s.complain e.message, if e matches .notFound _ then 1 else 2) ∧
      (s.complain e.message).state = s.state ∧
      (s.complain e.message).directory = s.directory ∧
      (s.complain e.message).journal.attempted .standardOutput
        = s.journal.attempted .standardOutput ∧
      (s.complain e.message).journal.attempted .standardError
        = s.journal.attempted .standardError ++ [s.state.diagnostic e.message ++ "\n"] := by
  rw [executeChecked_eq] at h
  have hrejected : Rejected m s b args e := (execute_eq_error_iff hwritten).1 (by rw [h])
  have hdone := execute_of_rejected hrejected
  have hsame : s = t := congrArg Prod.fst (hdone.symm.trans h)
  refine ⟨hsame.symm, hdone, hrejected, ?_, rfl, rfl, ?_, ?_⟩
  · rw [run, hdone]
    -- The status depends on whether something was not found, as the error does not come
    -- from writing.
    cases e with
    | write cause => exact absurd rfl (hwritten cause)
    | _ => rfl
  · exact (s.journal.attempted_write .standardError .standardOutput _).trans (List.append_nil _)
  · exact s.journal.attempted_write .standardError .standardError _

/-- The previous directory has become a file. Neither is it written out, nor do the
    variables take note of it. -/
theorem rejected_leaves_no_trace_previous :
    let m : Machine :=
      { Machine.bare fun _ _ => .quiet (.ok (.exited 0)) with
        files := .ofEntries [(["f"], .regular [] true)] }
    let s := Session.fresh (Environment.empty.put "OLDPWD" "/f")
    Builtin.changeDirectory.executeChecked m ["-"] s = (s, .error (.cannotEnter "/f")) ∧
      Builtin.changeDirectory.run m ["-"] s = (s.complain "can't cd to /f", 2) := by
  intro m s
  have htarget : target m s.state.environment ["-"] = .ok ⟨.text "/f", true⟩ := by decide +kernel
  have henter : m.files.enter s.directory (.text "/f") = .error .notDirectory := by
    decide +kernel
  have hfails : Builtin.changeDirectory.executeChecked m ["-"] s
      = (s, .error (.cannotEnter "/f")) :=
    (executeChecked_eq m .changeDirectory ["-"] s).trans
      (execute_of_rejected (.directory (.cannotEnter htarget henter)))
  have hrun := rejected_leaves_no_trace m .changeDirectory ["-"] hfails fun _ => nofun
  exact ⟨hfails, hrun.2.2.2.1⟩

end Builtin

end CommandShell
