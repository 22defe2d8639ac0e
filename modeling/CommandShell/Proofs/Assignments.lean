import CommandShell.Proofs.Effects
import CommandShell.Proofs.Courses

/-!
# Assignments

Of all that happens in a session only three builtins change its variables:
`setenv` sets one, `unsetenv` takes some away, and `cd` notes the directory that
was left and the one that was entered. What a segment does to the environment
can therefore be written down as a list of assignments, which depends on the
words of its command and on where the session stands. The list is empty for
every other command, for programs, and for a segment that is not run.

The environment at any moment is then the one at the start with the assignments
made since, in their order. Nothing else has a part in it.

## Main definitions

* `Assignment`: A variable gets a value or loses the one it has.
* `Environment.assignAll`: The environment after some assignments.
* `Builtin.assignments`: What a builtin does to the variables.
* `Session.Turn.assignments`: What a segment does to them.

## Theorems

* `environment_run`: A builtin makes its assignments and no others.
* `environment_turn`: So does a segment.
* `invariant_environment`: The environment holds all assignments made so far.
-/

namespace CommandShell

/-- What can be done to a variable. -/
inductive Assignment where
  | put (name value : String)
  | unset (name : String)
deriving DecidableEq

namespace Environment

/-- The environment after an assignment. -/
def assign (env : Environment) : Assignment → Environment
  | .put name value => env.put name value
  | .unset name => env.unset name

/-- The environment after some assignments, made one after the other. -/
def assignAll (env : Environment) (as : List Assignment) : Environment :=
  as.foldl assign env

@[simp]
theorem assignAll_nil (env : Environment) : env.assignAll [] = env := rfl

theorem assignAll_append (env : Environment) (as bs : List Assignment) :
    env.assignAll (as ++ bs) = (env.assignAll as).assignAll bs :=
  List.foldl_append

/-- A name that `setenv` accepts. -/
def IsName (name : String) : Prop :=
  name ≠ "" ∧ '=' ∉ name.toList ∧ '\x00' ∉ name.toList

instance (name : String) : Decidable (IsName name) :=
  inferInstanceAs (Decidable (name ≠ "" ∧ '=' ∉ name.toList ∧ '\x00' ∉ name.toList))

end Environment

namespace Builtin

/-- What is assigned when the session moves: `OLDPWD` if the directory that is left has a
    known name, and then `PWD`. -/
def moveAssignments (m : Machine) (env : Environment) (here : File.Location) (goal : File.RawPath)
    (directory : File.Location) : List Assignment :=
  (((m.files.currentPath? here).or (env.get? "PWD")).map (Assignment.put "OLDPWD")).toList ++
    [.put "PWD" ((m.files.currentPath? directory).getD goal.shown)]

/-- What a builtin assigns when it is called with some arguments where the session
    stands. -/
def assignments (m : Machine) (env : Environment) (here : File.Location) :
    Builtin → List String → List Assignment
  | .setVariable, [name, value] => if Environment.IsName name then [.put name value] else []
  | .unsetVariables, names => names.map .unset
  | .changeDirectory, args =>
      match target m env args with
      | .error _ => []
      | .ok goal =>
          match m.files.enter here goal.path with
          | .error _ => []
          | .ok directory => moveAssignments m env here goal.path directory
  | _, _ => []

variable {b : Builtin} {s t : Session}

theorem Effects.environment_eq (h : Effects b s t)
    (hb : ¬ (b = .changeDirectory ∨ b = .setVariable ∨ b = .unsetVariables)) :
    t.state.environment = s.state.environment := by
  refine h.view_eq (·.state.environment) fun heffect => ?_
  cases heffect with
  | environment env hchanges => exact absurd hchanges hb
  | _ => rfl

/-- A name that is fit for a variable is accepted. -/
theorem runSetVariable_of_isName {name : String} (h : Environment.IsName name) (value : String)
    (s : Session) :
    runSetVariable [name, value] s
      = ({ s with state.environment := s.state.environment.put name value }, .ok 0) := by
  obtain ⟨hempty, hequals, hnul⟩ := h
  have hset := Environment.set_eq_ok_iff.2
    ⟨hempty, hequals, hnul, rfl (a := s.state.environment.put name value)⟩
  simp only [runSetVariable, hset]

theorem environment_runSetVariable (m : Machine) (args : List String) (s : Session) :
    (runSetVariable args s).1.state.environment
      = s.state.environment.assignAll
        (assignments m s.state.environment s.directory .setVariable args) := by
  match args with
  | [name, value] =>
      simp only [runSetVariable, assignments]
      cases hset : s.state.environment.set name value with
      | ok env =>
          rcases Environment.set_eq_ok_iff.1 hset with ⟨hempty, hequals, hnul, rfl⟩
          rw [if_pos ⟨hempty, hequals, hnul⟩]
          rfl
      | error e =>
          have hname : ¬ Environment.IsName name := by
            rintro ⟨hempty, hequals, hnul⟩
            have hok := Environment.set_eq_ok_iff.2
              ⟨hempty, hequals, hnul, rfl (a := s.state.environment.put name value)⟩
            rw [hset] at hok
            simp at hok
          rw [if_neg hname]
          rfl
  | [] => rfl
  | [_] => rfl
  | _ :: _ :: _ :: _ => rfl

theorem environment_runUnsetVariables (args : List String) (s : Session) :
    (runUnsetVariables args s).1.state.environment
      = s.state.environment.assignAll (args.map .unset) := by
  unfold runUnsetVariables
  cases args with
  | nil => rfl
  | cons name more =>
      simp only [Environment.assignAll, List.foldl_map]
      rfl

theorem recordMove_eq (m : Machine) (env : Environment) (here : File.Location)
    (goal : File.RawPath) (directory : File.Location) :
    recordMove env ((m.files.currentPath? here).or (env.get? "PWD"))
        ((m.files.currentPath? directory).getD goal.shown)
      = env.assignAll (moveAssignments m env here goal directory) := by
  unfold recordMove moveAssignments
  cases (m.files.currentPath? here).or (env.get? "PWD") <;> rfl

theorem environment_runChangeDirectory (m : Machine) (args : List String) (s : Session) :
    (runChangeDirectory m args s).1.state.environment
      = s.state.environment.assignAll
        (assignments m s.state.environment s.directory .changeDirectory args) := by
  simp only [runChangeDirectory, assignments]
  -- Without a target, or if it cannot be entered, nothing is assigned on either side.
  cases target m s.state.environment args with
  | error e => rfl
  | ok goal =>
      cases hentered : m.files.enter s.directory goal.path with
      | error e => simp [hentered]
      | ok directory =>
          simp only [hentered, ← recordMove_eq]
          -- Whether the directory is announced does not matter.
          split
          · split <;> rename_i hprint <;> exact congrArg (·.1.state.environment) hprint.symm
          · rfl

/-- A builtin makes its assignments and changes no other variable. -/
theorem environment_run (m : Machine) (b : Builtin) (args : List String) (s : Session) :
    (b.run m args s).1.state.environment
      = s.state.environment.assignAll
        (b.assignments m s.state.environment s.directory args) := by
  have hexecute : (b.execute m args s).1.state.environment
      = s.state.environment.assignAll
        (b.assignments m s.state.environment s.directory args) := by
    have heffects := execute_effects m b args s
    cases b with
    | setVariable => exact environment_runSetVariable m args s
    | unsetVariables => exact environment_runUnsetVariables args s
    | changeDirectory => exact environment_runChangeDirectory m args s
    | _ => exact heffects.environment_eq (by simp)
  -- To report an error changes no variable.
  unfold run
  split <;> rename_i heq <;> rw [heq] at hexecute <;> exact hexecute

end Builtin

namespace Session

/-- What is assigned in a turn. -/
def Turn.assignments (turn : Turn) : List Assignment :=
  match turn.command with
  | [] => []
  | leading :: args =>
      match Builtin.ofName? leading with
      | none => []
      | some b =>
          b.assignments turn.machine turn.before.state.environment turn.before.directory args

theorem environment_runCommand (m : Machine) (s : Session) (leading : String)
    (args : List String) :
    (s.runCommand m leading args).1.state.environment
      = s.state.environment.assignAll
        (match Builtin.ofName? leading with
          | none => []
          | some b => b.assignments m s.state.environment s.directory args) := by
  unfold runCommand
  cases Builtin.ofName? leading with
  | none =>
      dsimp only
      rw [state_runProgram]
      rfl
  | some b => exact Builtin.environment_run m b args (s.ready leading args)

/-- A segment makes its assignments and changes no other variable. -/
theorem environment_turn (turn : Turn) :
    turn.after.state.environment
      = turn.before.state.environment.assignAll turn.assignments := by
  rcases turn.after_cases with ⟨hnone, tokens, hafter⟩ | ⟨leading, args, hcommand, _, _, hafter⟩
  · rw [hafter, Turn.assignments, hnone]
    rfl
  · rw [hafter, Turn.assignments, hcommand]
    exact environment_runCommand turn.machine turn.before leading args

variable {machines : Machine → Prop} {s : Session}

/-- The environment holds all assignments made so far, and nothing else. -/
theorem invariant_environment : Invariant machines s fun turns t =>
    t.state.environment = s.state.environment.assignAll (turns.flatMap Turn.assignments) where
  start := rfl
  begin := fun _ _ _ ih => ih
  turn := by
    intro turns turn _ ih
    rw [environment_turn, ih, List.flatMap_append, Environment.assignAll_append,
      List.flatMap_singleton]
  write := fun _ _ _ _ ih => ih
  watch := fun _ _ _ ih => ih

end Session

end CommandShell
