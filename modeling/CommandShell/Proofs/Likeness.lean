import CommandShell.Session.Evaluation
import Mathlib.Data.List.Forall2

/-!
# Sessions Side by Side

Many questions about a shell compare two runs: the same line cut in two, the
same line with other blanks, the same session on a stream that breaks. Their
proofs all walk through the builtins and through the start of programs in the
same way, and differ only in what they ask of the two journals. This walk is
made here once.

Two sessions are *alike* if they differ at most in the number and the text of
the line at work and in their journals. The journals are compared by a
relation that a `Likeness` names, together with what the relation has to bear:
the same text printed on both sides, a diagnostic with each side's own line
number, an empty line after an interrupt, and the same program run. Whatever
bears these four bears every command. A relation is free to let a diagnostic
arrive on one side and break off on the other; only the two builtins that look
at this need to know that it does not, which `Likeness.Faithful` says.

Between two commands the words of the last one are still around, though nobody
looks at them again. Sessions are *aligned* if they are alike once these are
forgotten, and that is what a segment keeps.

## Main definitions

* `Session.beside`: A session with another line number, line and journal.
* `Likeness`: What is asked of two line numbers and two journals.
* `Session.Alike`: Two sessions that a likeness relates.
* `Session.Aligned`: Two sessions that are alike between commands.
* `Session.ServeAlike`: Two machines that serve sessions alike.
* `Builtin.MeetsAlike`: A request is met alike up to the report of its failure.
* `Line.Segment.SameCommand`: Two segments that read as the same command.
* `Session.runCommand`: The command of a segment, once its words are known.
* `Session.Runs`: A segment is run.

## Theorems

* `alike_map`: What touches neither line number nor journal keeps sessions
  alike.
* `alike_execute`: A builtin keeps sessions alike.
* `alike_runProgram`: So does a program.
* `aligned_step`: A segment keeps sessions aligned.
* `aligned_foldl_step`: So do segments one after the other.
* `alike_evalLine`: A line keeps sessions alike, on machines that serve alike.
-/

namespace CommandShell

open Line Child

/-- The state at another line. -/
def State.renumber (st : State) (counter : Nat) (line : String) : State :=
  { st with
    counter := counter
    line := line }

/-- What is asked of the line numbers and of the journals of two sessions, and that this
    outlasts everything a command does. -/
structure Likeness where
  counters : Nat → Nat → Prop
  journals : Journal → Journal → Prop
  requests_eq {j k : Journal} : journals j k → k.requests = j.requests
  output_eq {j k : Journal} : journals j k →
    k.received .standardOutput = j.received .standardOutput
  /-- The same text is printed, with the same success. -/
  print {j k : Journal} (text : String) : journals j k →
    journals (j.write .standardOutput text).1 (k.write .standardOutput text).1 ∧
      (j.write .standardOutput text).2 = (k.write .standardOutput text).2
  /-- A diagnostic is written on both sides, each with its own line number. -/
  report {j k : Journal} (st : State) {counter : Nat} (line reason : String) :
    counters st.counter counter → journals j k →
    journals (j.write .standardError (st.diagnostic reason ++ "\n")).1
      (k.write .standardError ((st.renumber counter line).diagnostic reason ++ "\n")).1
  newline {j k : Journal} : journals j k →
    journals (j.write .standardError "\n").1 (k.write .standardError "\n").1
  ran {j k : Journal} (request : Request) (answer : Answer) : journals j k →
    journals (j.add (.ran request answer)) (k.add (.ran request answer))

/-- A diagnostic arrives on the standard error of both sides or of neither. -/
def Likeness.Faithful (L : Likeness) : Prop :=
  ∀ {j k : Journal} (st : State) {counter : Nat} (line reason : String),
    L.counters st.counter counter → L.journals j k →
    (j.write .standardError (st.diagnostic reason ++ "\n")).2
      = (k.write .standardError ((st.renumber counter line).diagnostic reason ++ "\n")).2

namespace Session

/-- A session that is at another line and has another journal. -/
def beside (s : Session) (counter : Nat) (line : String) (journal : Journal) : Session :=
  { s with
    state := s.state.renumber counter line
    journal := journal }

/-- Two sessions that differ in the line at work and in their journals, and there only as
    the likeness allows. -/
def Alike (L : Likeness) (s t : Session) : Prop :=
  ∃ counter line journal, t = s.beside counter line journal ∧
    L.counters s.state.counter counter ∧ L.journals s.journal journal

/-- Two sessions in which the same was done: they agree in all that commands can change or
    that leaves the shell, apart from the standard error. -/
structure SameConduct (s t : Session) : Prop where
  environment_eq : t.state.environment = s.state.environment
  aliases_eq : t.state.aliases = s.state.aliases
  directory_eq : t.directory = s.directory
  status_eq : t.state.status = s.state.status
  exitRequest_eq : t.state.exitRequest = s.state.exitRequest
  output_eq : t.journal.received .standardOutput = s.journal.received .standardOutput
  requests_eq : t.journal.requests = s.journal.requests

/-- Two sides that end alike and with the same result. -/
def EndAlike {α : Type} (L : Likeness) (x y : Session × α) : Prop :=
  ∃ s t r, x = (s, r) ∧ y = (t, r) ∧ Alike L s t

variable {L : Likeness} {s t : Session}

theorem Alike.environment_eq (h : Alike L s t) : t.state.environment = s.state.environment := by
  rcases h with ⟨_, _, _, rfl, _, _⟩
  rfl

theorem Alike.aliases_eq (h : Alike L s t) : t.state.aliases = s.state.aliases := by
  rcases h with ⟨_, _, _, rfl, _, _⟩
  rfl

theorem Alike.status_eq (h : Alike L s t) : t.state.status = s.state.status := by
  rcases h with ⟨_, _, _, rfl, _, _⟩
  rfl

theorem Alike.exitRequest_eq (h : Alike L s t) : t.state.exitRequest = s.state.exitRequest := by
  rcases h with ⟨_, _, _, rfl, _, _⟩
  rfl

theorem Alike.tokens_eq (h : Alike L s t) : t.state.tokens = s.state.tokens := by
  rcases h with ⟨_, _, _, rfl, _, _⟩
  rfl

theorem Alike.leading_eq (h : Alike L s t) : t.state.leading = s.state.leading := by
  rcases h with ⟨_, _, _, rfl, _, _⟩
  rfl

theorem Alike.directory_eq (h : Alike L s t) : t.directory = s.directory := by
  rcases h with ⟨_, _, _, rfl, _, _⟩
  rfl

theorem Alike.monitor_eq (h : Alike L s t) : t.monitor = s.monitor := by
  rcases h with ⟨_, _, _, rfl, _, _⟩
  rfl

theorem Alike.journals (h : Alike L s t) : L.journals s.journal t.journal := by
  rcases h with ⟨_, _, _, rfl, _, hj⟩
  exact hj

theorem Alike.expandWords_eq (h : Alike L s t) (words : List String) :
    t.state.expandWords words = s.state.expandWords words := by
  rcases h with ⟨_, _, _, rfl, _, _⟩
  rfl

/-- What touches neither the line number nor the journal, and does not look at them, keeps
    sessions alike. -/
theorem alike_map (h : Alike L s t) (f : Session → Session)
    (hbeside : ∀ u counter line journal,
      f (u.beside counter line journal) = (f u).beside counter line journal)
    (hcounter : ∀ u, (f u).state.counter = u.state.counter)
    (hjournal : ∀ u, (f u).journal = u.journal) : Alike L (f s) (f t) := by
  rcases h with ⟨counter, line, journal, rfl, hc, hj⟩
  refine ⟨counter, line, journal, hbeside s counter line journal, ?_, ?_⟩
  · rw [hcounter]
    exact hc
  · rw [hjournal]
    exact hj

/-! ### The streams and the programs -/

theorem alike_print (h : Alike L s t) (text : String) :
    EndAlike L (s.print text) (t.print text) := by
  rcases h with ⟨counter, line, journal, rfl, hc, hj⟩
  rcases L.print text hj with ⟨hj', hr⟩
  refine ⟨(s.print text).1, (s.print text).1.beside counter line _, _, rfl, ?_,
    counter, line, _, rfl, hc, hj'⟩
  exact Prod.ext rfl hr.symm

theorem alike_printAll (texts : List String) (h : Alike L s t) :
    EndAlike L (s.printAll texts) (t.printAll texts) := by
  induction texts generalizing s t with
  | nil => exact ⟨s, t, .ok (), rfl, rfl, h⟩
  | cons text more ih =>
      rcases alike_print h text with ⟨s', t', r, hs, ht, h'⟩
      -- The first text is written on both sides or refused on both, with the same error.
      cases r with
      | ok _ =>
          rcases ih h' with ⟨s'', t'', r, hs', ht', h''⟩
          exact ⟨s'', t'', r, by simp [printAll, hs, hs'], by simp [printAll, ht, ht'], h''⟩
      | error e => exact ⟨s', t', .error e, by simp [printAll, hs], by simp [printAll, ht], h'⟩

theorem alike_report (h : Alike L s t) (reason : String) :
    Alike L (s.report reason).1 (t.report reason).1 := by
  rcases h with ⟨counter, line, journal, rfl, hc, hj⟩
  exact ⟨counter, line, _, rfl, hc, L.report s.state line reason hc hj⟩

theorem alike_complain (h : Alike L s t) (reason : String) :
    Alike L (s.complain reason) (t.complain reason) :=
  alike_report h reason

/-- Where the same diagnostics arrive, they are reported with the same result. -/
theorem alike_report_of_faithful (hL : L.Faithful) (h : Alike L s t) (reason : String) :
    EndAlike L (s.report reason) (t.report reason) := by
  have hreported := alike_report h reason
  rcases h with ⟨counter, line, journal, rfl, hc, hj⟩
  exact ⟨_, _, _, rfl, Prod.ext rfl (hL s.state line reason hc hj).symm, hreported⟩

/-- A request that fails: the reason is reported, and that may fail as well. -/
def fail (s : Session) (reason : String) : Session × Except SystemError Bool :=
  ((s.report reason).1, (s.report reason).2.map fun _ => false)

theorem alike_fail (hL : L.Faithful) (h : Alike L s t) (reason : String) :
    EndAlike L (s.fail reason) (t.fail reason) := by
  rcases alike_report_of_faithful hL h reason with ⟨s', t', r, hs, ht, h'⟩
  exact ⟨s', t', r.map fun _ => false, by simp [fail, hs], by simp [fail, ht], h'⟩

theorem alike_spawn (m : Machine) (h : Alike L s t) (request : Request) :
    EndAlike L (s.spawn m request) (t.spawn m request) := by
  rcases h with ⟨counter, line, journal, rfl, hc, hj⟩
  -- Both sides have made the same requests, so the spawner gives them the same answer.
  have hanswer : m.spawner journal.requests request = m.spawner s.journal.requests request := by
    rw [L.requests_eq hj]
  refine ⟨(s.spawn m request).1,
    (s.spawn m request).1.beside counter line
      (journal.add (.ran request (m.spawner s.journal.requests request))), _, rfl, ?_,
    counter, line, _, rfl, hc, L.ran request _ hj⟩
  simp only [spawn, beside, hanswer]

/-- Two machines that serve sessions alike: they have the same files and the same home,
    and a program that is run on both ends alike. -/
structure ServeAlike (L : Likeness) (m m' : Machine) : Prop where
  files_eq : m'.files = m.files
  accountHome_eq : m'.accountHome = m.accountHome
  spawn {s t : Session} (request : Request) : Alike L s t →
    EndAlike L (s.spawn m request) (t.spawn m' request)

/-- A machine serves like itself, since the answers depend on the requests alone. -/
theorem serveAlike_self (L : Likeness) (m : Machine) : ServeAlike L m m :=
  ⟨rfl, rfl, fun request h => alike_spawn m h request⟩

end Session

/-! ### Builtins -/

namespace Builtin

open Session

variable {L : Likeness} {s t : Session}

theorem alike_runExit (args : List String) (h : Alike L s t) :
    EndAlike L (runExit args s) (runExit args t) := by
  have hleave : ∀ code : Int, Alike L { s with state.exitRequest := some code }
      { t with state.exitRequest := some code } := fun code =>
    alike_map h (fun u => { u with state.exitRequest := some code }) (fun _ _ _ _ => rfl)
      (fun _ => rfl) (fun _ => rfl)
  cases args with
  -- Without an argument the code is the status so far, and that is the same on both sides.
  | nil =>
      have hcode : ({ t with state.exitRequest := some t.state.status } : Session)
          = { t with state.exitRequest := some s.state.status } := by rw [h.status_eq]
      exact ⟨_, _, .ok s.state.status, rfl,
        Prod.ext hcode (congrArg Except.ok h.status_eq), hleave _⟩
  | cons word more =>
      unfold runExit
      dsimp only
      cases exitCode? word with
      | some code => exact ⟨_, _, _, rfl, rfl, hleave code⟩
      | none => exact ⟨s, t, _, rfl, rfl, h⟩

theorem alike_runListVariables (args : List String) (h : Alike L s t) :
    EndAlike L (runListVariables args s) (runListVariables args t) := by
  unfold runListVariables
  rw [h.environment_eq]
  by_cases hargs : args.isEmpty = true
  -- The texts are the same, so they are written alike.
  · rw [if_pos hargs, if_pos hargs]
    generalize s.state.environment.toList.map _ = texts
    rcases alike_printAll texts h with ⟨s', t', r, hs, ht, h'⟩
    rw [hs, ht]
    cases r <;> exact ⟨s', t', _, rfl, rfl, h'⟩
  · rw [if_neg hargs, if_neg hargs]
    exact ⟨s, t, _, rfl, rfl, h⟩

theorem alike_runSetVariable (args : List String) (h : Alike L s t) :
    EndAlike L (runSetVariable args s) (runSetVariable args t) := by
  unfold runSetVariable
  rw [h.environment_eq]
  split
  · rename_i name value
    -- The names are looked at in the same environment.
    cases s.state.environment.set name value with
    | ok env =>
        exact ⟨_, _, _, rfl, rfl, alike_map h (fun u => { u with state.environment := env })
          (fun _ _ _ _ => rfl) (fun _ => rfl) (fun _ => rfl)⟩
    | error e => exact ⟨s, t, _, rfl, rfl, h⟩
  · exact ⟨s, t, _, rfl, rfl, h⟩

theorem alike_runUnsetVariables (args : List String) (h : Alike L s t) :
    EndAlike L (runUnsetVariables args s) (runUnsetVariables args t) := by
  unfold runUnsetVariables
  rw [h.environment_eq]
  by_cases hargs : args.isEmpty = true
  · rw [if_pos hargs, if_pos hargs]
    exact ⟨s, t, _, rfl, rfl, h⟩
  · rw [if_neg hargs, if_neg hargs]
    exact ⟨_, _, _, rfl, rfl, alike_map h
      (fun u => { u with
        state.environment := args.foldl Environment.unset s.state.environment })
      (fun _ _ _ _ => rfl) (fun _ => rfl) (fun _ => rfl)⟩

theorem alike_runHelp (args : List String) (h : Alike L s t) :
    EndAlike L (runHelp args s) (runHelp args t) := by
  unfold runHelp
  cases helpText args with
  | error e => exact ⟨s, t, _, rfl, rfl, h⟩
  | ok text =>
      rcases alike_print h text with ⟨s', t', r, hs, ht, h'⟩
      simp only [hs, ht]
      cases r <;> exact ⟨s', t', _, rfl, rfl, h'⟩

theorem alike_runChangeDirectory (m : Machine) (args : List String) (h : Alike L s t) :
    EndAlike L (runChangeDirectory m args s) (runChangeDirectory m args t) := by
  unfold runChangeDirectory
  rw [h.environment_eq, h.directory_eq]
  cases target m s.state.environment args with
  | error e => exact ⟨s, t, _, rfl, rfl, h⟩
  | ok goal =>
      dsimp only
      cases m.files.enter s.directory goal.path with
      | error e => exact ⟨s, t, _, rfl, rfl, h⟩
      | ok directory =>
          dsimp only
          -- Both sides move to the same place and record it in the same variables.
          have hmoved := alike_map h
            (fun u => { u with
              directory := directory
              state.environment := recordMove s.state.environment
                ((m.files.currentPath? s.directory).or (s.state.environment.get? "PWD"))
                ((m.files.currentPath? directory).getD goal.path.shown) })
            (fun _ _ _ _ => rfl) (fun _ => rfl) (fun _ => rfl)
          cases goal.announced with
          | false => exact ⟨_, _, _, rfl, rfl, hmoved⟩
          | true =>
              rcases alike_print hmoved
                ((m.files.currentPath? directory).getD goal.path.shown ++ "\n") with
                ⟨s', t', r, hs, ht, h'⟩
              simp only [if_true, hs, ht]
              cases r <;> exact ⟨s', t', _, rfl, rfl, h'⟩

/-- A request is met alike whenever sessions are alike, except that its failure may be
    reported with another success. -/
def MeetsAlike {α : Type} (act : Session → α → Session × Except SystemError Bool) : Prop :=
  ∀ (L : Likeness) (s t : Session) (request : α), Alike L s t →
    EndAlike L (act s request) (act t request) ∨
      ∃ reason, act s request = s.fail reason ∧ act t request = t.fail reason

theorem meetsAlike_carryOut : MeetsAlike carryOut := by
  intro L s t request h
  -- What is asked for decides, and both sides have the same aliases.
  cases request with
  | define name value =>
      simp only [carryOut, h.aliases_eq]
      cases s.state.aliases.set name value with
      | ok aliases =>
          exact Or.inl ⟨_, _, _, rfl, rfl, alike_map h
            (fun u => { u with state.aliases := aliases })
            (fun _ _ _ _ => rfl) (fun _ => rfl) (fun _ => rfl)⟩
      -- A name that is refused is reported, and no alias changes.
      | error e => exact Or.inr ⟨e.message, rfl, rfl⟩
  | reveal name =>
      simp only [carryOut, h.aliases_eq]
      cases s.state.aliases.get? name with
      | some text =>
          rcases alike_print h (aliasLine name text) with ⟨s', t', r, hs, ht, h'⟩
          simp only [hs, ht]
          exact Or.inl ⟨s', t', _, rfl, rfl, h'⟩
      | none => exact Or.inr ⟨name ++ ": not found", rfl, rfl⟩

theorem meetsAlike_removeOne : MeetsAlike removeOne := by
  intro L s t name h
  simp only [removeOne, h.aliases_eq]
  cases s.state.aliases.get? name with
  | some text =>
      exact Or.inl ⟨_, _, _, rfl, rfl, alike_map h
        (fun u => { u with state.aliases := s.state.aliases.remove name })
        (fun _ _ _ _ => rfl) (fun _ => rfl) (fun _ => rfl)⟩
  | none => exact Or.inr ⟨name ++ ": not found", rfl, rfl⟩

variable {α : Type} {act : Session → α → Session × Except SystemError Bool}

/-- Where the same diagnostics arrive, a request is met alike. -/
theorem MeetsAlike.endAlike (hact : MeetsAlike act) (hL : L.Faithful) (request : α)
    (h : Alike L s t) : EndAlike L (act s request) (act t request) := by
  rcases hact L s t request h with hsame | ⟨reason, hs, ht⟩
  · exact hsame
  · rw [hs, ht]
    exact alike_fail hL h reason

theorem alike_inTurn (hL : L.Faithful) (hact : MeetsAlike act) (requests : List α) (status : Int)
    (h : Alike L s t) :
    EndAlike L (inTurn act s status requests) (inTurn act t status requests) := by
  induction requests generalizing s t status with
  | nil => exact ⟨s, t, .ok status, rfl, rfl, h⟩
  | cons request more ih =>
      rcases hact.endAlike hL request h with ⟨s', t', r, hs, ht, h'⟩
      simp only [inTurn, hs, ht]
      -- The request is met, it is answered with a complaint, or the call ends with it.
      cases r with
      | ok met =>
          cases met with
          | true => exact ih status h'
          | false => exact ih 1 h'
      | error e => exact ⟨s', t', _, rfl, rfl, h'⟩

theorem alike_listAliases (h : Alike L s t) :
    EndAlike L (runDefineAliases [] s) (runDefineAliases [] t) := by
  simp only [runDefineAliases, List.isEmpty_nil, if_true, h.aliases_eq]
  generalize s.state.aliases.toList.map _ = texts
  rcases alike_printAll texts h with ⟨s', t', r, hs, ht, h'⟩
  simp only [hs, ht]
  cases r <;> exact ⟨s', t', _, rfl, rfl, h'⟩

/-- Whether a call takes several requests, of which one can fail while the others are
    still to come. -/
def takesRequests : Builtin → List String → Bool
  | .defineAliases, args => !args.isEmpty
  | .removeAliases, args => !args.isEmpty
  | _, _ => false

/-- A builtin that does not ask whether its diagnostics arrive keeps sessions alike under
    every likeness. -/
theorem alike_execute_of_not_takesRequests (m : Machine) (b : Builtin) (args : List String)
    (hb : b.takesRequests args = false) (h : Alike L s t) :
    EndAlike L (b.execute m args s) (b.execute m args t) := by
  cases b with
  | exit => exact alike_runExit args h
  | changeDirectory => exact alike_runChangeDirectory m args h
  | listVariables => exact alike_runListVariables args h
  | setVariable => exact alike_runSetVariable args h
  | unsetVariables => exact alike_runUnsetVariables args h
  | help => exact alike_runHelp args h
  -- Without requests the aliases are listed, or nothing is done at all.
  | defineAliases =>
      have hargs : args = [] := by simpa [takesRequests] using hb
      rw [hargs]
      exact alike_listAliases h
  | removeAliases =>
      have hargs : args = [] := by simpa [takesRequests] using hb
      rw [hargs]
      exact ⟨s, t, _, rfl, rfl, h⟩

/-- A builtin keeps sessions alike. -/
theorem alike_execute (hL : L.Faithful) (m : Machine) (b : Builtin) (args : List String)
    (h : Alike L s t) : EndAlike L (b.execute m args s) (b.execute m args t) := by
  by_cases hb : b.takesRequests args = false
  · exact alike_execute_of_not_takesRequests m b args hb h
  -- With requests the two builtins for aliases go from one to the next.
  · cases b with
    | defineAliases =>
        have hargs : args.isEmpty = false := by simpa [takesRequests] using hb
        simp only [execute, runDefineAliases, hargs]
        exact alike_inTurn hL meetsAlike_carryOut _ 0 h
    | removeAliases =>
        have hargs : args.isEmpty = false := by simpa [takesRequests] using hb
        simp only [execute, runRemoveAliases, hargs]
        exact alike_inTurn hL meetsAlike_removeOne _ 0 h
    | _ => exact absurd rfl hb

/-- A builtin looks at the files of a machine and at the home there, and at nothing else
    of it. -/
theorem execute_of_files_eq {m m' : Machine} (hfiles : m'.files = m.files)
    (hhome : m'.accountHome = m.accountHome) (b : Builtin) (args : List String) (s : Session) :
    b.execute m' args s = b.execute m args s := by
  cases b with
  | changeDirectory => simp only [execute, runChangeDirectory, target, hfiles, hhome]
  | _ => rfl

/-- What holds of the builtin itself holds of its run, in which an error that it ends with
    is reported. -/
theorem alike_run_of_execute {m m' : Machine} {b : Builtin} {args : List String}
    (h : EndAlike L (b.execute m args s) (b.execute m' args t)) :
    EndAlike L (b.run m args s) (b.run m' args t) := by
  rcases h with ⟨s', t', r, hs, ht, h'⟩
  -- The status is that of the result, whether or not its report arrives.
  simp only [run, hs, ht]
  cases r with
  | ok status => exact ⟨s', t', status, rfl, rfl, h'⟩
  | error e => exact ⟨_, _, e.status, rfl, rfl, alike_complain h' e.message⟩

end Builtin

namespace Session

variable {L : Likeness} {s t : Session}

/-- A program keeps sessions alike, whether it is found and started or not. -/
theorem alike_runProgram_of {m m' : Machine} (hm : ServeAlike L m m') (h : Alike L s t) :
    EndAlike L (s.runProgram m) (t.runProgram m') := by
  unfold runProgram
  -- The search looks only at what both sides share, so it comes out the same.
  rw [hm.files_eq, h.environment_eq, h.directory_eq, h.leading_eq, h.tokens_eq]
  cases m.files.resolve s.directory s.state.environment s.state.leading with
  | error e => exact ⟨_, _, _, rfl, rfl, alike_complain h e.message⟩
  | ok program =>
      dsimp only
      rcases hm.spawn
        { program := program
          arguments := s.state.tokens
          environment := s.state.environment
          directory := s.directory } h with ⟨s', t', r, hs, ht, h'⟩
      rw [hs, ht]
      cases r with
      | error e => exact ⟨_, _, _, rfl, rfl, alike_complain h' e.message⟩
      | ok outcome =>
          dsimp only
          -- A line is begun on the standard error of both sides or of neither.
          rw [h'.monitor_eq]
          split
          · rcases h' with ⟨counter, line, journal, rfl, hc, hj⟩
            exact ⟨_, _, _, rfl, rfl, counter, line, _, rfl, hc, L.newline hj⟩
          · exact ⟨s', t', _, rfl, rfl, h'⟩

theorem alike_runProgram (m : Machine) (h : Alike L s t) :
    EndAlike L (s.runProgram m) (t.runProgram m) :=
  alike_runProgram_of (serveAlike_self L m) h

/-! ### Segments -/

/-- The session with the words of the last command forgotten. -/
def atRest (s : Session) : Session :=
  { s with
    state.leading := ""
    state.tokens := [] }

/-- Two sessions that are alike between commands. -/
def Aligned (L : Likeness) (s t : Session) : Prop :=
  Alike L s.atRest t.atRest

/-- The session in which the words of a command are at hand. -/
def ready (s : Session) (leading : String) (args : List String) : Session :=
  { s with
    state.leading := leading
    state.tokens := leading :: args }

/-- The session after a command, with its status. -/
def close (s : Session) (status : Int) : Session :=
  { s with
    state.status := status
    state.tokens := [] }

/-- A command is run: a builtin, or else a program. -/
def runCommand (m : Machine) (s : Session) (leading : String) (args : List String) :
    Session × Int :=
  match Builtin.ofName? leading with
  | some b => b.run m args (s.ready leading args)
  | none => (s.ready leading args).runProgram m

theorem runSegment_of_nil (m : Machine) (s : Session) {text : String}
    (h : s.state.expandWords (words text) = []) :
    s.runSegment m text = { s with state.tokens := [] } := by
  simp only [runSegment, h]

theorem runSegment_of_cons (m : Machine) (s : Session) {text leading : String}
    {args : List String} (h : s.state.expandWords (words text) = leading :: args) :
    s.runSegment m text
      = (s.runCommand m leading args).1.close (s.runCommand m leading args).2 := by
  unfold runSegment
  rw [h]
  rfl

/-- A segment is run: the session goes on, the segment is not blank, and its connector
    admits it. -/
structure Runs (s : Session) (x : Segment) : Prop where
  goesOn : s.state.exitRequest = none
  not_blank : x.isBlank = false
  admitted : x.connector.admits s.state.status = true

theorem step_of_runs (m : Machine) {s : Session} {x : Segment} (h : s.Runs x) :
    s.step m x = s.runSegment m x.text := by
  simp [step, h.goesOn, h.not_blank, h.admitted]

/-- A segment that is not run does nothing. -/
theorem step_of_not_runs (m : Machine) {s : Session} {x : Segment} (h : ¬ s.Runs x) :
    s.step m x = s := by
  unfold step
  -- A segment is passed over after an exit, if it is blank, or by its connector.
  split
  · rfl
  · rename_i hexit
    split
    · rfl
    · rename_i hblank
      split
      · rename_i hadmits
        exact absurd ⟨by simpa using hexit, by simpa using hblank, hadmits⟩ h
      · rfl

theorem Alike.aligned (h : Alike L s t) : Aligned L s t :=
  alike_map h atRest (fun _ _ _ _ => rfl) (fun _ => rfl) (fun _ => rfl)

theorem Aligned.status_eq (h : Aligned L s t) : t.state.status = s.state.status :=
  Alike.status_eq (s := s.atRest) (t := t.atRest) h

theorem Aligned.exitRequest_eq (h : Aligned L s t) : t.state.exitRequest = s.state.exitRequest :=
  Alike.exitRequest_eq (s := s.atRest) (t := t.atRest) h

/-- Sessions that are aligned have done the same. -/
theorem Aligned.sameConduct (h : Aligned L s t) : SameConduct s t := by
  have hrest : Alike L s.atRest t.atRest := h
  exact ⟨hrest.environment_eq, hrest.aliases_eq, hrest.directory_eq, hrest.status_eq,
    hrest.exitRequest_eq, L.output_eq hrest.journals, L.requests_eq hrest.journals⟩

/-- Sessions that begin the same line stay aligned, if their line numbers may both go
    up. -/
theorem Aligned.beginLine (h : Aligned L s t)
    (hcounters : L.counters s.state.counter t.state.counter →
      L.counters (s.state.counter + 1) (t.state.counter + 1)) (line : String) :
    Aligned L { s with state := s.state.beginLine line }
      { t with state := t.state.beginLine line } := by
  rcases h with ⟨counter, line', journal, ht, hc, hj⟩
  -- The first equation of states says more than is needed: the line and its number are replaced.
  have hcounter : t.state.counter = counter := congrArg (·.state.counter) ht
  refine ⟨t.state.counter + 1, line, journal, ?_, hcounters (hcounter ▸ hc), hj⟩
  simp only [atRest, beside, State.renumber, State.beginLine, Session.mk.injEq,
    State.mk.injEq, true_and] at ht ⊢
  exact ⟨⟨ht.1.1, ht.1.2.2.2⟩, ht.2⟩

theorem Aligned.ready (h : Aligned L s t) (leading : String) (args : List String) :
    Alike L (s.ready leading args) (t.ready leading args) :=
  alike_map h (·.ready leading args) (fun _ _ _ _ => rfl) (fun _ => rfl) (fun _ => rfl)

theorem Alike.close (h : Alike L s t) (status : Int) :
    Aligned L (s.close status) (t.close status) :=
  (alike_map h (·.close status) (fun _ _ _ _ => rfl) (fun _ => rfl) (fun _ => rfl)).aligned

/-- The words of a segment decide how the sessions go on. -/
theorem aligned_runSegment_of {m : Machine} {text text' : String} (h : Aligned L s t)
    (hwords : words text' = words text)
    (hcommand : ∀ leading args, s.state.expandWords (words text) = leading :: args →
      EndAlike L (s.runCommand m leading args) (t.runCommand m leading args)) :
    Aligned L (s.runSegment m text) (t.runSegment m text') := by
  have hexpand : t.state.expandWords (words text') = s.state.expandWords (words text) := by
    rw [hwords]
    exact Alike.expandWords_eq h (words text)
  cases hs : s.state.expandWords (words text) with
  -- Nothing is left of the words, so nothing is run.
  | nil =>
      rw [runSegment_of_nil m s hs, runSegment_of_nil m t (hexpand.trans hs)]
      exact h
  | cons leading args =>
      rw [runSegment_of_cons m s hs, runSegment_of_cons m t (hexpand.trans hs)]
      rcases hcommand leading args hs with ⟨s', t', r, hs', ht', h'⟩
      rw [hs', ht']
      exact h'.close r

theorem alike_runCommand_of (hL : L.Faithful) {m m' : Machine} (hm : ServeAlike L m m')
    (h : Aligned L s t) (leading : String) (args : List String) :
    EndAlike L (s.runCommand m leading args) (t.runCommand m' leading args) := by
  unfold runCommand
  -- A builtin sees the files and the account only, and a program what the machine answers.
  cases Builtin.ofName? leading with
  | some b =>
      refine Builtin.alike_run_of_execute ?_
      rw [Builtin.execute_of_files_eq hm.files_eq hm.accountHome_eq]
      exact Builtin.alike_execute hL m b args (h.ready leading args)
  | none => exact alike_runProgram_of hm (h.ready leading args)

theorem alike_runCommand (hL : L.Faithful) (m : Machine) (h : Aligned L s t) (leading : String)
    (args : List String) :
    EndAlike L (s.runCommand m leading args) (t.runCommand m leading args) :=
  alike_runCommand_of hL (serveAlike_self L m) h leading args

end Session

/-- Two segments that read as the same command after the same connector: they have the
    same words, and both are blank or neither is. -/
structure Line.Segment.SameCommand (x y : Segment) : Prop where
  connector_eq : y.connector = x.connector
  isBlank_eq : y.isBlank = x.isBlank
  words_eq : words y.text = words x.text

namespace Session

variable {L : Likeness} {s t : Session}

/-- Segments that read the same and are both run or both not keep sessions aligned. -/
theorem aligned_step_of_runs_iff (hL : L.Faithful) (m : Machine) (h : Aligned L s t)
    {x y : Segment} (hwords : words y.text = words x.text) (hruns : t.Runs y ↔ s.Runs x) :
    Aligned L (s.step m x) (t.step m y) := by
  by_cases hrun : s.Runs x
  · rw [step_of_runs m hrun, step_of_runs m (hruns.2 hrun)]
    exact aligned_runSegment_of h hwords fun leading args _ =>
      alike_runCommand hL m h leading args
  -- What is passed over on one side is passed over on the other.
  · rw [step_of_not_runs m hrun, step_of_not_runs m (fun hy => hrun (hruns.1 hy))]
    exact h

/-- Whether a segment is run is a matter of how it reads and of what aligned sessions have
    in common. -/
theorem Aligned.runs_iff (h : Aligned L s t) {x y : Segment} (hblank : y.isBlank = x.isBlank)
    (hadmits : y.connector.admits t.state.status = x.connector.admits s.state.status) :
    t.Runs y ↔ s.Runs x := by
  constructor
  · rintro ⟨hexit, hsolid, hadmitted⟩
    exact ⟨h.exitRequest_eq ▸ hexit, hblank ▸ hsolid, hadmits ▸ hadmitted⟩
  · rintro ⟨hexit, hsolid, hadmitted⟩
    exact ⟨h.exitRequest_eq.trans hexit, hblank.trans hsolid, hadmits.trans hadmitted⟩

theorem aligned_step (hL : L.Faithful) (m : Machine) (h : Aligned L s t) {x y : Segment}
    (hxy : x.SameCommand y) : Aligned L (s.step m x) (t.step m y) :=
  aligned_step_of_runs_iff hL m h hxy.words_eq
    (h.runs_iff hxy.isBlank_eq (by rw [hxy.connector_eq, h.status_eq]))

/-- Segments that read the same, run one after the other, keep sessions aligned. -/
theorem aligned_foldl_step (hL : L.Faithful) (m : Machine) {xs ys : List Segment}
    (hxs : List.Forall₂ Segment.SameCommand xs ys) (h : Aligned L s t) :
    Aligned L (xs.foldl (step m) s) (ys.foldl (step m) t) := by
  induction hxs generalizing s t with
  | nil => exact h
  | cons hxy _ ih => exact ih (aligned_step hL m h hxy)

/-! ### Lines

Sessions that are alike, and not just aligned, stay so. They may be on two
machines that serve them alike. -/

variable {m m' : Machine}

theorem alike_runSegment (hL : L.Faithful) (hm : ServeAlike L m m') (h : Alike L s t)
    {text text' : String} (hwords : words text' = words text) :
    Alike L (s.runSegment m text) (t.runSegment m' text') := by
  have hexpand : t.state.expandWords (words text') = s.state.expandWords (words text) := by
    rw [hwords]
    exact h.expandWords_eq (words text)
  cases hs : s.state.expandWords (words text) with
  -- Nothing is left of the words on either side.
  | nil =>
      rw [runSegment_of_nil m s hs, runSegment_of_nil m' t (hexpand.trans hs)]
      exact alike_map h (fun u => { u with state.tokens := [] }) (fun _ _ _ _ => rfl)
        (fun _ => rfl) (fun _ => rfl)
  -- The same words are left, so both run the same command.
  | cons leading args =>
      rw [runSegment_of_cons m s hs, runSegment_of_cons m' t (hexpand.trans hs)]
      rcases alike_runCommand_of hL hm h.aligned leading args with ⟨s', t', r, hs', ht', h'⟩
      rw [hs', ht']
      exact alike_map h' (·.close r) (fun _ _ _ _ => rfl) (fun _ => rfl) (fun _ => rfl)

theorem alike_step (hL : L.Faithful) (hm : ServeAlike L m m') (h : Alike L s t) {x y : Segment}
    (hxy : x.SameCommand y) : Alike L (s.step m x) (t.step m' y) := by
  have hruns : t.Runs y ↔ s.Runs x :=
    h.aligned.runs_iff hxy.isBlank_eq (by rw [hxy.connector_eq, h.status_eq])
  by_cases hrun : s.Runs x
  · rw [step_of_runs m hrun, step_of_runs m' (hruns.2 hrun)]
    exact alike_runSegment hL hm h hxy.words_eq
  · rw [step_of_not_runs m hrun, step_of_not_runs m' (fun hy => hrun (hruns.1 hy))]
    exact h

theorem alike_foldl_step (hL : L.Faithful) (hm : ServeAlike L m m') {xs ys : List Segment}
    (hxs : List.Forall₂ Segment.SameCommand xs ys) (h : Alike L s t) :
    Alike L (xs.foldl (step m) s) (ys.foldl (step m') t) := by
  induction hxs generalizing s t with
  | nil => exact h
  | cons hxy _ ih => exact ih (alike_step hL hm h hxy)

/-- Lines with segments that read the same keep sessions alike, if the line numbers may
    both go up. -/
theorem alike_evalLine (hL : L.Faithful) (hm : ServeAlike L m m')
    (hcounters : ∀ {c c' : Nat}, L.counters c c' → L.counters (c + 1) (c' + 1))
    {line line' : String}
    (hlines : List.Forall₂ Segment.SameCommand (segments line) (segments line'))
    (h : Alike L s t) : Alike L (s.evalLine m line) (t.evalLine m' line') := by
  refine alike_foldl_step hL hm hlines ?_
  rcases h with ⟨counter, _, journal, rfl, hc, hj⟩
  exact ⟨counter + 1, line', journal, rfl, hcounters hc, hj⟩

end Session

end CommandShell
