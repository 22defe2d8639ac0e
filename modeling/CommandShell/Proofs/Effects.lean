import CommandShell.Session.Evaluation
import Mathlib.Logic.Relation

/-!
# What Commands Do to a Session

A command does a few simple things to a session, one after the other: it
writes a text, changes the variables or the aliases, moves to another
directory, asks for the end. Each builtin is confined to some of these. What
none of them does, such as taking note of an interrupt, no builtin does.

A command that is a program does less: it asks for the program, if there is one,
and says one thing at most. What it asks for and what it says is its conclusion.

A program that runs is the only thing besides the reader that has to do with
interrupts. The shell forgets what arrived meanwhile, since it was meant for
the program, so nothing is ever left pending behind a line if nothing was
before it.

## Main definitions

* `Builtin.Effect`: One of the things that a builtin may do.
* `Session.request?`: What the shell asks for when the command is a program.
* `Session.conclusion`: What becomes of a command that is a program.
* `Session.conclude`: The session behind it.

## Theorems

* `execute_effects`: What a builtin does is made of its effects.
* `Effects.view_eq`: What no effect of a builtin changes, it leaves as it was.
* `Effects.eq_of_aliases`: What the builtins for aliases leave alone.
* `runProgram_eq`: A command that is a program comes to its conclusion.
* `requests_runProgram`: A program that is found is asked for once.
* `status_runProgram`: The status that a program leaves.
* `monitor_run`: A builtin has nothing to do with interrupts.
* `monitor_evalLine`, `monitor_evalLines`: A line leaves the monitor as it was, or
  as a program leaves it, and so do several.
-/

namespace CommandShell

open Relation

/-- One of the things that a builtin may do to a session. -/
inductive Builtin.Effect (b : Builtin) : Session → Session → Prop
  | print (s : Session) (text : String) : Effect b s (s.print text).1
  /-- A diagnostic goes to the standard error, and no other text does. -/
  | report (s : Session) (reason : String) : Effect b s (s.report reason).1
  | environment (s : Session) (env : Environment)
      (h : b = .changeDirectory ∨ b = .setVariable ∨ b = .unsetVariables) :
      Effect b s { s with state.environment := env }
  | aliases (s : Session) (aliases : Aliases) (h : b = .defineAliases ∨ b = .removeAliases) :
      Effect b s { s with state.aliases := aliases }
  | directory (s : Session) (directory : File.Location) (h : b = .changeDirectory) :
      Effect b s { s with directory := directory }
  | exitRequest (s : Session) (code : Int) (h : b = .exit) :
      Effect b s { s with state.exitRequest := some code }

namespace Builtin

/-- What a builtin may do in all. -/
abbrev Effects (b : Builtin) : Session → Session → Prop :=
  ReflTransGen (Effect b)

variable {b : Builtin} {s t : Session}

theorem effects_print (h : Effects b s t) (text : String) : Effects b s (t.print text).1 :=
  h.tail (.print t text)

theorem effects_report (h : Effects b s t) (reason : String) : Effects b s (t.report reason).1 :=
  h.tail (.report t reason)

theorem effects_printAll (texts : List String) (h : Effects b s t) :
    Effects b s (t.printAll texts).1 := by
  induction texts generalizing t with
  | nil => exact h
  | cons text more ih =>
      have hprinted := effects_print h text
      unfold Session.printAll
      split
      -- The text was written, and the rest is written after it.
      · rename_i t' heq
        rw [heq] at hprinted
        exact ih hprinted
      -- It was refused, and no more is tried.
      · rename_i t' e heq
        rw [heq] at hprinted
        exact hprinted

theorem effects_inTurn {α : Type} {act : Session → α → Session × Except SystemError Bool}
    (hact : ∀ t request, Effects b t (act t request).1) (requests : List α) (status : Int)
    (h : Effects b s t) : Effects b s (inTurn act t status requests).1 := by
  induction requests generalizing t status with
  | nil => exact h
  | cons request more ih =>
      -- Whatever becomes of the request, the session behind it was reached by effects.
      have hacted := h.trans (hact t request)
      unfold inTurn
      split
      · rename_i t' heq
        rw [heq] at hacted
        exact ih status hacted
      · rename_i t' heq
        rw [heq] at hacted
        exact ih 1 hacted
      · rename_i t' e heq
        rw [heq] at hacted
        exact hacted

theorem effects_carryOut (t : Session) (request : Alias.Argument) :
    Effects .defineAliases t (carryOut t request).1 := by
  cases request with
  | define name value =>
      simp only [carryOut]
      -- What the store refuses is reported, and the store stays as it is.
      cases t.state.aliases.set name value with
      | ok aliases => exact ReflTransGen.single (.aliases t aliases (Or.inl rfl))
      | error e => exact effects_report ReflTransGen.refl e.message
  | reveal name =>
      simp only [carryOut]
      cases t.state.aliases.get? name with
      | some text => exact effects_print ReflTransGen.refl _
      | none => exact effects_report ReflTransGen.refl _

theorem effects_removeOne (t : Session) (name : String) :
    Effects .removeAliases t (removeOne t name).1 := by
  unfold removeOne
  cases t.state.aliases.get? name with
  | some text => exact ReflTransGen.single (.aliases t _ (Or.inr rfl))
  | none => exact effects_report ReflTransGen.refl _

theorem effects_runChangeDirectory (m : Machine) (args : List String) (s : Session) :
    Effects .changeDirectory s (runChangeDirectory m args s).1 := by
  unfold runChangeDirectory
  cases target m s.state.environment args with
  | error e => exact ReflTransGen.refl
  | ok goal =>
      dsimp only
      cases m.files.enter s.directory goal.path with
      | error e => exact ReflTransGen.refl
      | ok directory =>
          dsimp only
          -- The directory is entered, and then the move is recorded.
          have hmoved := (ReflTransGen.single (Effect.directory s directory rfl)).tail
            (Effect.environment { s with directory := directory }
              (recordMove s.state.environment
                ((m.files.currentPath? s.directory).or (s.state.environment.get? "PWD"))
                ((m.files.currentPath? directory).getD goal.path.shown)) (Or.inl rfl))
          split
          · have hprinted := effects_print hmoved
              ((m.files.currentPath? directory).getD goal.path.shown ++ "\n")
            split
            · rename_i heq
              rw [heq] at hprinted
              exact hprinted
            · rename_i heq
              rw [heq] at hprinted
              exact hprinted
          · exact hmoved

/-- What a builtin does is made of its effects. -/
theorem execute_effects (m : Machine) (b : Builtin) (args : List String) (s : Session) :
    Effects b s (b.execute m args s).1 := by
  cases b with
  | exit =>
      simp only [execute, runExit]
      split
      · exact ReflTransGen.single (.exitRequest s _ rfl)
      · split
        · exact ReflTransGen.single (.exitRequest s _ rfl)
        · exact ReflTransGen.refl
  | changeDirectory => exact effects_runChangeDirectory m args s
  | listVariables =>
      simp only [execute, runListVariables]
      split
      -- What is printed does not matter, only that nothing else is done.
      · generalize s.state.environment.toList.map _ = texts
        have hprinted := effects_printAll (b := .listVariables) texts (ReflTransGen.refl (a := s))
        split <;> rename_i heq <;> rw [heq] at hprinted <;> exact hprinted
      · exact ReflTransGen.refl
  | setVariable =>
      simp only [execute, runSetVariable]
      split
      · split
        · exact ReflTransGen.single (.environment s _ (Or.inr (Or.inl rfl)))
        · exact ReflTransGen.refl
      · exact ReflTransGen.refl
  | unsetVariables =>
      simp only [execute, runUnsetVariables]
      split
      · exact ReflTransGen.refl
      · exact ReflTransGen.single (.environment s _ (Or.inr (Or.inr rfl)))
  | help =>
      simp only [execute, runHelp]
      split
      · exact ReflTransGen.refl
      · rename_i text _
        have hprinted := effects_print (b := .help) (ReflTransGen.refl (a := s)) text
        split <;> rename_i heq <;> rw [heq] at hprinted <;> exact hprinted
  | defineAliases =>
      simp only [execute, runDefineAliases]
      split
      · generalize s.state.aliases.toList.map _ = texts
        have hprinted := effects_printAll (b := .defineAliases) texts (ReflTransGen.refl (a := s))
        split <;> rename_i heq <;> rw [heq] at hprinted <;> exact hprinted
      · exact effects_inTurn effects_carryOut _ 0 ReflTransGen.refl
  | removeAliases =>
      simp only [execute, runRemoveAliases]
      split
      · exact ReflTransGen.refl
      · exact effects_inTurn effects_removeOne _ 0 ReflTransGen.refl

/-- Of the two builtins that take requests, none does more than change aliases and
    write. -/
theorem Effects.eq_of_aliases (hb : b = .defineAliases ∨ b = .removeAliases)
    (h : Effects b s t) :
    t = { s with
      state.aliases := t.state.aliases
      journal := t.journal } := by
  induction h with
  | refl => rfl
  | @tail u _ _ heffect ih =>
      cases heffect with
      -- A text goes into the journal and nowhere else.
      | print text => exact congrArg (fun v => { v with journal := (u.print text).1.journal }) ih
      | report reason =>
          exact congrArg (fun v => { v with journal := (u.report reason).1.journal }) ih
      | aliases aliases _ =>
          conv => lhs; rw [ih]
      -- The other effects belong to other builtins.
      | environment env hchanges => rcases hb with rfl | rfl <;> simp at hchanges
      | directory directory hchanges => rcases hb with rfl | rfl <;> simp at hchanges
      | exitRequest code hchanges => rcases hb with rfl | rfl <;> simp at hchanges

/-- What none of a builtin's effects changes, the builtin leaves as it was. -/
theorem Effects.view_eq {α : Type} (h : Effects b s t) (view : Session → α)
    (hkept : ∀ {u v : Session}, Effect b u v → view v = view u) : view t = view s := by
  induction h with
  | refl => rfl
  | tail _ heffect ih => exact (hkept heffect).trans ih

theorem Effects.requests_eq (h : Effects b s t) : t.journal.requests = s.journal.requests := by
  refine h.view_eq (·.journal.requests) fun heffect => ?_
  cases heffect with
  | print text => exact Journal.requests_write _ .standardOutput text
  | report reason => exact Journal.requests_write _ .standardError _
  | _ => rfl

/-- A builtin does its effects, and reports the error that it ends with. -/
theorem run_effects (m : Machine) (b : Builtin) (args : List String) (s : Session) :
    Effects b s (b.run m args s).1 := by
  have hdone := execute_effects m b args s
  unfold run
  split
  · rename_i heq
    rw [heq] at hdone
    exact hdone
  -- The error with which the builtin ended is reported after all that it did.
  · rename_i heq
    rw [heq] at hdone
    exact effects_report hdone _

/-- A builtin has nothing to do with interrupts. -/
theorem monitor_run (m : Machine) (b : Builtin) (args : List String) (s : Session) :
    (b.run m args s).1.monitor = s.monitor :=
  (run_effects m b args s).view_eq (·.monitor) fun heffect => by cases heffect <;> rfl

end Builtin

/-! ### Interrupts -/

/-- An interrupt that arrives while a program runs is forgotten behind it. -/
theorem Interrupt.Monitor.leave_raise (w : Interrupt.Monitor) : w.raise.leave = w.leave := by
  unfold raise
  split <;> rfl

/-- A monitor that is left twice is as if it was left once. -/
theorem Interrupt.Monitor.left_trans {w w' w'' : Interrupt.Monitor}
    (h : w' = w ∨ w' = w.leave) (h' : w'' = w' ∨ w'' = w'.leave) : w'' = w ∨ w'' = w.leave := by
  rcases h with rfl | rfl
  · exact h'
  · rcases h' with rfl | rfl
    · exact Or.inr rfl
    · exact Or.inr rfl

/-! ### Programs -/

namespace Session

open Child

/-- What the shell asks for when the command is a program, if there is such a program. -/
def request? (m : Machine) (s : Session) : Option Request :=
  match m.files.resolve s.directory s.state.environment s.state.leading with
  | .error _ => none
  | .ok program => some
      { program := program
        arguments := s.state.tokens
        environment := s.state.environment
        directory := s.directory }

/-- What becomes of a command that is a program. -/
structure Conclusion where
  /-- The program that is asked for, if one is found. -/
  request : Option Request
  /-- The text for the standard error, if there is one. -/
  complaint : Option String
  status : Int
deriving DecidableEq

/-- What becomes of the command at hand. -/
def conclusion (m : Machine) (s : Session) : Conclusion :=
  let complaint := fun reason => some (s.state.diagnostic reason ++ "\n")
  match m.files.resolve s.directory s.state.environment s.state.leading with
  | .error e => ⟨none, complaint e.message, e.status⟩
  | .ok program =>
      let request : Request :=
        { program := program
          arguments := s.state.tokens
          environment := s.state.environment
          directory := s.directory }
      match (m.spawner s.journal.requests request).result with
      | .error e => ⟨some request, complaint e.message, e.status⟩
      | .ok outcome =>
          ⟨some request,
            if outcome = .signaled interruptSignal && s.monitor.installed then some "\n" else none,
            outcome.status⟩

/-- The session behind it: the program is run if there is one, and the text is written if
    there is one. -/
def conclude (m : Machine) (s : Session) (c : Conclusion) : Session :=
  let asked := match c.request with
    | none => s
    | some request => (s.spawn m request).1
  match c.complaint with
  | none => asked
  | some text => (asked.write .standardError text).1

theorem requests_write (s : Session) (stream : Stream) (text : String) :
    (s.write stream text).1.journal.requests = s.journal.requests :=
  s.journal.requests_write stream text

/-- A program leaves the shell idle, with no interrupt noted. -/
theorem monitor_spawn (m : Machine) (s : Session) (request : Request) :
    (s.spawn m request).1.monitor = s.monitor.leave := by
  simp only [spawn]
  split
  · exact Interrupt.Monitor.leave_raise s.monitor.enter
  · rfl

/-- A command that is a program comes to its conclusion. -/
theorem runProgram_eq (m : Machine) (s : Session) :
    s.runProgram m = (s.conclude m (s.conclusion m), (s.conclusion m).status) := by
  unfold runProgram conclusion
  cases m.files.resolve s.directory s.state.environment s.state.leading with
  -- No program is found, so nothing is spawned and there is only a complaint.
  | error e => rfl
  | ok program =>
      dsimp only
      generalize Request.mk program s.state.tokens s.state.environment s.directory = request
      -- Spawning does not change whether the monitor is installed, which decides on the
      -- complaint.
      have hinstalled : (s.spawn m request).1.monitor.installed = s.monitor.installed := by
        rw [monitor_spawn]
        rfl
      have hresult : (s.spawn m request).2 = (m.spawner s.journal.requests request).result := rfl
      rw [hinstalled, hresult]
      cases (m.spawner s.journal.requests request).result with
      | error e => rfl
      | ok outcome =>
          dsimp only
          split <;> rfl

theorem request_conclusion (m : Machine) (s : Session) :
    (s.conclusion m).request = s.request? m := by
  unfold conclusion request?
  cases m.files.resolve s.directory s.state.environment s.state.leading with
  | error e => rfl
  | ok program =>
      dsimp only
      split <;> rfl

theorem state_conclude (m : Machine) (s : Session) (c : Conclusion) :
    (s.conclude m c).state = s.state := by
  rcases c with ⟨_ | _, _ | _, _⟩ <;> rfl

theorem directory_conclude (m : Machine) (s : Session) (c : Conclusion) :
    (s.conclude m c).directory = s.directory := by
  rcases c with ⟨_ | _, _ | _, _⟩ <;> rfl

theorem monitor_conclude (m : Machine) (s : Session) (c : Conclusion) :
    (s.conclude m c).monitor = if c.request.isSome then s.monitor.leave else s.monitor := by
  rcases c with ⟨_ | request, _ | _, _⟩
  · rfl
  · rfl
  · exact monitor_spawn m s request
  · exact monitor_spawn m s request

theorem requests_conclude (m : Machine) (s : Session) (c : Conclusion) :
    (s.conclude m c).journal.requests = s.journal.requests ++ c.request.toList := by
  have hspawn : ∀ request,
      (s.spawn m request).1.journal.requests = s.journal.requests ++ [request] := fun request =>
    s.journal.requests_add_ran request _
  rcases c with ⟨_ | request, _ | text, _⟩
  · exact (List.append_nil _).symm
  · exact (requests_write s .standardError text).trans (List.append_nil _).symm
  · exact hspawn request
  · exact (requests_write _ .standardError text).trans (hspawn request)

/-- What the shell itself hands to a stream meanwhile. -/
theorem attempted_conclude (m : Machine) (s : Session) (c : Conclusion) (stream : Stream) :
    (s.conclude m c).journal.attempted stream
      = s.journal.attempted stream
        ++ if stream = .standardError then c.complaint.toList else [] := by
  have hspawn : ∀ request,
      (s.spawn m request).1.journal.attempted stream = s.journal.attempted stream := fun request =>
    s.journal.attempted_add_ran request _ stream
  have hwrite : ∀ (u : Session) (text : String),
      (u.write .standardError text).1.journal.attempted stream
        = u.journal.attempted stream ++ if stream = .standardError then [text] else [] := by
    intro u text
    refine (u.journal.attempted_write .standardError stream text).trans ?_
    simp only [eq_comm]
  -- The four cases: a child or none, and a complaint or none.
  rcases c with ⟨_ | request, _ | text, _⟩
  · simp [conclude]
  · exact hwrite s text
  · simp [conclude, hspawn]
  · rw [← hspawn request]
    exact hwrite (s.spawn m request).1 text

/-- A program that is found is asked for once. -/
theorem requests_runProgram (m : Machine) (s : Session) :
    (s.runProgram m).1.journal.requests = s.journal.requests ++ (s.request? m).toList := by
  rw [runProgram_eq, ← request_conclusion]
  exact requests_conclude m s (s.conclusion m)

theorem state_runProgram (m : Machine) (s : Session) : (s.runProgram m).1.state = s.state := by
  rw [runProgram_eq]
  exact state_conclude m s (s.conclusion m)

theorem directory_runProgram (m : Machine) (s : Session) :
    (s.runProgram m).1.directory = s.directory := by
  rw [runProgram_eq]
  exact directory_conclude m s (s.conclusion m)

/-- The status that a program leaves, or the failure to run it. -/
def statusOf : Except Failure Outcome → Int
  | .error e => e.status
  | .ok outcome => outcome.status

theorem status_runProgram (m : Machine) (s : Session) :
    (s.runProgram m).2 =
      match m.files.resolve s.directory s.state.environment s.state.leading with
      | .error e => e.status
      | .ok program => statusOf (m.spawner s.journal.requests
          { program := program
            arguments := s.state.tokens
            environment := s.state.environment
            directory := s.directory }).result := by
  rw [runProgram_eq]
  unfold conclusion
  cases m.files.resolve s.directory s.state.environment s.state.leading with
  | error e => rfl
  | ok program =>
      dsimp only
      split <;> rename_i hresult <;> rw [hresult] <;> rfl

/-- A program leaves the monitor as it was, or with nothing pending. -/
theorem monitor_runProgram (m : Machine) (s : Session) :
    (s.runProgram m).1.monitor = s.monitor ∨ (s.runProgram m).1.monitor = s.monitor.leave := by
  rw [runProgram_eq]
  simp only [monitor_conclude]
  split
  · exact Or.inr rfl
  · exact Or.inl rfl

/-! ### Segments and lines -/

theorem monitor_runSegment (m : Machine) (s : Session) (text : String) :
    (s.runSegment m text).monitor = s.monitor ∨
      (s.runSegment m text).monitor = s.monitor.leave := by
  unfold runSegment
  split
  · exact Or.inl rfl
  · rename_i leading args _
    dsimp only
    -- A builtin leaves the monitor alone; the line can reach it through a program only.
    cases Builtin.ofName? leading with
    | some b => exact Or.inl (Builtin.monitor_run m b args _)
    | none => exact monitor_runProgram m _

theorem monitor_step (m : Machine) (s : Session) (segment : Line.Segment) :
    (s.step m segment).monitor = s.monitor ∨ (s.step m segment).monitor = s.monitor.leave := by
  unfold step
  split
  · exact Or.inl rfl
  · split
    · exact Or.inl rfl
    · split
      · exact monitor_runSegment m s segment.text
      · exact Or.inl rfl

/-- A line leaves the monitor as it was, or as a program leaves it. -/
theorem monitor_evalLine (m : Machine) (s : Session) (line : String) :
    (s.evalLine m line).monitor = s.monitor ∨ (s.evalLine m line).monitor = s.monitor.leave := by
  unfold evalLine
  have hsteps : ∀ (segments : List Line.Segment) (t : Session),
      (segments.foldl (step m) t).monitor = t.monitor ∨
        (segments.foldl (step m) t).monitor = t.monitor.leave := by
    intro segments
    -- The induction is on the segments: clearing the flag again makes no difference.
    induction segments with
    | nil => exact fun t => Or.inl rfl
    | cons segment more ih =>
        intro t
        exact Interrupt.Monitor.left_trans (monitor_step m t segment) (ih (t.step m segment))
  exact hsteps (Line.segments line) { s with state := s.state.beginLine line }

/-- So do lines one after the other. -/
theorem monitor_evalLines (m : Machine) (s : Session) (lines : List String) :
    (s.evalLines m lines).monitor = s.monitor ∨
      (s.evalLines m lines).monitor = s.monitor.leave := by
  induction lines generalizing s with
  | nil => exact Or.inl rfl
  | cons line more ih =>
      unfold evalLines
      split
      · exact Or.inl rfl
      · exact Interrupt.Monitor.left_trans (monitor_evalLine m s line) (ih (s.evalLine m line))

/-- Where nothing was pending before a line, nothing is behind it. -/
theorem pending_evalLine (m : Machine) {s : Session} (h : s.monitor.pending = false)
    (line : String) : (s.evalLine m line).monitor.pending = false := by
  rcases monitor_evalLine m s line with hsame | hleft
  · rw [hsame, h]
  · rw [hleft]
    rfl

end Session

end CommandShell
