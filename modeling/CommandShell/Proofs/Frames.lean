import CommandShell.Proofs.Assignments
import CommandShell.Proofs.Ending

/-!
# What a Segment Leaves Alone

A segment may set a variable, define an alias, move the session or end it, but
which of these it can do is settled by the first word of its command. That word
is the one that stands in front after the variables have been put in and the
alias has been replaced. A segment that calls `alias` cannot touch a variable,
and a program can touch nothing at all: what is left of it in the state is its
status and its name.

Three things are settled even before. The name of the shell, its process and the
line with its number are those of the whole line. A segment that is not run
leaves the session as it finds it, and so does one of which no word is left. For
the latter it matters that no words are at hand when a segment gets its turn, as
a segment of which no word is left forgets the ones at hand.

## Main definitions

* `State.SameLine`: Two states within the same line.
* `Session.guarded`: What only some of the builtins can change.
* `Session.Turn.Confined`: What a turn can change, by the first word of its
  command.

## Theorems

* `Effects.state_eq`: What a builtin can change in the state.
* `sameLine_step`: A segment stays within its line.
* `mem_turnsOf`: The turns of a line, one for each of its segments.
* `Turn.head?_of_changed`: What has been called if something was changed.
* `confined_of_mem_turnsOf`: Each turn of a line is confined.
-/

namespace CommandShell

open Line

/-- Two states of the same shell within the same line. -/
structure State.SameLine (st st' : State) : Prop where
  programName_eq : st'.programName = st.programName
  pid_eq : st'.pid = st.pid
  line_eq : st'.line = st.line
  counter_eq : st'.counter = st.counter

theorem State.SameLine.refl (st : State) : SameLine st st :=
  ⟨rfl, rfl, rfl, rfl⟩

theorem State.SameLine.trans {st st' st'' : State} (h : SameLine st st') (h' : SameLine st' st'') :
    SameLine st st'' where
  programName_eq := h'.programName_eq.trans h.programName_eq
  pid_eq := h'.pid_eq.trans h.pid_eq
  line_eq := h'.line_eq.trans h.line_eq
  counter_eq := h'.counter_eq.trans h.counter_eq

namespace Builtin

variable {b : Builtin} {s t : Session}

theorem Effects.aliases_eq (h : Effects b s t)
    (hb : ¬ (b = .defineAliases ∨ b = .removeAliases)) : t.state.aliases = s.state.aliases := by
  refine h.view_eq (·.state.aliases) fun heffect => ?_
  cases heffect with
  | aliases aliases hchanges => exact absurd hchanges hb
  | _ => rfl

theorem Effects.directory_eq (h : Effects b s t) (hb : b ≠ .changeDirectory) :
    t.directory = s.directory := by
  refine h.view_eq (·.directory) fun heffect => ?_
  cases heffect with
  | directory directory hchanges => exact absurd hchanges hb
  | _ => rfl

/-- What a builtin can change in the state. -/
theorem Effects.state_eq (h : Effects b s t) :
    t.state = { s.state with
      environment := t.state.environment
      aliases := t.state.aliases
      exitRequest := t.state.exitRequest } := by
  have hrest : ({ t.state with
      environment := s.state.environment
      aliases := s.state.aliases
      exitRequest := s.state.exitRequest } : State) = s.state :=
    h.view_eq (fun u =>
      { u.state with
        environment := s.state.environment
        aliases := s.state.aliases
        exitRequest := s.state.exitRequest }) fun heffect => by cases heffect <;> rfl
  conv => rhs; rw [← hrest]

theorem Effects.sameLine (h : Effects b s t) : State.SameLine s.state t.state := by
  rw [h.state_eq]
  exact ⟨rfl, rfl, rfl, rfl⟩

end Builtin

namespace Session

variable {m : Machine} {s : Session}

/-! ### Within a line -/

theorem sameLine_runCommand (m : Machine) (s : Session) (leading : String) (args : List String) :
    State.SameLine s.state (s.runCommand m leading args).1.state := by
  -- A command sets its words before it is run, and neither the line nor the counter.
  have hready : State.SameLine s.state (s.ready leading args).state := ⟨rfl, rfl, rfl, rfl⟩
  unfold runCommand
  cases Builtin.ofName? leading with
  | some b => exact hready.trans (Builtin.run_effects m b args (s.ready leading args)).sameLine
  | none =>
      dsimp only
      rw [state_runProgram]
      exact hready

/-- A segment stays within its line. -/
theorem sameLine_step (m : Machine) (s : Session) (x : Segment) :
    State.SameLine s.state (s.step m x).state := by
  rcases Turn.after_cases ⟨m, s, x⟩ with ⟨_, tokens, hafter⟩ | ⟨leading, args, _, _, _, hafter⟩
  · rw [show s.step m x = _ from hafter]
    exact ⟨rfl, rfl, rfl, rfl⟩
  · rw [show s.step m x = _ from hafter]
    exact (sameLine_runCommand m s leading args).trans ⟨rfl, rfl, rfl, rfl⟩

/-- Where no words are at hand before a segment, none are behind it. -/
theorem tokens_step (m : Machine) (h : s.state.tokens = []) (x : Segment) :
    (s.step m x).state.tokens = [] := by
  -- The tokens are dropped behind a command, and nothing else sets them.
  by_cases hruns : s.Runs x
  · rw [step_of_runs m hruns]
    cases hwords : s.state.expandWords (words x.text) with
    | nil => rw [runSegment_of_nil m s hwords]
    | cons leading args =>
        rw [runSegment_of_cons m s hwords]
        rfl
  · rw [step_of_not_runs m hruns]
    exact h

/-- A segment of which no word is left changes nothing if no words are at hand. -/
theorem step_of_expandWords_nil (m : Machine) (htokens : s.state.tokens = []) {x : Segment}
    (hwords : s.state.expandWords (words x.text) = []) : s.step m x = s := by
  by_cases hruns : s.Runs x
  · rw [step_of_runs m hruns, runSegment_of_nil m s hwords, ← htokens]
  · exact step_of_not_runs m hruns

/-- The segments of a line begin without words at hand, and stay in the line. -/
theorem foldl_step_within (m : Machine) (xs : List Segment) (h : s.state.tokens = []) :
    State.SameLine s.state (xs.foldl (step m) s).state ∧
      (xs.foldl (step m) s).state.tokens = [] := by
  induction xs generalizing s with
  | nil => exact ⟨.refl s.state, h⟩
  | cons x more ih =>
      rcases ih (tokens_step m h x) with ⟨hline, htokens⟩
      exact ⟨(sameLine_step m s x).trans hline, htokens⟩

/-- The turns of a line, one for each of its segments, in the session that the segments
    before it have left. -/
theorem mem_turnsOf {line : String} {turn : Turn} (h : turn ∈ turnsOf m s line) :
    ∃ earlier later, segments line = earlier ++ turn.segment :: later ∧ turn.machine = m ∧
      turn.before = earlier.foldl (step m) { s with state := s.state.beginLine line } := by
  unfold turnsOf at h
  generalize ({ s with state := s.state.beginLine line } : Session) = begun at h ⊢
  generalize segments line = xs at h ⊢
  induction xs generalizing begun with
  | nil => cases h
  | cons x more ih =>
      -- Either the turn is the first one, or it is found behind it with that segment in
      -- front.
      rcases List.mem_cons.1 h with rfl | hmore
      · exact ⟨[], more, rfl, rfl, rfl⟩
      · rcases ih (begun.step m x) hmore with ⟨earlier, later, rfl, hmachine, hbefore⟩
        exact ⟨x :: earlier, later, rfl, hmachine, hbefore⟩

/-- Each turn of a line begins within the line, with no words at hand. -/
theorem within_of_mem_turnsOf {line : String} {turn : Turn} (h : turn ∈ turnsOf m s line) :
    State.SameLine (s.state.beginLine line) turn.before.state ∧ turn.before.state.tokens = [] := by
  rcases mem_turnsOf h with ⟨earlier, later, _, _, hbefore⟩
  rw [hbefore]
  exact foldl_step_within (s := { s with state := s.state.beginLine line }) m earlier rfl

/-- So does a line end. -/
theorem evalLine_within (m : Machine) (s : Session) (line : String) :
    State.SameLine (s.state.beginLine line) (s.evalLine m line).state ∧
      (s.evalLine m line).state.tokens = [] :=
  foldl_step_within (s := { s with state := s.state.beginLine line }) m (segments line) rfl

/-! ### Within a segment -/

/-- What is done in a turn: nothing but to forget the words at hand, or the effects of a
    builtin, or a program is run. -/
theorem Turn.command_cases (turn : Turn) :
    (turn.command = [] ∧ ∃ tokens, turn.after = { turn.before with state.tokens := tokens }) ∨
    (∃ (b : Builtin) (args : List String), turn.command = b.name :: args ∧
      turn.after = (b.run turn.machine args (turn.before.ready b.name args)).1.close
        (b.run turn.machine args (turn.before.ready b.name args)).2) ∨
    ∃ leading args, turn.command = leading :: args ∧ (∀ b : Builtin, b.name ≠ leading) ∧
      turn.after = ((turn.before.ready leading args).runProgram turn.machine).1.close
        ((turn.before.ready leading args).runProgram turn.machine).2 := by
  rcases turn.after_cases with hnone | ⟨leading, args, hcommand, _, _, hafter⟩
  · exact Or.inl hnone
  -- A name that is a builtin's is the builtin, and any other is looked up as a program.
  · cases hb : Builtin.ofName? leading with
    | some b =>
        obtain rfl := Builtin.name_of_ofName? hb
        simp only [runCommand, hb] at hafter
        exact Or.inr (Or.inl ⟨b, args, hcommand, hafter⟩)
    | none =>
        simp only [runCommand, hb] at hafter
        exact Or.inr (Or.inr ⟨leading, args, hcommand, Builtin.ofName?_eq_none_iff.1 hb, hafter⟩)

/-- The part of a session that only some of the builtins can change: the variables and the
    aliases, the request to exit and the directory. -/
def guarded (s : Session) : Environment × Aliases × Option Int × File.Location :=
  (s.state.environment, s.state.aliases, s.state.exitRequest, s.directory)

/-- If something of this is changed in a turn, a builtin that may change it has been
    called. -/
theorem Turn.head?_of_changed {α : Type} (turn : Turn)
    (view : Environment × Aliases × Option Int × File.Location → α) {may : Builtin → Prop}
    (hkept : ∀ {b : Builtin} {s t : Session}, Builtin.Effects b s t → ¬ may b →
      view t.guarded = view s.guarded)
    (hchanged : view turn.after.guarded ≠ view turn.before.guarded) :
    ∃ b : Builtin, may b ∧ turn.command.head? = some b.name := by
  rcases turn.command_cases with ⟨_, tokens, hafter⟩ | ⟨b, args, hcommand, hafter⟩ |
    ⟨leading, args, _, _, hafter⟩
  · rw [hafter] at hchanged
    exact absurd rfl hchanged
  · refine ⟨b, ?_, by rw [hcommand]; rfl⟩
    by_contra hnot
    have hsame := hkept (Builtin.run_effects turn.machine b args
      (turn.before.ready b.name args)) hnot
    -- To put the words at hand and to take over the status touches nothing of this.
    rw [hafter] at hchanged
    exact hchanged hsame
  · have hstate := state_runProgram turn.machine (turn.before.ready leading args)
    have hdirectory := directory_runProgram turn.machine (turn.before.ready leading args)
    have hsame : turn.after.guarded = turn.before.guarded := by
      rw [hafter]
      simp only [guarded, close, hstate, hdirectory]
      rfl
    exact absurd (congrArg view hsame) hchanged

/-- The shell hands nothing to the standard output when it runs a program. -/
theorem output_runProgram (m : Machine) (s : Session) :
    (s.runProgram m).1.journal.attempted .standardOutput
      = s.journal.attempted .standardOutput := by
  rw [runProgram_eq]
  exact (attempted_conclude m s (s.conclusion m) .standardOutput).trans (List.append_nil _)

/-- What a turn can change, by the first word of its command. -/
structure Turn.Confined (turn : Turn) : Prop where
  environment : turn.after.state.environment ≠ turn.before.state.environment →
    ∃ leading ∈ ["cd", "setenv", "unsetenv"], turn.command.head? = some leading
  aliases : turn.after.state.aliases ≠ turn.before.state.aliases →
    ∃ leading ∈ ["alias", "unalias"], turn.command.head? = some leading
  exitRequest : turn.after.state.exitRequest ≠ turn.before.state.exitRequest →
    turn.command.head? = some "exit"
  directory : turn.after.directory ≠ turn.before.directory → turn.command.head? = some "cd"
  sameLine : State.SameLine turn.before.state turn.after.state
  /-- A segment that is not run does nothing. -/
  skipped : turn.segment.isBlank = true ∨
    turn.segment.connector.admits turn.before.state.status = false ∨
    turn.before.state.exitRequest ≠ none → turn.after = turn.before
  /-- A segment of which no word is left does nothing. -/
  wordless : turn.before.state.expandWords (words turn.segment.text) = [] →
    turn.after = turn.before
  /-- A program, whatever becomes of it, leaves its status and its name, and the shell
      hands nothing to the standard output meanwhile. -/
  program : ∀ leading args, turn.command = leading :: args →
    (∀ b : Builtin, b.name ≠ leading) →
    turn.after.state = { turn.before.state with
      status := turn.after.state.status
      leading := leading } ∧
    turn.after.directory = turn.before.directory ∧
    turn.after.journal.attempted .standardOutput = turn.before.journal.attempted .standardOutput

theorem Turn.confined (turn : Turn) (htokens : turn.before.state.tokens = []) :
    turn.Confined where
  environment := by
    intro hchanged
    rcases turn.head?_of_changed (·.1) Builtin.Effects.environment_eq hchanged with
      ⟨b, rfl | rfl | rfl, hhead⟩
    all_goals exact ⟨_, by decide, hhead⟩
  aliases := by
    intro hchanged
    rcases turn.head?_of_changed (·.2.1) Builtin.Effects.aliases_eq hchanged with
      ⟨b, rfl | rfl, hhead⟩
    all_goals exact ⟨_, by decide, hhead⟩
  exitRequest := by
    intro hchanged
    rcases turn.head?_of_changed (·.2.2.1) Builtin.Effects.exitRequest_eq hchanged with
      ⟨b, rfl, hhead⟩
    exact hhead
  directory := by
    intro hchanged
    rcases turn.head?_of_changed (·.2.2.2) Builtin.Effects.directory_eq hchanged with
      ⟨b, rfl, hhead⟩
    exact hhead
  sameLine := sameLine_step turn.machine turn.before turn.segment
  skipped := by
    intro hskipped
    refine step_of_not_runs turn.machine fun hruns => ?_
    rcases hskipped with hblank | hrefused | hexit
    · exact Bool.false_ne_true (hruns.not_blank.symm.trans hblank)
    · exact Bool.false_ne_true (hrefused.symm.trans hruns.admitted)
    · exact hexit hruns.goesOn
  wordless := step_of_expandWords_nil turn.machine htokens
  program := by
    intro leading args hcommand hprogram
    rcases turn.command_cases with ⟨hnone, _⟩ | ⟨b, args', hbuiltin, _⟩ |
      ⟨leading', args', hcommand', _, hafter⟩
    · rw [hnone] at hcommand
      cases hcommand
    · rw [hbuiltin] at hcommand
      exact absurd (List.cons.inj hcommand).1 (hprogram b)
    · rw [hcommand'] at hcommand
      obtain ⟨rfl, rfl⟩ := List.cons.inj hcommand
      -- The program is run with its words at hand, which are forgotten behind it.
      have hstate := state_runProgram turn.machine (turn.before.ready leading' args')
      have hdirectory := directory_runProgram turn.machine (turn.before.ready leading' args')
      have houtput := output_runProgram turn.machine (turn.before.ready leading' args')
      rw [hafter]
      refine ⟨?_, hdirectory, houtput⟩
      generalize (turn.before.ready leading' args').runProgram turn.machine = ran at hstate ⊢
      change { ran.1.state with status := ran.2, tokens := [] } = _
      rw [hstate, ← htokens]
      rfl

/-- Each segment of a line is confined: by the first word of its command it is settled
    what it can change, and nothing else does change. -/
theorem confined_of_mem_turnsOf (m : Machine) (s : Session) (line : String) :
    (∀ turn ∈ turnsOf m s line, turn.Confined ∧
      State.SameLine (s.state.beginLine line) turn.before.state) ∧
    State.SameLine (s.state.beginLine line) (s.evalLine m line).state := by
  refine ⟨fun turn hturn => ?_, (evalLine_within m s line).1⟩
  rcases within_of_mem_turnsOf hturn with ⟨hline, htokens⟩
  exact ⟨turn.confined htokens, hline⟩

/-- The first word is an alias of `setenv`, so a variable may change. The program behind
    it is killed, and `cd` has to stay away. -/
theorem confined_of_mem_turnsOf_alias :
    let m : Machine :=
      { Machine.bare fun _ _ => .quiet (.ok (.signaled 9)) with
        files := .ofEntries [(["bin"], .directory), (["bin", "k"], .regular [] true)] }
    let s := (Session.fresh Environment.empty).evalLine m "alias put=setenv"
    let turns := turnsOf m s "put X 1 ; /bin/k x && cd /bin"
    ∃ turn ∈ turns, turn.command = ["setenv", "X", "1"] ∧
      turn.after.state.environment ≠ turn.before.state.environment ∧
      turn.Confined ∧ turns.length = 3 := by
  intro m s turns
  have hmem : turns.get ⟨0, by decide +kernel⟩ ∈ turns := List.get_mem turns _
  have hconfined := (confined_of_mem_turnsOf m s "put X 1 ; /bin/k x && cd /bin").1 _ hmem
  exact ⟨_, hmem, by decide +kernel, by decide +kernel, hconfined.1, by decide +kernel⟩

end Session

end CommandShell
