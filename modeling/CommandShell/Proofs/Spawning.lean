import CommandShell.Proofs.Assignments

/-!
# Which Programs Are Asked For

A program is asked for in one place only, at the end of a turn whose command is
no builtin. By then the words have been through the variables, the empty ones
have been dropped, and an alias may have put the words of its text in front. A
text that is blank puts nothing there, and the words behind it move up. None of
this brings an empty word back, so what is handed over always has a name in
front.

The request takes its environment from the session as the segment finds it.
What earlier segments have assigned is in it, whether they belong to the same
line or not, and what later ones assign is not.

## Main definitions

* `Turn.requests`: The programs asked for in a turn.
* `Turn.Disciplined`: A request is what the turn calls for.

## Theorems

* `ne_empty_of_mem_expandWords`: No word of a command is empty.
* `Turn.requests_after`: A turn asks for one program at most, and as it should.
* `invariant_requests`: Programs are asked for in turns and nowhere else.
* `requests_disciplined`: So it is in every history.
-/

namespace CommandShell

open Line Child

theorem Aliases.ne_empty_of_mem_substitute {aliases : Aliases} {given : List String}
    (hgiven : "" ∉ given) : "" ∉ aliases.substitute given := by
  cases given with
  | nil => exact hgiven
  | cons first rest =>
      have hrest : "" ∉ rest := fun h => hgiven (List.mem_cons_of_mem first h)
      simp only [substitute]
      cases aliases.get? first with
      | none => exact hgiven
      | some text =>
          -- The words of the alias are as solid as those that were typed.
          intro h
          rcases List.mem_append.1 h with h | h
          · exact ne_empty_of_mem_words h rfl
          · exact hrest h

theorem State.ne_empty_of_mem_expandWords (st : State) (raw : List String) :
    "" ∉ st.expandWords raw := by
  refine Aliases.ne_empty_of_mem_substitute fun h => ?_
  simpa using List.of_mem_filter h

namespace Session

/-- The programs that are asked for in a turn. -/
def Turn.requests (turn : Turn) : List Request :=
  turn.after.journal.requests.drop turn.before.journal.requests.length

/-- A request is the one that a turn calls for: its arguments are the words of the
    command, of which none is empty and the first is no builtin, its program is what the
    first word leads to, and its environment is that of the moment. -/
structure Turn.Disciplined (turn : Turn) (r : Request) : Prop where
  arguments_eq : r.arguments = turn.before.state.expandWords (words turn.segment.text)
  solid : "" ∉ r.arguments
  head_eq : r.arguments.head? = some turn.after.state.leading
  not_builtin : ∀ b : Builtin, b.name ≠ turn.after.state.leading
  resolved : turn.machine.files.resolve turn.before.directory turn.before.state.environment
    turn.after.state.leading = .ok r.program
  executable : turn.machine.files.isExecutable turn.before.directory r.program = true
  environment_eq : r.environment = turn.before.state.environment
  directory_eq : r.directory = turn.before.directory

theorem requests_runCommand_of_builtin (m : Machine) (s : Session) {leading : String}
    (args : List String) {b : Builtin} (hb : Builtin.ofName? leading = some b) :
    (s.runCommand m leading args).1.journal.requests = s.journal.requests := by
  simp only [runCommand, hb]
  exact (Builtin.run_effects m b args (s.ready leading args)).requests_eq

theorem requests_runCommand_of_program (m : Machine) (s : Session) {leading : String}
    (args : List String) (hb : Builtin.ofName? leading = none) :
    (s.runCommand m leading args).1.journal.requests
      = s.journal.requests ++ ((s.ready leading args).request? m).toList := by
  simp only [runCommand, hb]
  exact requests_runProgram m (s.ready leading args)

theorem leading_runCommand_of_program (m : Machine) (s : Session) {leading : String}
    (args : List String) (hb : Builtin.ofName? leading = none) :
    (s.runCommand m leading args).1.state.leading = leading := by
  simp only [runCommand, hb]
  rw [state_runProgram]
  rfl

/-- What is asked for when a program is found. -/
theorem eq_of_mem_request? {m : Machine} {s : Session} {r : Request}
    (h : r ∈ (s.request? m).toList) :
    m.files.resolve s.directory s.state.environment s.state.leading = .ok r.program ∧
      r = ⟨r.program, s.state.tokens, s.state.environment, s.directory⟩ := by
  unfold request? at h
  cases hresolve : m.files.resolve s.directory s.state.environment s.state.leading with
  | error e =>
      rw [hresolve] at h
      simp at h
  | ok program =>
      rw [hresolve] at h
      have hr : r = ⟨program, s.state.tokens, s.state.environment, s.directory⟩ := by
        simpa using h
      rw [hr]
      exact ⟨rfl, rfl⟩

/-- A turn asks for one program at most, and every request is the one that it calls
    for. -/
theorem Turn.requests_after (turn : Turn) :
    turn.after.journal.requests = turn.before.journal.requests ++ turn.requests ∧
      turn.requests.length ≤ 1 ∧ ∀ r ∈ turn.requests, turn.Disciplined r := by
  -- It is enough to see what is added at the end of the journal.
  have hmade : ∀ made, turn.after.journal.requests = turn.before.journal.requests ++ made →
      turn.requests = made := by
    intro made h
    rw [Turn.requests, h, List.drop_left]
  rcases turn.after_cases with ⟨_, tokens, hafter⟩ | ⟨leading, args, _, _, hwords, hafter⟩
  · have hnone := hmade [] (by rw [hafter, List.append_nil])
    rw [hnone, hafter]
    simp
  · cases hb : Builtin.ofName? leading with
    | some b =>
        have hsame : turn.after.journal.requests = turn.before.journal.requests := by
          rw [hafter]
          exact requests_runCommand_of_builtin turn.machine turn.before args hb
        rw [hmade [] (by rw [hsame, List.append_nil]), hsame]
        simp
    | none =>
        have hnew : turn.after.journal.requests = turn.before.journal.requests ++
            ((turn.before.ready leading args).request? turn.machine).toList := by
          rw [hafter]
          exact requests_runCommand_of_program turn.machine turn.before args hb
        have hleading : turn.after.state.leading = leading := by
          rw [hafter]
          exact leading_runCommand_of_program turn.machine turn.before args hb
        rw [hmade _ hnew]
        refine ⟨hnew, Option.length_toList_le, fun r hr => ?_⟩
        rcases eq_of_mem_request? hr with ⟨hresolve, hrequest⟩
        have harguments : r.arguments = leading :: args := congrArg Request.arguments hrequest
        have hsolid := turn.before.state.ne_empty_of_mem_expandWords (words turn.segment.text)
        refine ⟨harguments.trans hwords.symm, ?_, ?_, ?_, ?_, ?_, ?_, ?_⟩
        · rwa [harguments, ← hwords]
        · rw [harguments, hleading]
          rfl
        · rw [hleading]
          exact Builtin.ofName?_eq_none_iff.1 hb
        · rw [hleading]
          exact hresolve
        · exact File.Tree.isExecutable_of_resolve hresolve
        · exact congrArg Request.environment hrequest
        · exact congrArg Request.directory hrequest

variable {machines : Machine → Prop} {s : Session}

/-- Programs are asked for in turns and nowhere else. -/
theorem invariant_requests : Invariant machines s fun turns t =>
    t.journal.requests = s.journal.requests ++ turns.flatMap Turn.requests where
  start := by simp
  begin := fun _ _ _ ih => ih
  turn := by
    intro turns turn _ ih
    rw [turn.requests_after.1, ih, List.flatMap_append, List.flatMap_singleton,
      List.append_assoc]
  write := fun _ t stream text ih => (requests_write t stream text).trans ih
  watch := fun _ _ _ ih => ih

/-- In every history programs are asked for in the turns of segments, one at most in each,
    and every request is the one that its turn calls for. Its environment is the one at
    the start with what the turns before have assigned. -/
theorem requests_disciplined (s : Session) (history : History) :
    Course (· ∈ history.map Prod.fst) s (s.turnsDuring history) (s.after history) ∧
      (s.after history).journal.requests
        = s.journal.requests ++ (s.turnsDuring history).flatMap Turn.requests ∧
      ∀ earlier turn later, s.turnsDuring history = earlier ++ turn :: later →
        turn.requests.length ≤ 1 ∧
        turn.before.state.environment
          = s.state.environment.assignAll (earlier.flatMap Turn.assignments) ∧
        ∀ r ∈ turn.requests, turn.Disciplined r := by
  have hcourse : Course (· ∈ history.map Prod.fst) s (s.turnsDuring history) (s.after history) :=
    course_after s history fun e he => List.mem_map_of_mem he
  refine ⟨hcourse, hcourse.invariant invariant_requests, ?_⟩
  intro earlier turn later hturns
  have hrequests := turn.requests_after
  have henvironment := hcourse.invariant_before invariant_environment hturns
  exact ⟨hrequests.2.1, henvironment.2, hrequests.2.2⟩

end Session

end CommandShell
