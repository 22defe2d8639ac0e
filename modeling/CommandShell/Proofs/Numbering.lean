import CommandShell.Proofs.Frames
import CommandShell.Proofs.Recovery

/-!
# The Numbers of Lines

Every line that is run has a number, one more than the line before it. It does
not matter who hands in the lines or what is in them: a blank line counts, and so
does one that fails or asks for the end.

Diagnostics are written in many places, in loops over arguments as well as by the
search for a program. What they have in common is the state they are taken from.
Within a line it has the same name of the shell and the same number throughout,
and from the moment at which the words of a command are known it has the first of
them, so the head of a diagnostic is settled before the command runs. The one
other text that a command brings to the standard error is an empty line, behind a
program that an interrupt has ended.

## Main definitions

* `Turn.complaints`: The texts that a turn hands to the standard error.
* `Turn.Interrupted`: The program of a turn has been ended by an interrupt.
* `Round.Numbered`: The line of a round has a number, and all complaints name it.

## Theorems

* `Effects.diagnostics`: What a builtin hands to the standard error.
* `Turn.complaints_after`: What a turn hands to it.
* `Passage.counter_eq`: A passage counts its rounds.
* `rounds_numbered`: The rounds of a history are numbered.
-/

namespace CommandShell

open Line Child

/-- What a builtin hands to the standard error: diagnostics of its own command. -/
theorem Builtin.Effects.diagnostics {b : Builtin} {s t : Session} (h : Effects b s t) :
    ∃ reasons : List String, t.journal.attempted .standardError
      = s.journal.attempted .standardError
        ++ reasons.map fun reason => s.state.diagnostic reason ++ "\n" := by
  induction h with
  | refl => exact ⟨[], (List.append_nil _).symm⟩
  | @tail u _ heffects heffect ih =>
      rcases ih with ⟨reasons, hreasons⟩
      cases heffect with
      | print text =>
          refine ⟨reasons, ?_⟩
          rw [← hreasons]
          exact (u.journal.attempted_write .standardOutput .standardError text).trans
            (List.append_nil _)
      | report reason =>
          -- Who complains, and in which line, no effect of a builtin changes.
          have hsame : u.state.diagnostic reason = s.state.diagnostic reason := by
            rw [Effects.state_eq heffects]
            rfl
          refine ⟨reasons ++ [reason], ?_⟩
          rw [List.map_append, ← List.append_assoc, ← hreasons, List.map_singleton, ← hsame]
          exact u.journal.attempted_write .standardError .standardError _
      | _ => exact ⟨reasons, hreasons⟩

namespace Session

variable {m : Machine} {s t : Session}

/-- The texts that a turn hands to the standard error. -/
def Turn.complaints (turn : Turn) : List String :=
  (turn.after.journal.attempted .standardError).drop
    (turn.before.journal.attempted .standardError).length

/-- The program of a turn has been ended by an interrupt, and the shell is one that takes
    note of interrupts. -/
structure Turn.Interrupted (turn : Turn) : Prop where
  installed : turn.before.monitor.installed = true
  signaled : ∃ request ∈ turn.requests,
    (turn.machine.spawner turn.before.journal.requests request).result
      = .ok (.signaled interruptSignal)

/-! ### Turns -/

/-- A program leaves one diagnostic at most, or else an empty line. -/
theorem complaints_runProgram (m : Machine) (s : Session) :
    ∃ texts, (s.runProgram m).1.journal.attempted .standardError
        = s.journal.attempted .standardError ++ texts ∧
      ∀ text ∈ texts, (∃ reason, text = s.state.diagnostic reason ++ "\n") ∨
        text = "\n" ∧ s.monitor.installed = true ∧ ∃ request ∈ (s.request? m).toList,
          (m.spawner s.journal.requests request).result = .ok (.signaled interruptSignal) := by
  refine ⟨(s.conclusion m).complaint.toList, ?_, fun text htext => ?_⟩
  · rw [runProgram_eq]
    exact attempted_conclude m s (s.conclusion m) .standardError
  · have hends := ends_conclusion m s
    generalize s.conclusion m = c at hends htext
    cases hends with
    | exited _ => cases htext
    | @signaled request signal hyields =>
        -- An interrupt has ended the program.
        split at htext
        · rename_i hended
          refine Or.inr ⟨List.mem_singleton.1 htext, hended.2, request, ?_, ?_⟩
          · exact Option.mem_toList.2 hyields.asked
          · rw [hyields.result_eq, hended.1]
            rfl
        · cases htext
    -- In all other cases it has not been run.
    | _ => exact Or.inl ⟨_, List.mem_singleton.1 htext⟩

/-- Whatever a turn hands to the standard error is a diagnostic of its own command, or the
    empty line behind a program that was interrupted. -/
theorem Turn.complaints_after (turn : Turn) :
    turn.after.journal.attempted .standardError
        = turn.before.journal.attempted .standardError ++ turn.complaints ∧
      ∀ text ∈ turn.complaints,
        (∃ leading args reason, turn.command = leading :: args ∧
          text = { turn.before.state with leading := leading }.diagnostic reason ++ "\n") ∨
        text = "\n" ∧ turn.Interrupted := by
  -- It is enough to see what is added at the end of the journal.
  have hmade : ∀ made, turn.after.journal.attempted .standardError
      = turn.before.journal.attempted .standardError ++ made → turn.complaints = made := by
    intro made h
    rw [Turn.complaints, h, List.drop_left]
  rcases turn.command_cases with ⟨_, tokens, hafter⟩ | ⟨b, args, hcommand, hafter⟩ |
    ⟨leading, args, hcommand, _, hafter⟩
  · have hnone := hmade [] (by rw [hafter, List.append_nil])
    rw [hnone, hafter]
    simp
  · have heffects := Builtin.run_effects turn.machine b args (turn.before.ready b.name args)
    rcases heffects.diagnostics with ⟨reasons, hreasons⟩
    have hadded : turn.after.journal.attempted .standardError
        = turn.before.journal.attempted .standardError
          ++ reasons.map fun reason =>
            (turn.before.ready b.name args).state.diagnostic reason ++ "\n" := by
      rw [hafter]
      exact hreasons
    rw [hmade _ hadded]
    refine ⟨hadded, fun text htext => ?_⟩
    rcases List.mem_map.1 htext with ⟨reason, _, rfl⟩
    exact Or.inl ⟨b.name, args, reason, hcommand, rfl⟩
  · rcases complaints_runProgram turn.machine (turn.before.ready leading args) with
      ⟨texts, htexts, hkinds⟩
    have hadded : turn.after.journal.attempted .standardError
        = turn.before.journal.attempted .standardError ++ texts := by
      rw [hafter]
      exact htexts
    rw [hmade _ hadded]
    refine ⟨hadded, fun text htext => ?_⟩
    rcases hkinds text htext with ⟨reason, rfl⟩ | ⟨hempty, hinstalled, request, hrequest, hended⟩
    · exact Or.inl ⟨leading, args, reason, hcommand, rfl⟩
    · have hrequests : turn.requests
          = ((turn.before.ready leading args).request? turn.machine).toList := by
        have hasked := requests_runProgram turn.machine (turn.before.ready leading args)
        rw [Turn.requests, hafter]
        exact (congrArg (List.drop _) hasked).trans List.drop_left
      exact Or.inr ⟨hempty, hinstalled, request, hrequests ▸ hrequest, hended⟩

/-! ### Rounds -/

/-- The line of a round has a number, and all complaints about it name the shell, the
    number and the command at work. -/
structure Round.Numbered (round : Round) (programName : String) (number : Nat) : Prop where
  counter : round.after.state.counter = number
  tokens : round.after.state.tokens = []
  line : round.after.state.line = round.line
  /-- Only the turns of a line hand something to the standard error. -/
  complaints : round.after.journal.attempted .standardError
    = round.before.journal.attempted .standardError ++ round.turns.flatMap Turn.complaints
  diagnostics : ∀ turn ∈ round.turns, ∀ text ∈ turn.complaints,
    (∃ leading args reason, turn.command = leading :: args ∧
      text = programName ++ ": " ++ toString number ++ ": " ++ leading ++ ": " ++ reason
        ++ "\n") ∨
    text = "\n" ∧ turn.Interrupted

theorem complaints_foldl_step (m : Machine) (s : Session) (xs : List Segment) :
    (xs.foldl (step m) s).journal.attempted .standardError
      = s.journal.attempted .standardError ++ (turnsFrom m s xs).flatMap Turn.complaints := by
  induction xs generalizing s with
  | nil => exact (List.append_nil _).symm
  | cons x more ih =>
      have hturn := (Turn.complaints_after ⟨m, s, x⟩).1
      rw [turnsFrom, List.flatMap_cons, ← List.append_assoc, ← hturn]
      exact ih (s.step m x)

theorem Round.numbered (round : Round) :
    round.Numbered round.before.state.programName (round.before.state.counter + 1) := by
  rcases evalLine_within round.machine round.before round.line with ⟨hwithin, htokens⟩
  -- What is said about the state holds of the line as a whole, the rest of each of its turns.
  refine ⟨hwithin.counter_eq, htokens, hwithin.line_eq,
    complaints_foldl_step round.machine _ (segments round.line), ?_⟩
  intro turn hturn text htext
  have hbegun := (within_of_mem_turnsOf hturn).1
  rcases turn.complaints_after.2 text htext with ⟨leading, args, reason, hcommand, rfl⟩ | hempty
  · refine Or.inl ⟨leading, args, reason, hcommand, ?_⟩
    rw [State.diagnostic, hbegun.programName_eq, hbegun.counter_eq]
    rfl
  · exact Or.inr hempty

/-! ### Histories -/

variable {machines : Machine → Prop} {rounds : List Round}

/-- A passage counts its rounds, and nothing else is counted. -/
theorem Passage.counter_eq (h : Passage machines s rounds t) :
    t.state.programName = s.state.programName ∧
      t.state.counter = s.state.counter + rounds.length := by
  induction h with
  | start => exact ⟨rfl, rfl⟩
  | @line rounds t m hm text _ ih =>
      have hwithin := (evalLine_within m t text).1
      refine ⟨hwithin.programName_eq.trans ih.1, ?_⟩
      rw [hwithin.counter_eq, List.length_append, ← Nat.add_assoc, ← ih.2]
      rfl
  | write stream text _ ih => exact ih
  | watch monitor _ ih => exact ih

/-- In every history the lines are numbered one by one, from the number at the start on,
    and each complaint about a line names its number. -/
theorem rounds_numbered (s : Session) (history : History) :
    Passage (fun _ => True) s (s.roundsDuring history) (s.after history) ∧
      (s.after history).state.counter = s.state.counter + (s.roundsDuring history).length ∧
      ∀ earlier round later, s.roundsDuring history = earlier ++ round :: later →
        round.Numbered s.state.programName (s.state.counter + (earlier.length + 1)) := by
  have hpassage : Passage (fun _ => True) s (s.roundsDuring history) (s.after history) :=
    passage_after s history fun _ _ => trivial
  refine ⟨hpassage, hpassage.counter_eq.2, fun earlier round later hrounds => ?_⟩
  rcases (hpassage.before hrounds).counter_eq with ⟨hname, hcounter⟩
  have hnumbered := round.numbered
  rw [hname, hcounter] at hnumbered
  exact hnumbered

/-- The startup file has an alias and a blank line, and a comment is the first line that a
    shell reads. In the fourth line a program and then a builtin complain, each under the
    name that the alias stands for or that was typed. -/
theorem rounds_numbered_fourth :
    let m : Machine :=
      { Machine.bare fun _ _ => .quiet (.ok (.exited 0)) with
        files := .ofEntries [(["rc"], .regular (Text.encode "alias q=nope\n\n") false)] }
    let s := fresh Environment.empty
    let typed : Input.Source := .feed ⟨[Text.encode "# none\nq 1 && q || unalias r q\n"], none⟩
    let rounds := s.roundsDuring
      [(m, .startup ⟨some (.text "/rc"), true⟩), (m, .shell typed "")]
    ∃ earlier round later, rounds = earlier ++ round :: later ∧ earlier.length = 3 ∧
      round.Numbered "sh" 4 ∧
      round.turns.flatMap Turn.complaints
        = ["sh: 4: nope: not found\n", "sh: 4: unalias: r: not found\n"] := by
  intro m s typed rounds
  have hsplit : rounds
      = rounds.take 3 ++ rounds.get ⟨3, by decide +kernel⟩ :: rounds.drop 4 := by
    have hfourth : 3 < rounds.length := by decide +kernel
    conv => lhs; rw [← List.take_append_drop 3 rounds, List.drop_eq_getElem_cons hfourth]
    rfl
  have hnumbered := (rounds_numbered s
    [(m, .startup ⟨some (.text "/rc"), true⟩), (m, .shell typed "")]).2.2 _ _ _ hsplit
  have hearlier : (rounds.take 3).length = 3 := by decide +kernel
  rw [hearlier] at hnumbered
  exact ⟨_, _, _, hsplit, hearlier, hnumbered, by decide +kernel⟩

end Session

end CommandShell
