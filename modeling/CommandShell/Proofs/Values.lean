import CommandShell.Proofs.Effects
import CommandShell.Proofs.Likeness
import CommandShell.Proofs.WordGrammar

/-!
# Values Are Not Read Again

The value of a variable may hold blanks, operators, a `#`, a `$` or the name of
an alias. Once it has been put in the place of `$NAME` it is text of an
argument and nothing else. So a line that starts programs does the same with
one value as with another: the same segments run, the same programs are
started, and their arguments differ only where a word refers to the variable.

The line must not let the value decide what a command is. The first word of a
segment may not refer to the variable, and it has to come out as the name of a
program: not empty, no builtin and no alias. This is asked in the state in
which the segment is reached and not in the one in which the line begins, since
`$?` is a fine first word and changes on the way.

## Main definitions

* `Line.References`: A word refers to a variable.
* `Parameters.ApartAt`, `Session.ApartAt`: Parameters and sessions that differ in
  the value of one variable.
* `Parameters.solid`: The words that are not empty when values are put in.
* `Request.SameCall`: Two requests that stem from the same words.
* `Session.StartsProgram`: The first word of a segment names a program.
* `Session.StartsPrograms`: So does each segment of a line when it is reached.
* `Session.RunTogether`: The same segments run in two sessions.

## Theorems

* `expand_eq`: A word that does not refer to the variable stays the same.
* `expand_variable`: A variable alone in a word is its value.
* `sameCall_request?`: Two programs that are started alike.
* `evalLine_apart`: A line does the same with one value as with another.
-/

namespace CommandShell

namespace Line

open Text

/-- A word refers to a variable. -/
def References (name word : String) : Prop :=
  .variable name.toList ∈ pieces word.toList

instance (name word : String) : Decidable (References name word) :=
  inferInstanceAs (Decidable (_ ∈ _))

namespace Parameters

/-- Parameters that differ in the value of one variable. -/
structure ApartAt (name value value' : String) (p q : Parameters) : Prop where
  status_eq : q.status = p.status
  pid_eq : q.pid = p.pid
  value_left : p.value? name = some value
  value_right : q.value? name = some value'
  value_other : ∀ other, other ≠ name → q.value? other = p.value? other

variable {name value value' word : String} {p q : Parameters}

/-- A word that does not refer to the variable stays the same. -/
theorem ApartAt.expand_eq (h : ApartAt name value value' p q) (hword : ¬ References name word) :
    q.expand word = p.expand word := by
  refine expand_congr h.status_eq h.pid_eq fun other hmem => h.value_other _ fun heq => hword ?_
  rwa [References, ← heq, String.toList_ofList]

/-- A word that refers to a variable is not empty unless the value is. -/
theorem expand_ne_empty (hvalue : p.value? name = some value) (hne : value ≠ "")
    (hword : References name word) : p.expand word ≠ "" := by
  rcases List.append_of_mem hword with ⟨before, after, hpieces⟩
  have hpiece : p.valueOf (.variable name.toList) = value := by
    rw [valueOf, String.ofList_toList, hvalue, Option.getD_some]
  -- The value is one of the texts that the word is joined from.
  unfold expand
  rw [hpieces]
  simp [hpiece, hne]

/-- A reference alone in a word stands for the value, or for nothing if there is none. -/
theorem expand_reference (p : Parameters) (hname : name ≠ "")
    (hchars : name.toList.all isNameChar = true) :
    p.expand ("$" ++ name) = (p.value? name).getD "" := by
  have hread := Reads.named (by simpa [String.toList_eq_nil_iff] using hname)
    (List.all_eq_true.1 hchars) (by simp) Reads.ended
  have hpieces : pieces ("$" ++ name).toList = [.variable name.toList] := by
    simpa using hread.eq_pieces.symm
  rw [expand, hpieces]
  simp [valueOf]

/-- A variable alone in a word is its value. -/
theorem expand_variable (hname : name ≠ "") (hchars : name.toList.all isNameChar = true)
    (hvalue : p.value? name = some value) : p.expand ("$" ++ name) = value := by
  rw [p.expand_reference hname hchars, hvalue, Option.getD_some]

/-- The words that are not empty when their values are put in. -/
def solid (p : Parameters) (raw : List String) : List String :=
  raw.filter fun word => p.expand word ≠ ""

/-- The same words are dropped because they are empty. -/
theorem ApartAt.solid_eq (h : ApartAt name value value' p q) (hvalue : value ≠ "")
    (hvalue' : value' ≠ "") (raw : List String) : q.solid raw = p.solid raw := by
  -- A word without the name expands alike, and one with the name to something in either case.
  have hempty : ∀ word, q.expand word = "" ↔ p.expand word = "" := by
    intro word
    by_cases hword : References name word
    · have hp := expand_ne_empty h.value_left hvalue hword
      have hq := expand_ne_empty h.value_right hvalue' hword
      exact ⟨fun heq => absurd heq hq, fun heq => absurd heq hp⟩
    · rw [h.expand_eq hword]
  unfold solid
  congr 1
  funext word
  simp only [ne_eq, hempty]

end Parameters

end Line

open Line Child

/-- The answers to requests depend on the programs alone, as far as their outcome goes. -/
def Child.Spawner.ByProgram (spawner : Spawner) : Prop :=
  ∀ made made' request request', request.program = request'.program →
    (spawner made request).result = (spawner made' request').result

/-- Two requests for one program that stem from the same words. The arguments are the
    words that are not empty, one for one, with the one value put in and with the
    other. -/
structure Child.Request.SameCall (name value value' : String) (raw : List String)
    (r r' : Request) : Prop where
  program_eq : r'.program = r.program
  arguments : ∃ p q : Parameters, p.ApartAt name value value' q ∧
    r.arguments = (p.solid raw).map p.expand ∧ r'.arguments = (p.solid raw).map q.expand ∧
    ∀ word ∈ p.solid raw, (¬ References name word → q.expand word = p.expand word) ∧
      (word = "$" ++ name → p.expand word = value ∧ q.expand word = value')

/-- If the first word that is left is no alias, the words of a command are what its words
    stand for. -/
theorem State.expandWords_of_not_alias (st : State) {raw args : List String} {leading : String}
    (h : (st.parameters.solid raw).map st.parameters.expand = leading :: args)
    (halias : st.aliases.get? leading = none) :
    st.expandWords raw = leading :: args := by
  have hwords : (raw.map st.parameters.expand).filter (· ≠ "") = leading :: args := by
    rw [List.filter_map, ← h]
    rfl
  rw [expandWords, hwords]
  simp [Aliases.substitute, halias]

namespace Session

/-- Two sessions that differ in the value of one variable, and otherwise at most in what
    no command looks at. -/
structure ApartAt (name value value' : String) (s t : Session) : Prop where
  parameters : s.state.parameters.ApartAt name value value' t.state.parameters
  aliases_eq : t.state.aliases = s.state.aliases
  directory_eq : t.directory = s.directory
  exitRequest_eq : t.state.exitRequest = s.state.exitRequest

/-- The first word of a segment names a program, without a look at the variable. -/
def StartsProgram (name : String) (s : Session) (x : Segment) : Prop :=
  ∃ word more, words x.text = word :: more ∧ ¬ References name word ∧
    s.state.parameters.expand word ≠ "" ∧
    Builtin.ofName? (s.state.parameters.expand word) = none ∧
    s.state.aliases.get? (s.state.parameters.expand word) = none

/-- Each segment that is not blank names a program when it is reached. -/
def StartsPrograms (m : Machine) (name : String) (s : Session) : List Segment → Prop
  | [] => True
  | x :: more =>
      (x.isBlank = false → s.StartsProgram name x) ∧ StartsPrograms m name (s.step m x) more

/-- The same segments run in two sessions. -/
def RunTogether (m : Machine) (s t : Session) : List Segment → Prop
  | [] => True
  | x :: more => (s.Runs x ↔ t.Runs x) ∧ RunTogether m (s.step m x) (t.step m x) more

variable {name value value' : String} {s t : Session} {x : Segment}

theorem ApartAt.status_eq (h : ApartAt name value value' s t) :
    t.state.status = s.state.status :=
  h.parameters.status_eq

theorem ApartAt.runs_iff (h : ApartAt name value value' s t) (x : Segment) :
    s.Runs x ↔ t.Runs x := by
  constructor
  · rintro ⟨hexit, hblank, hadmits⟩
    exact ⟨h.exitRequest_eq.trans hexit, hblank, h.status_eq ▸ hadmits⟩
  · rintro ⟨hexit, hblank, hadmits⟩
    exact ⟨h.exitRequest_eq ▸ hexit, hblank, h.status_eq ▸ hadmits⟩

/-- The search for a program looks at no variable but `PATH`. -/
theorem ApartAt.resolve_eq (h : ApartAt name value value' s t) (hpath : name ≠ "PATH")
    (m : Machine) (leading : String) :
    m.files.resolve t.directory t.state.environment leading
      = m.files.resolve s.directory s.state.environment leading := by
  have hsame : t.state.environment.get? "PATH" = s.state.environment.get? "PATH" :=
    h.parameters.value_other "PATH" (Ne.symm hpath)
  unfold File.Tree.resolve
  rw [h.directory_eq, hsame]

/-- The words of a segment in two sessions: those that are not empty are the same, and
    each stands for what it stands for. -/
theorem ApartAt.expandWords (h : ApartAt name value value' s t) (hvalue : value ≠ "")
    (hvalue' : value' ≠ "") (hx : s.StartsProgram name x) :
    ∃ leading kept, s.state.parameters.solid (words x.text) = leading :: kept ∧
      Builtin.ofName? (s.state.parameters.expand leading) = none ∧
      t.state.parameters.expand leading = s.state.parameters.expand leading ∧
      s.state.expandWords (words x.text) = (leading :: kept).map s.state.parameters.expand ∧
      t.state.expandWords (words x.text) = (leading :: kept).map t.state.parameters.expand := by
  rcases hx with ⟨leading, more, hwords, hplain, hne, hbuiltin, halias⟩
  have hsame := h.parameters.expand_eq hplain
  -- The first word is not dropped, so it comes first among those that are left.
  have hkept : s.state.parameters.solid (words x.text)
      = leading :: s.state.parameters.solid more := by
    rw [hwords, Parameters.solid, List.filter_cons_of_pos (by simpa using hne)]
    rfl
  refine ⟨leading, s.state.parameters.solid more, hkept, hbuiltin, hsame, ?_, ?_⟩
  · exact s.state.expandWords_of_not_alias (congrArg (List.map _) hkept) halias
  · refine t.state.expandWords_of_not_alias ?_ ?_
    · rw [h.parameters.solid_eq hvalue hvalue', hkept, List.map_cons]
    · rw [h.aliases_eq, hsame]
      exact halias

/-- Two programs that are started alike: both are found or neither, and the same is asked
    for. -/
theorem sameCall_request? (m : Machine) (hname : name ≠ "")
    (hchars : name.toList.all Text.isNameChar = true) (hpath : name ≠ "PATH")
    (h : ApartAt name value value' s t) {raw args args' : List String} {leading : String}
    (hs : leading :: args = (s.state.parameters.solid raw).map s.state.parameters.expand)
    (ht : leading :: args' = (s.state.parameters.solid raw).map t.state.parameters.expand) :
    List.Forall₂ (Request.SameCall name value value' raw)
      ((s.ready leading args).request? m).toList ((t.ready leading args').request? m).toList := by
  have hresolve := h.resolve_eq hpath m leading
  simp only [request?, ready]
  rw [hresolve]
  -- Program and directory do not depend on the value, so one spawns just when the other does.
  cases m.files.resolve s.directory s.state.environment leading with
  | error e => exact List.Forall₂.nil
  | ok program =>
      refine List.Forall₂.cons ⟨rfl, s.state.parameters, t.state.parameters, h.parameters, hs, ht,
        fun word _ => ⟨h.parameters.expand_eq, ?_⟩⟩ List.Forall₂.nil
      rintro rfl
      exact ⟨Parameters.expand_variable hname hchars h.parameters.value_left,
        Parameters.expand_variable hname hchars h.parameters.value_right⟩

/-- Two programs that are started alike end with the same status. -/
theorem ApartAt.status_runProgram_eq (h : ApartAt name value value' s t) {m : Machine}
    (hspawner : m.spawner.ByProgram) (hpath : name ≠ "PATH") (leading : String)
    (args args' : List String) :
    ((t.ready leading args').runProgram m).2 = ((s.ready leading args).runProgram m).2 := by
  have hresolve := h.resolve_eq hpath m leading
  rw [status_runProgram, status_runProgram]
  simp only [ready]
  rw [hresolve]
  cases m.files.resolve s.directory s.state.environment leading with
  | error e => rfl
  -- The children are different ones, but they are runs of the same program.
  | ok program => exact congrArg statusOf (hspawner _ _ _ _ rfl)

/-- A program keeps sessions apart in nothing but the value. -/
theorem ApartAt.runProgram (h : ApartAt name value value' s t) {m : Machine}
    (hspawner : m.spawner.ByProgram) (hpath : name ≠ "PATH") (leading : String)
    (args args' : List String) :
    ApartAt name value value'
      (((s.ready leading args).runProgram m).1.close
        ((s.ready leading args).runProgram m).2)
      (((t.ready leading args').runProgram m).1.close
        ((t.ready leading args').runProgram m).2) := by
  have hstatus := h.status_runProgram_eq hspawner hpath leading args args'
  have hs := state_runProgram m (s.ready leading args)
  have ht := state_runProgram m (t.ready leading args')
  refine ⟨⟨hstatus, ?_, ?_, ?_, ?_⟩, ?_, ?_, ?_⟩
  · simp only [close, State.parameters, hs, ht]
    exact h.parameters.pid_eq
  · simp only [close, State.parameters, hs]
    exact h.parameters.value_left
  · simp only [close, State.parameters, ht]
    exact h.parameters.value_right
  · simp only [close, State.parameters, hs, ht]
    exact h.parameters.value_other
  · simp only [close, hs, ht]
    exact h.aliases_eq
  · simp only [close, directory_runProgram]
    exact h.directory_eq
  · simp only [close, hs, ht]
    exact h.exitRequest_eq

/-- What is known about a line that is run with the one value and with the other. -/
structure RunsApart (name value value' : String) (s t s' t' : Session)
    (related : Request → Request → Prop) : Prop where
  apart : ApartAt name value value' s' t'
  calls : ∃ calls calls', s'.journal.requests = s.journal.requests ++ calls ∧
    t'.journal.requests = t.journal.requests ++ calls' ∧ List.Forall₂ related calls calls'

/-- A segment that names a program does the same with the one value as with the other. -/
theorem ApartAt.step (h : ApartAt name value value' s t) {m : Machine}
    (hspawner : m.spawner.ByProgram) (hname : name ≠ "")
    (hchars : name.toList.all Text.isNameChar = true) (hpath : name ≠ "PATH")
    (hvalue : value ≠ "") (hvalue' : value' ≠ "")
    (hx : x.isBlank = false → s.StartsProgram name x) :
    RunsApart name value value' s t (s.step m x) (t.step m x)
      (Request.SameCall name value value' (words x.text)) := by
  by_cases hruns : s.Runs x
  · rcases h.expandWords hvalue hvalue' (hx hruns.not_blank) with
      ⟨leading, kept, hkept, hbuiltin, hsame, hs, ht⟩
    rw [List.map_cons] at hs ht
    rw [hsame] at ht
    rw [step_of_runs m hruns, step_of_runs m ((h.runs_iff x).1 hruns), runSegment_of_cons m s hs,
      runSegment_of_cons m t ht]
    simp only [runCommand, hbuiltin]
    -- Both sessions start the same program, or neither finds one.
    refine ⟨h.runProgram hspawner hpath _ _ _, _, _, requests_runProgram m _,
      requests_runProgram m _, ?_⟩
    refine sameCall_request? m hname hchars hpath h ?_ ?_
    · rw [hkept, List.map_cons]
    · rw [hkept, List.map_cons, hsame]
  · -- The segment runs in neither session.
    rw [step_of_not_runs m hruns, step_of_not_runs m fun ht => hruns ((h.runs_iff x).2 ht)]
    exact ⟨h, [], [], by simp, by simp, List.Forall₂.nil⟩

/-- Segments that name programs do the same with the one value as with the other. -/
theorem ApartAt.foldl_step {m : Machine} (hspawner : m.spawner.ByProgram) (hname : name ≠ "")
    (hchars : name.toList.all Text.isNameChar = true) (hpath : name ≠ "PATH")
    (hvalue : value ≠ "") (hvalue' : value' ≠ "") (xs : List Segment)
    (h : ApartAt name value value' s t) (hxs : StartsPrograms m name s xs) :
    RunTogether m s t xs ∧
      RunsApart name value value' s t (xs.foldl (Session.step m) s) (xs.foldl (Session.step m) t)
        (fun r r' => ∃ x ∈ xs, Request.SameCall name value value' (words x.text) r r') := by
  induction xs generalizing s t with
  | nil => exact ⟨trivial, h, [], [], by simp, by simp, List.Forall₂.nil⟩
  -- The step keeps the two sessions apart in this value alone, which is all that the
  -- induction needs of it.
  | cons x more ih =>
      rcases h.step hspawner hname hchars hpath hvalue hvalue' hxs.1 with
        ⟨happart, calls, calls', hs, ht, hcalls⟩
      rcases ih happart hxs.2 with ⟨htogether, hend, later, later', hs', ht', hlater⟩
      refine ⟨⟨h.runs_iff x, htogether⟩, hend, calls ++ later, calls' ++ later', ?_, ?_, ?_⟩
      · rw [List.foldl_cons, hs', hs, List.append_assoc]
      · rw [List.foldl_cons, ht', ht, List.append_assoc]
      · refine List.rel_append ?_ ?_
        · exact hcalls.imp fun r r' hr => ⟨x, List.mem_cons_self, hr⟩
        · exact hlater.imp fun r r' ⟨y, hy, hr⟩ => ⟨y, List.mem_cons_of_mem x hy, hr⟩

/-- The session with a variable set. -/
def withValue (s : Session) (name value : String) : Session :=
  { s with state.environment := s.state.environment.put name value }

/-- The session at the start of a line. -/
def begun (s : Session) (line : String) : Session :=
  { s with state := s.state.beginLine line }

theorem apartAt_withValue (s : Session) (name value value' line : String) :
    ApartAt name value value' ((s.withValue name value).begun line)
      ((s.withValue name value').begun line) := by
  have hvalues : ∀ v : String,
      ((s.withValue name v).begun line).state.environment.get? name = some v := by
    intro v
    exact (Environment.get?_put _ _ _ _).trans (if_pos rfl)
  have hothers : ∀ v other : String, other ≠ name →
      ((s.withValue name v).begun line).state.environment.get? other
        = s.state.environment.get? other := by
    intro v other hother
    exact (Environment.get?_put _ _ _ _).trans (if_neg hother)
  exact ⟨⟨rfl, rfl, hvalues value, hvalues value', fun other hother =>
    (hothers value' other hother).trans (hothers value other hother).symm⟩, rfl, rfl, rfl⟩

/-- A line of which each segment names a program when it is reached does the same with the
    one value as with the other: the same segments run, and the same programs are started,
    with arguments that stem from the same words, one for one. -/
theorem evalLine_apart (m : Machine) (hspawner : m.spawner.ByProgram) (s : Session)
    (name value value' line : String) (hname : name ≠ "")
    (hchars : name.toList.all Text.isNameChar = true) (hpath : name ≠ "PATH")
    (hvalue : value ≠ "") (hvalue' : value' ≠ "")
    (hline : StartsPrograms m name ((s.withValue name value).begun line) (segments line)) :
    RunTogether m ((s.withValue name value).begun line) ((s.withValue name value').begun line)
        (segments line) ∧
      ∃ calls calls',
        ((s.withValue name value).evalLine m line).journal.requests
          = s.journal.requests ++ calls ∧
        ((s.withValue name value').evalLine m line).journal.requests
          = s.journal.requests ++ calls' ∧
        List.Forall₂ (fun r r' => ∃ x ∈ segments line,
          Request.SameCall name value value' (words x.text) r r') calls calls' := by
  have happart := apartAt_withValue s name value value' line
  rcases happart.foldl_step hspawner hname hchars hpath hvalue hvalue' (segments line) hline with
    ⟨htogether, _, hcalls⟩
  exact ⟨htogether, hcalls⟩

/-- A value with an operator, a comment and a reference in it is put into two arguments,
    and the line runs both of its segments. -/
theorem evalLine_apart_hostile :
    let m : Machine :=
      { Machine.bare fun _ _ => .quiet (.ok (.exited 0)) with
        files := .ofEntries [(["p"], .regular [] true)] }
    let s := fresh Environment.empty
    let line := "/p $X a$X && /p $Y"
    m.spawner.ByProgram ∧
      StartsPrograms m "X" ((s.withValue "X" "; exit # $X").begun line) (segments line) ∧
      RunTogether m ((s.withValue "X" "; exit # $X").begun line)
        ((s.withValue "X" "b").begun line) (segments line) ∧
      ((s.withValue "X" "; exit # $X").evalLine m line).journal.requests.map (·.arguments)
        = [["/p", "; exit # $X", "a; exit # $X"], ["/p"]] := by
  intro m s line
  have hspawner : m.spawner.ByProgram := fun _ _ _ _ _ => rfl
  have hsegments : segments line = [⟨.opening, "/p $X a$X "⟩, ⟨.conjunction, " /p $Y"⟩] := by
    decide +kernel
  have hline : StartsPrograms m "X" ((s.withValue "X" "; exit # $X").begun line)
      (segments line) := by
    rw [hsegments]
    exact ⟨fun _ => ⟨"/p", ["$X", "a$X"], by decide +kernel⟩,
      fun _ => ⟨"/p", ["$Y"], by decide +kernel⟩, trivial⟩
  have hboth := evalLine_apart m hspawner s "X" "; exit # $X" "b" line (by decide)
    (by decide +kernel) (by decide) (by decide) (by decide) hline
  exact ⟨hspawner, hline, hboth.1, by decide +kernel⟩

/-- It is not enough that the first words name programs before the line is run. Here `$?`
    comes to stand for an alias of `exit`, which takes the one value for a code and
    refuses the other, so that only one of the lines goes on to its last segment. -/
theorem not_evalLine_apart_of_start :
    ¬ ∀ (m : Machine) (s : Session) (name value value' line : String),
      m.spawner.ByProgram → name ≠ "" → name.toList.all Text.isNameChar = true →
      name ≠ "PATH" → value ≠ "" → value' ≠ "" →
      (∀ x ∈ segments line, x.isBlank = false → s.StartsProgram name x) →
      ((s.withValue name value).evalLine m line).journal.requests.length
        = ((s.withValue name value').evalLine m line).journal.requests.length := by
  intro h
  let m : Machine :=
    { Machine.bare fun _ _ => .quiet (.ok (.exited 0)) with
      files := .ofEntries [(["p"], .regular [] true)] }
  -- The alias is called 127: it is what `$?` stands for once `x` has not been found.
  let s : Session :=
    { fresh Environment.empty with
      state :=
        { (fresh Environment.empty).state with aliases := Aliases.ofList [("127", "exit")] } }
  have hsegments : segments "x;$? $X;/p"
      = [⟨.opening, "x"⟩, ⟨.sequence, "$? $X"⟩, ⟨.sequence, "/p"⟩] := by
    decide +kernel
  have hstarts : ∀ x ∈ segments "x;$? $X;/p", x.isBlank = false → s.StartsProgram "X" x := by
    intro x hx _
    rw [hsegments] at hx
    simp only [List.mem_cons, List.not_mem_nil, or_false] at hx
    rcases hx with rfl | rfl | rfl
    · exact ⟨"x", [], by decide +kernel⟩
    · exact ⟨"$?", ["$X"], by decide +kernel⟩
    · exact ⟨"/p", [], by decide +kernel⟩
  have hlength := h m s "X" "1" "a" "x;$? $X;/p" (fun _ _ _ _ _ => rfl) (by decide)
    (by decide +kernel) (by decide) (by decide) (by decide) hstarts
  exact absurd hlength (by decide +kernel)

end Session

end CommandShell
