import CommandShell.Proofs.SingleCommands
import CommandShell.Proofs.Spawning

/-!
# A Variable From Its Assignment to a Program

The value of a variable is a word of the line that sets it, so it has to get past
everything that looks at a line. Where it is a plain word it does. There may be an
`&`, a `|`, a `#`, quotes or an `=` in it, as long as they are not taken for an
operator or a comment. From there on nothing looks into it. A reference puts it
into the arguments of a program as it is, and the environment that the program is
handed holds it as well.

When the variable is removed the same reference stands for nothing. A word that
stands for nothing is dropped, so the program is not handed an empty argument but
one argument less.

## Theorems

* `plain_of_isNameChar`: The name of a variable is a plain word.
* `evalLine_setVariable`, `evalLine_unsetVariable`: Lines that change a variable.
* `evalLine_reference`: A line that hands a variable to a program.
* `set_then_use`: What is set in one line is handed over in the next.
-/

namespace CommandShell

open Text Line Child

/-- To set a variable does not matter when it is removed. -/
theorem Environment.unset_put (env : Environment) (name value : String) :
    (env.put name value).unset name = env.unset name := by
  refine Environment.ext_get? fun n => ?_
  rw [get?_unset, get?_unset, get?_put]
  split
  · rfl
  · rfl

namespace Line

variable {name : String}

theorem not_mem_of_isNameChar (hchars : name.toList.all isNameChar = true) {c : Char}
    (hc : isNameChar c = false) : c ∉ name.toList := fun hmem =>
  Bool.false_ne_true (hc.symm.trans (List.all_eq_true.1 hchars c hmem))

/-- The name of a variable is a plain word. -/
theorem plain_of_isNameChar (hname : name ≠ "") (hchars : name.toList.all isNameChar = true) :
    Plain name where
  ne_empty := hname
  no_gap := by
    intro c hc
    cases hgap : isGap c with
    | false => rfl
    | true =>
        rcases isGap_iff.1 hgap with rfl | rfl
        · exact absurd hc (not_mem_of_isNameChar hchars (by decide))
        · exact absurd hc (not_mem_of_isNameChar hchars (by decide))
  no_reference := not_mem_of_isNameChar hchars not_isNameChar_dollar
  no_sequence := not_mem_of_isNameChar hchars (by decide)
  no_conjunction := fun h =>
    not_mem_of_isNameChar hchars (by decide) (List.IsInfix.subset h List.mem_cons_self)
  no_disjunction := fun h =>
    not_mem_of_isNameChar hchars (by decide) (List.IsInfix.subset h List.mem_cons_self)
  no_comment := fun h => not_mem_of_isNameChar hchars (by decide) (List.mem_of_head? h)

/-- A reference to a variable is a single segment, though it is no plain word. -/
theorem unbroken_reference (hname : name ≠ "") (hchars : name.toList.all isNameChar = true) :
    Unbroken ("$" ++ name) :=
  Unbroken.append (by decide +kernel) (plain_of_isNameChar hname hchars).unbroken fun c hc _ => by
    obtain rfl : '$' = c := by simpa using hc
    decide

end Line

theorem Builtin.run_setVariable (m : Machine) (s : Session) {name : String} (value : String)
    (hname : name ≠ "") (hchars : name.toList.all isNameChar = true) :
    Builtin.setVariable.run m [name, value] s
      = ({ s with state.environment := s.state.environment.put name value }, 0) := by
  have hfit : Environment.IsName name :=
    ⟨hname, not_mem_of_isNameChar hchars not_isNameChar_equals,
      not_mem_of_isNameChar hchars (by decide)⟩
  simp only [run, execute, runSetVariable_of_isName hfit]

namespace Session

variable {s : Session} {name : String}

/-- A line that sets a variable does nothing else. -/
theorem evalLine_setVariable (m : Machine) {value : String} (hexit : s.state.exitRequest = none)
    (halias : s.state.aliases.get? "setenv" = none) (hname : name ≠ "")
    (hchars : name.toList.all isNameChar = true) (hvalue : Plain value) :
    s.evalLine m (" ".intercalate ["setenv", name, value])
      = { s with state := { s.state.beginLine (" ".intercalate ["setenv", name, value]) with
          leading := "setenv"
          environment := s.state.environment.put name value
          status := 0 } } := by
  have hplain : ∀ w ∈ ["setenv", name, value], Plain w := by
    simpa using ⟨(by decide +kernel : Plain "setenv"), plain_of_isNameChar hname hchars, hvalue⟩
  have hline := evalLine_of_plain m hexit hplain rfl (Aliases.substitute_of_none _ halias)
  have hbuiltin : Builtin.ofName? "setenv" = some .setVariable := by decide
  rw [hline.2]
  simp only [runCommand, hbuiltin]
  rw [Builtin.run_setVariable m _ value hname hchars]
  rfl

/-- A line that removes a variable does nothing else. -/
theorem evalLine_unsetVariable (m : Machine) (hexit : s.state.exitRequest = none)
    (halias : s.state.aliases.get? "unsetenv" = none) (hname : name ≠ "")
    (hchars : name.toList.all isNameChar = true) :
    s.evalLine m (" ".intercalate ["unsetenv", name])
      = { s with state := { s.state.beginLine (" ".intercalate ["unsetenv", name]) with
          leading := "unsetenv"
          environment := s.state.environment.unset name
          status := 0 } } := by
  have hplain : ∀ w ∈ ["unsetenv", name], Plain w := by
    simpa using ⟨(by decide +kernel : Plain "unsetenv"), plain_of_isNameChar hname hchars⟩
  have hline := evalLine_of_plain m hexit hplain rfl (Aliases.substitute_of_none _ halias)
  have hbuiltin : Builtin.ofName? "unsetenv" = some .unsetVariables := by decide
  rw [hline.2]
  simp only [runCommand, hbuiltin]
  rfl

/-- A line that hands a variable to a program asks for that program once and changes
    nothing else. If the variable has no value or an empty one, the program is not handed
    any argument for it. -/
theorem evalLine_reference (m : Machine) {command program : String}
    (hexit : s.state.exitRequest = none) (hname : name ≠ "")
    (hchars : name.toList.all isNameChar = true) (hplain : Plain command)
    (hbuiltin : Builtin.ofName? command = none) (halias : s.state.aliases.get? command = none)
    (hresolve : m.files.resolve s.directory s.state.environment command = .ok program) :
    let line := " ".intercalate [command, "$" ++ name]
    let arguments := [(s.state.environment.get? name).getD ""].filter (· ≠ "")
    let used := s.evalLine m line
    used.journal.requests = s.journal.requests
      ++ [⟨program, command :: arguments, s.state.environment, s.directory⟩] ∧
    used.state = { s.state.beginLine line with
      leading := command
      status := used.state.status } ∧
    used.directory = s.directory := by
  intro line arguments used
  have hline : Unbroken line := unbroken_intercalate fun w hw => by
    rcases List.mem_pair.1 hw with rfl | rfl
    · exact hplain.unbroken
    · exact unbroken_reference hname hchars
  have hname' : Plain name := plain_of_isNameChar hname hchars
  have hwords : words line = [command, "$" ++ name] := words_intercalate fun w hw => by
    rcases List.mem_pair.1 hw with rfl | rfl
    · exact hplain.toIsWord
    · exact ⟨by simp, by simpa using ⟨by decide, hname'.no_gap⟩⟩
  have hblank : isBlank line = false := by
    have hreference : isBlank ("$" ++ name) = false := by
      have hdollar : isWhiteSpace '$' = false := by decide
      simp [isBlank, hdollar]
    rw [show isBlank line = _ from isBlank_intercalate _, List.all_cons, List.all_cons, hreference,
      Bool.false_and, Bool.and_false]
  have hcommand : s.state.expandWords (words line) = command :: arguments := by
    have hfirst : s.state.parameters.expand command = command :=
      expand_of_not_mem _ hplain.no_reference
    have hsecond : s.state.parameters.expand ("$" ++ name)
        = (s.state.environment.get? name).getD "" :=
      Parameters.expand_reference _ hname hchars
    rw [hwords, State.expandWords, List.map_cons, List.map_singleton, hfirst, hsecond,
      List.filter_cons_of_pos (by simpa using hplain.ne_empty)]
    exact Aliases.substitute_of_none _ halias
  have heval : used = ((s.begun line).runCommand m command arguments).1.close
      ((s.begun line).runCommand m command arguments).2 :=
    (evalLine_of_unbroken m hexit hline hblank hcommand).2
  -- The program is found in the session as the line begins.
  have hrequest : ((s.begun line).ready command arguments).request? m
      = some ⟨program, command :: arguments, s.state.environment, s.directory⟩ := by
    have hfound : m.files.resolve ((s.begun line).ready command arguments).directory
        ((s.begun line).ready command arguments).state.environment
        ((s.begun line).ready command arguments).state.leading = .ok program := hresolve
    rw [request?, hfound]
    rfl
  have hrequests := requests_runCommand_of_program m (s.begun line) arguments hbuiltin
  rw [hrequest] at hrequests
  have hstate : ((s.begun line).runCommand m command arguments).1.state
      = ((s.begun line).ready command arguments).state := by
    simp only [runCommand, hbuiltin, state_runProgram]
  have hdirectory : ((s.begun line).runCommand m command arguments).1.directory = s.directory := by
    simp only [runCommand, hbuiltin, directory_runProgram]
    rfl
  refine ⟨?_, ?_, ?_⟩
  · rw [heval]
    exact hrequests
  · rw [heval]
    simp only [close, hstate]
    rfl
  · rw [heval]
    exact hdirectory

/-- A variable is set to a plain word, handed to a program, removed and handed to the
    program again. The first line succeeds and changes nothing but the variable. The
    second one asks for the program once, and both the argument and the environment hold
    the value as it was typed. After the third line, which succeeds as well, the program
    is asked for without an argument.

    Between the lines the files may change, so each line has a machine of its own. -/
theorem set_then_use (m₁ m₂ m₃ m₄ : Machine) (s : Session) {name value command program : String}
    (hexit : s.state.exitRequest = none) (hsetenv : s.state.aliases.get? "setenv" = none)
    (hname : name ≠ "") (hchars : name.toList.all isNameChar = true) (hvalue : Plain value)
    (hplain : Plain command) (hbuiltin : Builtin.ofName? command = none)
    (halias : s.state.aliases.get? command = none)
    (hresolve : m₂.files.resolve s.directory (s.state.environment.put name value) command
      = .ok program) :
    let setting := " ".intercalate ["setenv", name, value]
    let calling := " ".intercalate [command, "$" ++ name]
    let removing := " ".intercalate ["unsetenv", name]
    let set := s.evalLine m₁ setting
    let used := set.evalLine m₂ calling
    let removed := used.evalLine m₃ removing
    set = { s with state := { s.state.beginLine setting with
      leading := "setenv"
      environment := s.state.environment.put name value
      status := 0 } } ∧
    used.journal.requests = s.journal.requests
      ++ [⟨program, [command, value], s.state.environment.put name value, s.directory⟩] ∧
    (s.state.aliases.get? "unsetenv" = none →
      removed.state.status = 0 ∧
      removed.state.environment = s.state.environment.unset name ∧
      removed.journal.requests = used.journal.requests ∧
      ∀ program', m₄.files.resolve s.directory (s.state.environment.unset name) command
          = .ok program' →
        (removed.evalLine m₄ calling).journal.requests = used.journal.requests
          ++ [⟨program', [command], s.state.environment.unset name, s.directory⟩]) := by
  intro setting calling removing set used removed
  have hset : set = _ := evalLine_setVariable m₁ hexit hsetenv hname hchars hvalue
  have hgot : set.state.environment.get? name = some value := by
    rw [hset]
    exact (Environment.get?_put _ _ _ _).trans (if_pos rfl)
  -- What the first line has not changed is asked for in the second one.
  obtain ⟨hrequests, hstate, hdirectory⟩ := evalLine_reference m₂ (s := set)
    (by rw [hset]; exact hexit) hname hchars hplain hbuiltin (by rw [hset]; exact halias)
    (by rw [hset]; exact hresolve)
  rw [hgot] at hrequests
  have harguments : [value].filter (· ≠ "") = [value] := by simp [hvalue.ne_empty]
  rw [Option.getD_some, harguments] at hrequests
  refine ⟨hset, ?_, fun hunsetenv => ?_⟩
  · rw [show used.journal.requests = _ from hrequests, hset]
  have hopen : used.state.exitRequest = none := by
    rw [show used.state = _ from hstate, hset]
    exact hexit
  have hremoved : removed = _ := evalLine_unsetVariable m₃ hopen
    (by rw [show used.state = _ from hstate, hset]; exact hunsetenv) hname hchars
  have hunset : removed.state.environment = s.state.environment.unset name := by
    rw [hremoved, show used.state = _ from hstate, hset]
    exact s.state.environment.unset_put name value
  have hplace : removed.directory = s.directory := by
    rw [hremoved, show used.directory = _ from hdirectory, hset]
  have hsame : removed.journal.requests = used.journal.requests := by rw [hremoved]
  refine ⟨by rw [hremoved], hunset, hsame, fun program' hresolve' => ?_⟩
  -- The reference stands for nothing now, and the word of it is dropped.
  have hnone : removed.state.environment.get? name = none := by
    rw [hunset, Environment.get?_unset, if_pos rfl]
  obtain ⟨hagain, _, _⟩ := evalLine_reference m₄ (s := removed)
    (by rw [hremoved, show used.state = _ from hstate, hset]; exact hexit)
    hname hchars hplain hbuiltin
    (by rw [hremoved, show used.state = _ from hstate, hset]; exact halias)
    (by rw [hplace, hunset]; exact hresolve')
  have hdropped : [""].filter (· ≠ "") = [] := rfl
  rw [hnone, Option.getD_none, hdropped, hsame, hunset, hplace] at hagain
  exact hagain

/-- The value looks like operators, a comment and an assignment, and the variable's name
    begins with a numeral. -/
theorem set_then_use_hostile :
    let m : Machine :=
      { Machine.bare fun _ _ => .quiet (.ok (.exited 7)) with
        files := .ofEntries [(["bin"], .directory), (["bin", "k"], .regular [] true)] }
    let s := Session.fresh (Environment.empty.put "PATH" "/bin")
    let set := s.evalLine m "setenv 1é &|'#=\"x"
    let used := set.evalLine m "k $1é"
    let removed := used.evalLine m "unsetenv 1é"
    let env := s.state.environment
    used.journal.requests = [⟨"/bin/k", ["k", "&|'#=\"x"], env.put "1é" "&|'#=\"x", []⟩] ∧
    (removed.evalLine m "k $1é").journal.requests = used.journal.requests
      ++ [⟨"/bin/k", ["k"], env.unset "1é", []⟩] := by
  intro m s set used removed env
  have hchars : "1é".toList.all isNameChar = true := by decide +kernel
  have hvalue : Plain "&|'#=\"x" := by decide +kernel
  have hplain : Plain "k" := by decide +kernel
  have hresolve : m.files.resolve s.directory (env.put "1é" "&|'#=\"x") "k" = .ok "/bin/k" := by
    decide +kernel
  have hused := set_then_use m m m m s rfl rfl (by decide) hchars hvalue hplain (by decide)
    rfl hresolve
  have hsetting : " ".intercalate ["setenv", "1é", "&|'#=\"x"] = "setenv 1é &|'#=\"x" := by
    decide +kernel
  have hcalling : " ".intercalate ["k", "$" ++ "1é"] = "k $1é" := by decide +kernel
  have hremoving : " ".intercalate ["unsetenv", "1é"] = "unsetenv 1é" := by decide +kernel
  simp only [hsetting, hcalling, hremoving] at hused
  obtain ⟨_, hrequests, hremoved⟩ := hused
  obtain ⟨_, _, _, hagain⟩ := hremoved rfl
  exact ⟨hrequests, hagain "/bin/k" (by decide +kernel)⟩

end Session

end CommandShell
