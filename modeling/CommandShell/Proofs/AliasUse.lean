import CommandShell.Proofs.AliasListing

/-!
# An Alias From Its Definition to Its Use

The words of an alias make a long way. They are typed between quotes, torn apart
with the rest of the line, put together again by `alias` and kept as one text.
When the alias is used they are torn apart once more, and the words behind the
name are added. They arrive as they were typed, and as the command that is run.

Two things are not done on that way. Nothing is put in for the words of an alias,
since that has been done for the line before the alias is looked up. And they are
not looked up themselves, so an alias may begin with its own name or with that of
another one. A name that is also that of a builtin stands for the alias.

## Theorems

* `quotable_intercalate`: Words between which there is one space are quotable.
* `evalLine_define`: A line with an assignment defines the alias.
* `evalLine_use`: A line that begins with an alias runs its words.
* `define_then_use`: What is defined in one line is run in the next.
-/

namespace CommandShell

open Text Line

namespace Alias

theorem isChain_intercalate_words {ws : List String} (hwords : ∀ w ∈ ws, IsWord w)
    (hinner : ∀ w ∈ ws.dropLast, w.toList.getLast? ≠ some '\'') :
    ([' '].intercalate (ws.map String.toList)).IsChain MayPrecede := by
  induction ws with
  | nil => exact List.IsChain.nil
  | cons w more ih =>
      obtain ⟨hw, hmore⟩ := List.forall_mem_cons.1 hwords
      have hpiece : IsPiece w.toList := hw.no_gap
      cases more with
      | nil => simpa using hpiece.isChain
      | cons v rest =>
          obtain ⟨hv, _⟩ := List.forall_mem_cons.1 hmore
          obtain ⟨hquote, hinner⟩ := List.forall_mem_cons.1 hinner
          -- Words are not empty, so no quote is followed by a space at once.
          have hne : v.toList ≠ [] := by simpa [String.toList_eq_nil_iff] using hv.ne_empty
          exact (isChain_intercalate_cons_cons hpiece hv.no_gap).2
            ⟨hquote, fun hnil => absurd hnil hne, ih hmore hinner⟩

/-- Words between which there is one space each are quotable, if none but the last ends in
    a quote. -/
theorem quotable_intercalate {ws : List String} (hwords : ∀ w ∈ ws, IsWord w)
    (hinner : ∀ w ∈ ws.dropLast, w.toList.getLast? ≠ some '\'') :
    Quotable (" ".intercalate ws) := by
  have hpieces : ∀ p ∈ ws.map String.toList, IsPiece p := List.forall_mem_map.2
    fun w hw => (hwords w hw).no_gap
  have htext : " ".intercalate ws = String.ofList ([' '].intercalate (ws.map String.toList)) := by
    rw [← String.ofList_toList (s := " ".intercalate ws), String.toList_intercalate]
    rfl
  rw [htext]
  exact quotable_of_prefix hpieces (isChain_intercalate_words hwords hinner) List.prefix_rfl

end Alias

open Alias

/-- A line that defines an alias is a single segment. -/
theorem unbroken_define {name value : String} (hname : Unbroken name) (hvalue : Unbroken value) :
    Unbroken ("alias " ++ assignment name value) := by
  -- Between the parts there is a blank, an `=` or a quote, so no operator is formed.
  have hfront : Unbroken ("alias " ++ name) :=
    Unbroken.append (by decide +kernel) hname fun c hc _ => by
      obtain rfl : ' ' = c := by simpa using hc
      decide
  have hopened : Unbroken ("alias " ++ name ++ "='") :=
    hfront.append (by decide +kernel) fun c _ hc => by
      obtain rfl : '=' = c := by simpa using hc
      decide
  have hquoted : Unbroken ("alias " ++ name ++ "='" ++ value) :=
    hopened.append hvalue fun c hc _ => by
      rw [String.toList_append, List.getLast?_append] at hc
      obtain rfl : '\'' = c := by simpa using hc
      decide
  have hclosed : Unbroken ("alias " ++ name ++ "='" ++ value ++ "'") :=
    hquoted.append (by decide +kernel) fun c _ hc => by
      obtain rfl : '\'' = c := by simpa using hc
      decide
  simpa only [assignment, String.append_assoc] using hclosed

/-- A name that an alias can have is not blank. -/
theorem Aliases.not_isBlank_of_isValidName {name : String} (h : isValidName name = true) :
    isBlank name = false := by
  simp only [isValidName, Bool.and_eq_true, List.all_eq_true, decide_eq_true_eq,
    Bool.not_eq_true'] at h
  obtain ⟨hne, hchars⟩ := h
  cases hname : name.toList with
  | nil => exact absurd (String.toList_eq_nil_iff.1 hname) hne
  | cons c rest =>
      have hc := (hchars c (by rw [hname]; exact List.mem_cons_self)).2
      simp [isBlank, hname, hc]

namespace Session

variable {s : Session} {name : String}

/-- A line with an assignment defines the alias and does nothing else. -/
theorem evalLine_define (m : Machine) {value : String} (hexit : s.state.exitRequest = none)
    (halias : s.state.aliases.get? "alias" = none) (hname : Aliases.isValidName name = true)
    (hplain : Plain name) (hvalue : Quotable value) (hunbroken : Unbroken value)
    (hreference : '$' ∉ value.toList) :
    s.evalLine m ("alias " ++ assignment name value)
      = { s with state := { s.state.beginLine ("alias " ++ assignment name value) with
          leading := "alias"
          aliases := s.state.aliases.put name value
          status := 0 } } := by
  have hwords : words ("alias " ++ assignment name value)
      = "alias" :: words (assignment name value) :=
    words_append_gap (c := ' ') (by decide) "alias" (assignment name value)
  -- Nothing has to be put in, and the first word is no alias itself.
  have hclear : '$' ∉ (assignment name value).toList := by
    simp [assignment, hplain.no_reference, hreference]
  have hcommand : s.state.expandWords (words ("alias " ++ assignment name value))
      = "alias" :: words (assignment name value) := by
    rw [hwords, State.expandWords_of_not_mem, Aliases.substitute_of_none _ halias]
    refine List.forall_mem_cons.2 ⟨by decide, fun w hw => ?_⟩
    exact ⟨ne_empty_of_mem_words hw, not_mem_of_mem_words hclear hw⟩
  have hblank : isBlank ("alias " ++ assignment name value) = false := by
    have hfirst : "alias ".toList.all isWhiteSpace = false := by decide
    rw [isBlank, String.toList_append, List.all_append, hfirst, Bool.false_and]
  rw [(evalLine_of_unbroken m hexit (unbroken_define hplain.unbroken hunbroken) hblank hcommand).2]
  have hbuiltin : Builtin.ofName? "alias" = some .defineAliases := by decide
  simp only [runCommand, hbuiltin]
  rw [Builtin.run_assignment m _ hname hvalue]
  rfl

/-- A line that begins with an alias runs the words of the alias and those behind its
    name, whatever other aliases and builtins there are. -/
theorem evalLine_use (m : Machine) {text leading : String} {rest args : List String}
    (hexit : s.state.exitRequest = none) (hget : s.state.aliases.get? name = some text)
    (hwords : words text = leading :: rest) (hname : Aliases.isValidName name = true)
    (hplain : ∀ w ∈ name :: args, Plain w) :
    (turnsOf m s (" ".intercalate (name :: args))).map Turn.command = [leading :: (rest ++ args)] ∧
      s.evalLine m (" ".intercalate (name :: args))
        = ((s.begun (" ".intercalate (name :: args))).runCommand m leading (rest ++ args)).1.close
          ((s.begun (" ".intercalate (name :: args))).runCommand m leading (rest ++ args)).2 := by
  have hblank : (name :: args).all isBlank = false := by
    rw [List.all_cons, Aliases.not_isBlank_of_isValidName hname, Bool.false_and]
  refine evalLine_of_plain m hexit hplain hblank ?_
  simp [Aliases.substitute, hget, hwords]

/-- An alias is defined with one or more words between its quotes and then used with any
    words behind its name. The first line succeeds and changes nothing but the alias. The
    second one runs one command, made of exactly these words. -/
theorem define_then_use (m : Machine) (s : Session) {name w : String} {ws args : List String}
    (hexit : s.state.exitRequest = none) (halias : s.state.aliases.get? "alias" = none)
    (hname : Aliases.isValidName name = true) (hplain : Plain name)
    (hvalue : ∀ v ∈ w :: ws, Plain v)
    (hinner : ∀ v ∈ (w :: ws).dropLast, v.toList.getLast? ≠ some '\'')
    (hargs : ∀ v ∈ args, Plain v) :
    let value := " ".intercalate (w :: ws)
    let first := "alias " ++ assignment name value
    let second := " ".intercalate (name :: args)
    let defined := s.evalLine m first
    defined = { s with state := { s.state.beginLine first with
      leading := "alias"
      aliases := s.state.aliases.put name value
      status := 0 } } ∧
    (turnsOf m defined second).map Turn.command = [w :: (ws ++ args)] ∧
    defined.evalLine m second
      = ((defined.begun second).runCommand m w (ws ++ args)).1.close
        ((defined.begun second).runCommand m w (ws ++ args)).2 := by
  intro value first second defined
  have hwords : ∀ v ∈ w :: ws, IsWord v := fun v hv => (hvalue v hv).toIsWord
  -- There is no reference in the value, since there is none in its words or in the blanks
  -- between.
  have hreference : '$' ∉ value.toList := by
    rw [String.toList_intercalate]
    intro hmem
    rcases mem_of_mem_intercalate hmem with hspace | ⟨p, hp, hc⟩
    · exact absurd hspace (by decide)
    · obtain ⟨v, hv, rfl⟩ := List.mem_map.1 hp
      exact (hvalue v hv).no_reference hc
  have hdefined := evalLine_define m hexit halias hname hplain
    (quotable_intercalate hwords hinner) (unbroken_intercalate fun v hv => (hvalue v hv).unbroken)
    hreference
  refine ⟨hdefined, ?_⟩
  -- The second line finds what the first one has defined, in a session that is still open.
  have hget : defined.state.aliases.get? name = some value := by
    rw [show defined = _ from hdefined]
    exact (Aliases.get?_put _ _ _ _).trans (if_pos rfl)
  have hopen : defined.state.exitRequest = none := by
    rw [show defined = _ from hdefined]
    exact hexit
  exact evalLine_use m hopen hget (words_intercalate hwords) hname
    (List.forall_mem_cons.2 ⟨hplain, hargs⟩)

/-- The alias has the name of a builtin, and its first word is an alias as well. There are
    quotes in the words and around one of them. -/
theorem define_then_use_quotes :
    let m : Machine := Machine.bare fun _ _ => .quiet (.ok (.exited 0))
    let s := (Session.fresh Environment.empty).evalLine m "alias ls=nope"
    let defined := s.evalLine m "alias help='ls it's 'q''"
    s.state.exitRequest = none ∧ s.state.aliases.get? "ls" = some "nope" ∧
    (Builtin.ofName? "help").isSome = true ∧
    defined.state.aliases = s.state.aliases.put "help" "ls it's 'q'" ∧
    defined.state.status = 0 ∧
    (turnsOf m defined "help 1# x").map Turn.command = [["ls", "it's", "'q'", "1#", "x"]] := by
  intro m s defined
  have hexit : s.state.exitRequest = none := by decide +kernel
  have hname : Aliases.isValidName "help" = true := by decide +kernel
  have hwords : ∀ v ∈ ["ls", "it's", "'q'"], Plain v := by decide +kernel
  have hargs : ∀ v ∈ ["1#", "x"], Plain v := by decide +kernel
  have hused := define_then_use m s hexit (by decide +kernel) hname (by decide +kernel) hwords
    (by decide +kernel) hargs
  have hvalue : " ".intercalate ["ls", "it's", "'q'"] = "ls it's 'q'" := by decide +kernel
  have hfirst : "alias " ++ assignment "help" "ls it's 'q'" = "alias help='ls it's 'q''" := by
    decide +kernel
  have hsecond : " ".intercalate ["help", "1#", "x"] = "help 1# x" := by decide +kernel
  simp only [hvalue, hfirst, hsecond] at hused
  obtain ⟨hdefined, hcommand, _⟩ := hused
  refine ⟨hexit, by decide +kernel, by decide, ?_, ?_, hcommand⟩
  · exact congrArg (·.state.aliases) hdefined
  · exact congrArg (·.state.status) hdefined

end Session

end CommandShell
