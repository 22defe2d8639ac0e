import CommandShell.Proofs.AliasUse

/-!
# Skipping Blank Segments

A blank segment is skipped before its connector is looked at and its words are
counted. This is meant as a shortcut. A segment without words runs nothing anyway,
and if blank segments were those without words, the test for blanks could be left
out and nobody would notice.

A segment without words is indeed blank. The converse fails, because the two classes
of separators differ. A segment that holds, say, a no-break space and nothing else is
blank, and yet it has a word. Without the test this word would be the name of a
command. It names no builtin and no alias, since the names of these have no white
space, so a program would be searched for, and be asked for or complained about. With
the test nothing happens at all. Such a segment is *swallowed*.

A line is run here with the test and without it. The two runs are the same behind every
segment exactly if no segment is swallowed.

## Main definitions

* `Session.stepThrough`, `Session.evalLineThrough`: A segment and a line are run without
  the test.
* `Session.Turn.Swallows`: A segment with a word is skipped as blank.

## Theorems

* `words_eq_nil_iff`: The texts without words are those that consist of gaps.
* `stepThrough_of_not_swallows`: The test makes no difference to other segments.
* `runProgram_journal_ne`: A command that is a program leaves a trace.
* `journal_stepThrough_ne`: A swallowed segment would have left one.
* `foldl_stepThrough_iff`: Segments are run as without the test exactly if none is swallowed.
* `through_iff_not_swallows`: The test cannot be noticed exactly if nothing is swallowed.
-/

namespace CommandShell

open Line Text Alias

/-! ### Texts without words -/

namespace Line

theorem words_eq_nil_iff {text : String} :
    words text = [] ↔ ∀ c ∈ text.toList, isGap c = true := by
  rw [words, List.map_eq_nil_iff]
  induction text.toList with
  | nil => simp [solidFields, fields]
  | cons c rest ih =>
      rw [List.forall_mem_cons, ← ih]
      -- A gap opens an empty field, which is dropped.
      by_cases hc : isGap c = true
      · simp [solidFields, fields_cons_of_separator hc, hc]
      · -- The first field holds the character.
        have hsolid : isGap c = false := by simpa using hc
        rcases exists_fields_eq_cons isGap rest with ⟨field, more, hfields⟩
        simp [solidFields, fields_cons_of_not hsolid hfields, hsolid]

/-- A segment without words is blank. -/
theorem Segment.isBlank_of_words_nil {x : Segment} (h : words x.text = []) : x.isBlank = true :=
  isBlank_iff.2 fun c hc => isWhiteSpace_of_isGap (words_eq_nil_iff.1 h c hc)

/-- The words of a blank text are blank, and none of them is a reference. -/
theorem blank_of_mem_words {text word : String} (htext : isBlank text = true)
    (h : word ∈ words text) : isBlank word = true ∧ '$' ∉ word.toList := by
  have hwhite : ∀ c ∈ word.toList, isWhiteSpace c = true := by
    intro c hc
    by_contra hnot
    have hout : c ∉ text.toList := fun hmem => hnot (isBlank_iff.1 htext c hmem)
    exact not_mem_of_mem_words hout h hc
  exact ⟨isBlank_iff.2 hwhite, fun hdollar => absurd (hwhite '$' hdollar) (by decide)⟩

/-- What stands in a segment of a line stands in the line. -/
theorem mem_of_mem_segments {line : String} {x : Segment} {c : Char} (hx : x ∈ segments line)
    (hc : c ∈ x.text.toList) : c ∈ line.toList := by
  have hrendered : c ∈ x.render := List.mem_append_right x.connector.symbol hc
  have hkept : c ∈ beforeComment line.toList := by
    rw [← render_segments]
    exact List.mem_flatMap.2 ⟨x, hx, hrendered⟩
  -- What is kept of a line is in the line.
  rcases beforeHash_cases true line.toList with hall | ⟨comment, hline, _⟩
  · rw [hall]
    exact hkept
  · rw [hline]
    exact List.mem_append_left _ hkept

end Line

/-! ### Blank names -/

/-- The name of a builtin is not blank. -/
theorem Builtin.not_isBlank_name (b : Builtin) : isBlank b.name = false := by
  cases b <;> decide

theorem Builtin.ofName?_of_isBlank {word : String} (h : isBlank word = true) :
    ofName? word = none := by
  rw [ofName?_eq_none_iff]
  rintro b rfl
  rw [b.not_isBlank_name] at h
  exact Bool.false_ne_true h

/-- No alias that `alias` can define has a blank name. -/
theorem Aliases.get?_of_isBlank {aliases : Aliases} (haliases : aliases.IsWellNamed)
    {word : String} (h : isBlank word = true) : aliases.get? word = none := by
  cases hget : aliases.get? word with
  | none => rfl
  | some text =>
      -- A name that is found is one of the names in the table, and none of these is
      -- blank.
      rcases List.lookup_eq_some_iff.1 hget with ⟨front, back, hsplit, _⟩
      have hentry : (word, text) ∈ aliases.toList := by
        rw [Aliases.toList, hsplit]
        exact List.mem_append_right front List.mem_cons_self
      have hname := Aliases.not_isBlank_of_isValidName (haliases _ hentry)
      rw [hname] at h
      exact absurd h Bool.false_ne_true

namespace Session

variable {m : Machine} {s : Session}

/-! ### Segments -/

/-- A segment is run unless its connector forbids it or the session has been asked to end,
    whether it is blank or not. -/
def stepThrough (m : Machine) (s : Session) (x : Segment) : Session :=
  if s.state.exitRequest.isSome then s
  else if x.connector.admits s.state.status then s.runSegment m x.text
  else s

/-- A line is run without a test for blank segments. -/
def evalLineThrough (m : Machine) (s : Session) (line : String) : Session :=
  (segments line).foldl (stepThrough m) (s.begun line)

/-- A segment that would have been run is skipped as blank, although it has a word. -/
structure Turn.Swallows (turn : Turn) : Prop where
  goesOn : turn.before.state.exitRequest = none
  admitted : turn.segment.connector.admits turn.before.state.status = true
  blank : turn.segment.isBlank = true
  has_word : words turn.segment.text ≠ []

instance (turn : Turn) : Decidable turn.Swallows :=
  decidable_of_iff
    (turn.before.state.exitRequest = none ∧
      turn.segment.connector.admits turn.before.state.status = true ∧
      turn.segment.isBlank = true ∧ words turn.segment.text ≠ [])
    ⟨fun h => ⟨h.1, h.2.1, h.2.2.1, h.2.2.2⟩,
      fun h => ⟨h.goesOn, h.admitted, h.blank, h.has_word⟩⟩

/-- A segment that is not swallowed is run with the test as without it. -/
theorem stepThrough_of_not_swallows {x : Segment} (htokens : s.state.tokens = [])
    (h : ¬ Turn.Swallows ⟨m, s, x⟩) : s.stepThrough m x = s.step m x := by
  unfold stepThrough step
  by_cases hexit : s.state.exitRequest.isSome = true
  · rw [if_pos hexit, if_pos hexit]
  · rw [if_neg hexit, if_neg hexit]
    by_cases hblank : x.isBlank = true
    · rw [if_pos hblank]
      by_cases hadmitted : x.connector.admits s.state.status = true
      · -- The segment would have been swallowed if it had a word.
        have hwords : words x.text = [] := by
          by_contra hword
          exact h ⟨by simpa using hexit, hadmitted, hblank, hword⟩
        have hnone : s.state.expandWords (words x.text) = [] := by
          rw [hwords]
          rfl
        rw [if_pos hadmitted, runSegment_of_nil m s hnone, ← htokens]
      · rw [if_neg hadmitted]
    · rw [if_neg hblank]

/-- A command that is a program leaves a trace: the program is asked for, or else there is
    a complaint that none is found. -/
theorem runProgram_journal_ne (m : Machine) (s : Session) :
    (s.runProgram m).1.journal ≠ s.journal := by
  intro hsame
  rw [runProgram_eq] at hsame
  have hrequests := requests_conclude m s (s.conclusion m)
  have hattempted := attempted_conclude m s (s.conclusion m) .standardError
  rw [hsame] at hrequests hattempted
  have hrequest : (s.conclusion m).request = none := by simpa using hrequests
  have hcomplaint : (s.conclusion m).complaint = none := by simpa using hattempted
  -- Neither the one nor the other is impossible.
  unfold conclusion at hrequest hcomplaint
  cases hfound : m.files.resolve s.directory s.state.environment s.state.leading with
  | error e => simp [hfound] at hcomplaint
  | ok program =>
      rw [hfound] at hrequest
      dsimp only at hrequest
      split at hrequest <;> cases hrequest

/-- Without the test, the word of a swallowed segment is taken for a program, and that
    leaves a trace. -/
theorem journal_stepThrough_ne {x : Segment} (haliases : s.state.aliases.IsWellNamed)
    (h : Turn.Swallows ⟨m, s, x⟩) : (s.stepThrough m x).journal ≠ (s.step m x).journal := by
  rcases h with ⟨hgoesOn, hadmitted, hblank, hword⟩
  have hskipped : s.step m x = s :=
    step_of_not_runs m fun hruns => absurd (hruns.not_blank.symm.trans hblank) Bool.false_ne_true
  have hrun : s.stepThrough m x = s.runSegment m x.text := by
    unfold stepThrough
    rw [hgoesOn, if_pos hadmitted]
    rfl
  cases hwords : words x.text with
  | nil => exact absurd hwords hword
  | cons first rest =>
      have hmem : first ∈ words x.text := by
        rw [hwords]
        exact List.mem_cons_self
      have hfirst := (blank_of_mem_words hblank hmem).1
      -- The words are run as they are, for there is neither a reference nor an alias.
      have hcommand : s.state.expandWords (words x.text) = first :: rest := by
        rw [State.expandWords_of_not_mem, hwords,
          Aliases.substitute_of_none rest (Aliases.get?_of_isBlank haliases hfirst)]
        exact fun w hw => ⟨ne_empty_of_mem_words hw, (blank_of_mem_words hblank hw).2⟩
      have hprogram : s.runCommand m first rest = (s.ready first rest).runProgram m := by
        unfold runCommand
        rw [Builtin.ofName?_of_isBlank hfirst]
      rw [hskipped, hrun, runSegment_of_cons m s hcommand, hprogram]
      exact runProgram_journal_ne m (s.ready first rest)

/-! ### Lines -/

/-- Segments are run with the test as without it, at every stage, exactly if none of them
    is swallowed. -/
theorem foldl_stepThrough_iff {xs : List Segment} (htokens : s.state.tokens = [])
    (haliases : s.state.aliases.IsWellNamed) :
    (∀ front, front <+: xs → front.foldl (stepThrough m) s = front.foldl (step m) s) ↔
      ∀ turn ∈ turnsFrom m s xs, ¬ turn.Swallows := by
  induction xs generalizing s with
  | nil =>
      refine ⟨fun _ turn hturn => (nomatch hturn), fun _ front hfront => ?_⟩
      rw [List.prefix_nil.1 hfront]
      rfl
  | cons x more ih =>
      have hmore := ih (s := s.step m x) (tokens_step m htokens x)
        (isWellNamed_turn ⟨m, s, x⟩ haliases)
      rw [turnsFrom, List.forall_mem_cons, ← hmore]
      constructor
      · intro hsame
        have hfirst : s.stepThrough m x = s.step m x := hsame [x] (List.prefix_append [x] more)
        refine ⟨fun hswallows => journal_stepThrough_ne haliases hswallows (by rw [hfirst]), ?_⟩
        -- The other segments begin in the same session on both sides.
        intro front hfront
        have hlonger := hsame (x :: front) (List.cons_prefix_cons.2 ⟨rfl, hfront⟩)
        rwa [List.foldl_cons, List.foldl_cons, hfirst] at hlonger
      · rintro ⟨hfirst, hothers⟩ front hfront
        cases front with
        | nil => rfl
        | cons y rest =>
            obtain ⟨rfl, hrest⟩ := List.cons_prefix_cons.1 hfront
            rw [List.foldl_cons, List.foldl_cons, stepThrough_of_not_swallows htokens hfirst]
            exact hothers rest hrest

/-- The test for blank segments cannot be noticed behind any segment of a line exactly if
    no segment is swallowed, and then the line as a whole is run as without the test. So
    it is for every line in which only spaces and tabs are white. A segment without words
    is blank in any case. -/
theorem through_iff_not_swallows (m : Machine) {s : Session}
    (haliases : s.state.aliases.IsWellNamed) (line : String) :
    ((∀ front, front <+: segments line →
        front.foldl (stepThrough m) (s.begun line) = front.foldl (step m) (s.begun line)) ↔
      ∀ turn ∈ turnsOf m s line, ¬ turn.Swallows) ∧
    ((∀ turn ∈ turnsOf m s line, ¬ turn.Swallows) →
      s.evalLineThrough m line = s.evalLine m line) ∧
    ((∀ c ∈ line.toList, isWhiteSpace c = true → isGap c = true) →
      ∀ turn ∈ turnsOf m s line, ¬ turn.Swallows) ∧
    ∀ x : Segment, words x.text = [] → x.isBlank = true := by
  have hiff := @foldl_stepThrough_iff m (s.begun line) (segments line) rfl haliases
  refine ⟨hiff, fun hnone => hiff.2 hnone _ (List.prefix_refl _), ?_,
    fun x => Segment.isBlank_of_words_nil⟩
  intro hgaps turn hturn hswallows
  rcases mem_turnsOf hturn with ⟨earlier, later, hsegments, _, _⟩
  have hsegment : turn.segment ∈ segments line := by
    rw [hsegments]
    exact List.mem_append_right earlier List.mem_cons_self
  -- All that is white in the segment are gaps, so it has no word.
  refine hswallows.has_word (words_eq_nil_iff.2 fun c hc => ?_)
  exact hgaps c (mem_of_mem_segments hsegment hc) (isBlank_iff.1 hswallows.blank c hc)

/-- The line begins with an operator and ends in a tab. A no-break space is skipped behind
    a command that has failed, and would be skipped without the test as well. -/
theorem through_iff_not_swallows_failed :
    let m : Machine := Machine.bare fun _ _ => .quiet (.ok (.exited 0))
    let s := fresh Environment.empty
    let line := " ; nope && \u00a0 ;\t"
    s.state.aliases.IsWellNamed ∧ (∀ turn ∈ turnsOf m s line, ¬ turn.Swallows) ∧
      s.evalLineThrough m line = s.evalLine m line ∧ (s.evalLine m line).state.status = 127 := by
  intro m s line
  have haliases : s.state.aliases.IsWellNamed := by decide +kernel
  have hnone : ∀ turn ∈ turnsOf m s line, ¬ turn.Swallows := by decide +kernel
  exact ⟨haliases, hnone, (through_iff_not_swallows m haliases line).2.1 hnone, by decide +kernel⟩

/-- A no-break space is skipped, and without the test it would be a command that is not
    found. -/
theorem not_through_of_noBreakSpace :
    ¬ ∀ (m : Machine) (s : Session) (line : String), s.state.aliases.IsWellNamed →
      s.evalLineThrough m line = s.evalLine m line := by
  intro h
  have hsame := h (Machine.bare fun _ _ => .quiet (.ok (.exited 0))) (fresh Environment.empty)
    "\u00a0" (by decide +kernel)
  exact absurd (congrArg (·.state.status) hsame) (by decide +kernel)

end Session

end CommandShell
